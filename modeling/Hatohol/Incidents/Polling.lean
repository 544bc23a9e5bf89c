import Hatohol.Incidents.PageLoop

/-!
# Updates that a poll of Redmine stores

What a poll does to the row of one issue follows from how far the loops over the pages come.
-/

namespace Hatohol

open Table IncidentTables

/-! ## What Redmine holds during a poll -/

/-- An issue. Its form shows the time of the last update, where it shows one. -/
structure RedmineRecord where
  members : IssueMembers
  updatedOn : Int
  /-- What the memory of the variable holds when it is the issue's turn. -/
  residue : IncidentInfo
  shown_updatedOn : ∀ shown ∈ members.updatedOn, shown = updatedOn

inductive PageFault where
  | httpError
  | malformed
  deriving DecidableEq, Repr

/-- The issues that Redmine holds while a poll goes on, and the pages that fail. -/
structure RedminePoll where
  records : List RedmineRecord
  latestFirst : records.Pairwise fun a b => b.updatedOn ≤ a.updatedOn
  distinct : records.Pairwise fun a b => ∀ issueId ∈ a.members.id, issueId ∉ b.members.id
  fault : Nat → Option PageFault

namespace RedminePoll

open ArmRedmine

/-- The issues that were updated on a day or after it. The day is one of UTC. -/
def since (poll : RedminePoll) (day : Option Int) : List RedmineRecord :=
  poll.records.filter fun record =>
    day.all fun day => decide (day * secondsPerDay ≤ record.updatedOn)

/-- The issues of a page, counted from zero. -/
def onPage (poll : RedminePoll) (day : Option Int) (page : Nat) :
    List (IssueMembers × IncidentInfo) :=
  (((poll.since day).drop (page * issuesPerPage)).take issuesPerPage).map
    fun record => (record.members, record.residue)

def page (poll : RedminePoll) (query : RedmineQuery) : IssuesPage where
  issues := poll.onPage query.updatedOn (query.page - 1)
  offset := ((query.page - 1) * issuesPerPage : Nat)
  totalCount := (poll.since query.updatedOn).length

def answer (poll : RedminePoll) (query : RedmineQuery) : PollResponse :=
  match poll.fault query.page with
  | some .httpError => .httpError
  | some .malformed => .answered none
  | none => .answered (some (poll.page query))

theorem getElem?_onPage {poll : RedminePoll} {day : Option Int} {page k : Nat}
    {issue : IssueMembers × IncidentInfo} (h : (poll.onPage day page)[k]? = some issue) :
    k < issuesPerPage ∧ ∃ record, (poll.since day)[page * issuesPerPage + k]? = some record ∧
      issue = (record.members, record.residue) := by
  simp only [onPage, List.getElem?_map, List.getElem?_take, List.getElem?_drop,
    Option.map_eq_some_iff] at h
  obtain ⟨record, hrecord, rfl⟩ := h
  split at hrecord
  next hk => exact ⟨hk, record, hrecord, rfl⟩
  next => cases hrecord

theorem getElem?_onPage_of_since {poll : RedminePoll} {day : Option Int} {page k : Nat}
    {record : RedmineRecord} (hk : k < issuesPerPage)
    (h : (poll.since day)[page * issuesPerPage + k]? = some record) :
    (poll.onPage day page)[k]? = some (record.members, record.residue) := by
  simp [onPage, List.getElem?_drop, hk, h]

theorem since_sublist (poll : RedminePoll) (day : Option Int) :
    (poll.since day).Sublist poll.records :=
  List.filter_sublist

theorem id_ne_of_since {poll : RedminePoll} {day : Option Int} {record other : RedmineRecord}
    {n m : Nat} {i : Int64} (hn : (poll.since day)[n]? = some record)
    (hm : (poll.since day)[m]? = some other) (hid : record.members.id = some i) (hne : m ≠ n) :
    other.members.id ≠ some i := by
  have hdistinct := List.pairwise_iff_getElem.mp (poll.distinct.sublist (poll.since_sublist day))
  obtain ⟨hnlt, rfl⟩ := List.getElem?_eq_some_iff.mp hn
  obtain ⟨hmlt, rfl⟩ := List.getElem?_eq_some_iff.mp hm
  intro hother
  rcases Nat.lt_or_gt_of_ne hne with hlt | hlt
  · exact hdistinct m n hmlt hnlt hlt i hother hid
  · exact hdistinct n m hnlt hmlt hlt i hid hother

theorem eq_of_id (poll : RedminePoll) {record other : RedmineRecord} {i : Int64}
    (hrecord : record ∈ poll.records) (hother : other ∈ poll.records)
    (hid : record.members.id = some i) (hotherId : other.members.id = some i) :
    record = other := by
  by_contra hne
  have hsymm : Std.Symm fun a b : RedmineRecord =>
      ∀ issueId ∈ a.members.id, issueId ∉ b.members.id :=
    ⟨fun a b h issueId hb ha => h issueId ha hb⟩
  exact poll.distinct.forall hrecord hother hne i hid hotherId

theorem updatedOn_le_of_since {poll : RedminePoll} {day : Option Int} {record other : RedmineRecord}
    {n m : Nat} (hn : (poll.since day)[n]? = some record)
    (hm : (poll.since day)[m]? = some other) (hle : m ≤ n) :
    record.updatedOn ≤ other.updatedOn := by
  have hsorted := List.pairwise_iff_getElem.mp (poll.latestFirst.sublist (poll.since_sublist day))
  obtain ⟨hnlt, rfl⟩ := List.getElem?_eq_some_iff.mp hn
  obtain ⟨hmlt, rfl⟩ := List.getElem?_eq_some_iff.mp hm
  rcases Nat.lt_or_eq_of_le hle with hlt | rfl
  · exact hsorted m n hmlt hnlt hlt
  · exact le_rfl

end RedminePoll

namespace ArmRedmine

variable {arm : ArmRedmine} {utcOffset : Int → Int} {poll : RedminePoll} {left page : Nat}

/-- The day that a query asks for. -/
def queriedDay (arm : ArmRedmine) (utcOffset : Int → Int) : Option Int :=
  if 0 < arm.lastUpdateTime then some (arm.getLastUpdateDate utcOffset) else none

/-- The arm after a page, and whether the loop came to the end of it. -/
def afterPage (arm : ArmRedmine) (utcOffset : Int → Int) (poll : RedminePoll) (page : Nat) :
    Bool × ArmRedmine :=
  parseIssues true (poll.onPage (arm.queriedDay utcOffset) page) (arm.seeTime arm.lastUpdateTime)

/-- Another page is asked for. -/
def WantsMore (arm : ArmRedmine) (utcOffset : Int → Int) (poll : RedminePoll) (page : Nat) : Prop :=
  (arm.afterPage utcOffset poll page).1 = true ∧
    poll.onPage (arm.queriedDay utcOffset) page ≠ [] ∧
    page * issuesPerPage + (poll.onPage (arm.queriedDay utcOffset) page).length <
      (poll.since (arm.queriedDay utcOffset)).length

theorem kept_afterPage (arm : ArmRedmine) (utcOffset : Int → Int) (poll : RedminePoll)
    (page : Nat) : Kept arm (arm.afterPage utcOffset poll page).2 :=
  (arm.kept_seeTime _).trans (kept_parseIssues _ _ _)

theorem queriedDay_afterPage (arm : ArmRedmine) (utcOffset : Int → Int) (poll : RedminePoll)
    (page : Nat) :
    (arm.afterPage utcOffset poll page).2.queriedDay utcOffset = arm.queriedDay utcOffset := by
  simp only [queriedDay, getLastUpdateDate, (arm.kept_afterPage utcOffset poll page).lastUpdateTime]

theorem parseResponse_page (arm : ArmRedmine) (utcOffset : Int → Int) (poll : RedminePoll)
    (page : Nat) :
    (arm.WantsMore utcOffset poll page ∧
      arm.parseResponse (some (poll.page (arm.getQuery utcOffset (page + 1)))) =
        (.needNextPage, (arm.afterPage utcOffset poll page).2)) ∨
    (¬arm.WantsMore utcOffset poll page ∧
      arm.parseResponse (some (poll.page (arm.getQuery utcOffset (page + 1)))) =
        (.ok, { (arm.afterPage utcOffset poll page).2 with
          lastUpdateTime := (arm.afterPage utcOffset poll page).2.lastUpdateTimePending })) := by
  have hmore : (poll.page (arm.getQuery utcOffset (page + 1))).issues ≠ [] ∧
      (arm.afterPage utcOffset poll page).1 = true ∧
      hasNextPage (poll.page (arm.getQuery utcOffset (page + 1))) = true ↔
        arm.WantsMore utcOffset poll page := by
    have hnext : hasNextPage (poll.page (arm.getQuery utcOffset (page + 1))) = true ↔
        page * issuesPerPage + (poll.onPage (arm.queriedDay utcOffset) page).length <
          (poll.since (arm.queriedDay utcOffset)).length := by
      simp only [hasNextPage, RedminePoll.page, getQuery, queriedDay, Nat.add_sub_cancel,
        Bool.not_eq_true', decide_eq_false_iff_not, not_le]
      omega
    rw [hnext, WantsMore]
    exact and_left_comm
  have hparse : arm.parseResponse (some (poll.page (arm.getQuery utcOffset (page + 1)))) =
      if (poll.page (arm.getQuery utcOffset (page + 1))).issues ≠ [] ∧
          (arm.afterPage utcOffset poll page).1 = true ∧
          hasNextPage (poll.page (arm.getQuery utcOffset (page + 1))) = true then
        (.needNextPage, (arm.afterPage utcOffset poll page).2)
      else
        (.ok, { (arm.afterPage utcOffset poll page).2 with
          lastUpdateTime := (arm.afterPage utcOffset poll page).2.lastUpdateTimePending }) := rfl
  by_cases hwants : arm.WantsMore utcOffset poll page
  · exact Or.inl ⟨hwants, by rw [hparse, if_pos (hmore.mpr hwants)]⟩
  · exact Or.inr ⟨hwants, by rw [hparse, if_neg (hwants ∘ hmore.mp)]⟩

/-- What the pages from one on can do. -/
theorem collectPages_cases (arm : ArmRedmine) (utcOffset : Int → Int) (poll : RedminePoll)
    (left page : Nat) :
    ((collectPages utcOffset poll.answer left (page + 1) arm).1 ≠ .collectOk ∧
      (collectPages utcOffset poll.answer left (page + 1) arm).2 = arm) ∨
    (¬arm.WantsMore utcOffset poll page ∧
      collectPages utcOffset poll.answer left (page + 1) arm =
        (.collectOk, { (arm.afterPage utcOffset poll page).2 with
          lastUpdateTime := (arm.afterPage utcOffset poll page).2.lastUpdateTimePending })) ∨
    (arm.WantsMore utcOffset poll page ∧ left = 0 ∧
      collectPages utcOffset poll.answer left (page + 1) arm =
        (.collectNgInternalError, (arm.afterPage utcOffset poll page).2)) ∨
    (arm.WantsMore utcOffset poll page ∧ ∃ left', left = left' + 1 ∧
      collectPages utcOffset poll.answer left (page + 1) arm =
        collectPages utcOffset poll.answer left' (page + 1 + 1)
          (arm.afterPage utcOffset poll page).2) := by
  cases hfault : poll.fault (page + 1) with
  | some fault =>
    left
    rw [collectPages.eq_def]
    cases fault <;> simp [RedminePoll.answer, getQuery, hfault, parseResponse]
  | none =>
    right
    have hanswer : poll.answer (arm.getQuery utcOffset (page + 1)) =
        .answered (some (poll.page (arm.getQuery utcOffset (page + 1)))) := by
      simp only [RedminePoll.answer, getQuery, hfault]
    rcases arm.parseResponse_page utcOffset poll page with ⟨hwants, hparse⟩ | ⟨hwants, hparse⟩
    · cases left with
      | zero => exact Or.inr (Or.inl ⟨hwants, rfl, by simp only [collectPages, hanswer, hparse]⟩)
      | succ left =>
        refine Or.inr (Or.inr ⟨hwants, left, rfl, ?_⟩)
        conv_lhs => rw [collectPages.eq_def]
        simp only [hanswer, hparse]
    · refine Or.inl ⟨hwants, ?_⟩
      rw [collectPages.eq_def]
      simp only [hanswer, hparse]

/-- The pages leave the tracker, and the time changes only where the poll succeeds. -/
theorem collectPages_frame (arm : ArmRedmine) (utcOffset : Int → Int) (poll : RedminePoll)
    (left page : Nat) :
    (collectPages utcOffset poll.answer left (page + 1) arm).2.trackerId = arm.trackerId ∧
      arm.lastUpdateTime ≤
        (collectPages utcOffset poll.answer left (page + 1) arm).2.lastUpdateTime ∧
      ((collectPages utcOffset poll.answer left (page + 1) arm).1 ≠ .collectOk →
        (collectPages utcOffset poll.answer left (page + 1) arm).2.lastUpdateTime =
          arm.lastUpdateTime) := by
  induction left using Nat.strongRecOn generalizing page arm with
  | ind left ih =>
    have hkept := arm.kept_afterPage utcOffset poll page
    rcases arm.collectPages_cases utcOffset poll left page with
      ⟨-, hresult⟩ | ⟨-, hresult⟩ | ⟨-, -, hresult⟩ | ⟨-, left', rfl, hresult⟩
    · rw [hresult]
      exact ⟨rfl, le_rfl, fun _ => rfl⟩
    · rw [hresult]
      have hseen := (arm.le_pending_seeTime arm.lastUpdateTime).2
      have hpending := (kept_parseIssues true (poll.onPage (arm.queriedDay utcOffset) page)
        (arm.seeTime arm.lastUpdateTime)).pending
      exact ⟨hkept.trackerId, hseen.trans hpending, fun h => absurd rfl h⟩
    · rw [hresult]
      exact ⟨hkept.trackerId, hkept.lastUpdateTime.ge, fun _ => hkept.lastUpdateTime⟩
    · obtain ⟨htrackerId, hle, heq⟩ := ih left' (by omega) (arm.afterPage utcOffset poll page).2
        (page + 1)
      rw [hresult]
      rw [hkept.lastUpdateTime] at hle heq
      exact ⟨htrackerId.trans hkept.trackerId, hle, heq⟩

theorem row_afterPage_of_ne {i : Int64}
    (h : ∀ issue ∈ poll.onPage (arm.queriedDay utcOffset) page, issue.1.id ≠ some i) :
    (arm.afterPage utcOffset poll page).2.row (RedmineAPI.identifier i) =
      arm.row (RedmineAPI.identifier i) :=
  row_parseIssues_of_ne (fun _ => h) _

/-- Pages without an issue leave its row. -/
theorem row_collectPages_of_ne {i : Int64}
    (h : ∀ (n : Nat) (record : RedmineRecord), page * issuesPerPage ≤ n →
      (poll.since (arm.queriedDay utcOffset))[n]? = some record → record.members.id ≠ some i) :
    (collectPages utcOffset poll.answer left (page + 1) arm).2.row (RedmineAPI.identifier i) =
      arm.row (RedmineAPI.identifier i) := by
  induction left using Nat.strongRecOn generalizing page arm with
  | ind left ih =>
    have hpage : ∀ issue ∈ poll.onPage (arm.queriedDay utcOffset) page, issue.1.id ≠ some i := by
      intro issue hissue
      obtain ⟨k, hk⟩ := List.mem_iff_getElem?.mp hissue
      obtain ⟨-, record, hrecord, rfl⟩ := RedminePoll.getElem?_onPage hk
      exact h _ record (by omega) hrecord
    have hrow := row_afterPage_of_ne hpage
    rcases arm.collectPages_cases utcOffset poll left page with
      ⟨-, hresult⟩ | ⟨-, hresult⟩ | ⟨-, -, hresult⟩ | ⟨-, left', rfl, hresult⟩
    · rw [hresult]
    · rw [hresult]
      exact hrow
    · rw [hresult]
      exact hrow
    · rw [hresult, ih left' (by omega), hrow]
      intro n record hn hrecord
      rw [queriedDay_afterPage] at hrecord
      exact h n record (by rw [Nat.add_mul] at hn; omega) hrecord

/-- From the page `page` on, the loop comes to the issue at a place and reads it: an issue that
    cannot be read, and all after it on its page, are on an earlier page and do not look old. -/
def ReadsFrom (last : Int) (records : List RedmineRecord) (page n : Nat) : Prop :=
  ∀ m < n, ∀ j ≤ m, page ≤ j / issuesPerPage → j / issuesPerPage = m / issuesPerPage →
    ∀ record ∈ records[m]?, ∀ bad ∈ records[j]?, bad.members.readable = false →
      m / issuesPerPage < n / issuesPerPage ∧ last ≤ record.residue.updatedAt.sec

variable {record : RedmineRecord} {n : Nat} {i : Int64}

theorem onPage_eq {day : Option Int} {k : Nat} (hk : k < issuesPerPage)
    (hn : (poll.since day)[page * issuesPerPage + k]? = some record) :
    poll.onPage day page = (poll.onPage day page).take k ++
      (record.members, record.residue) :: (poll.onPage day page).drop (k + 1) := by
  obtain ⟨hlt, hget⟩ := List.getElem?_eq_some_iff.mp (RedminePoll.getElem?_onPage_of_since hk hn)
  conv_lhs => rw [← List.take_append_drop k (poll.onPage day page), List.drop_eq_getElem_cons hlt]
  rw [hget]

/-- The page that the issue is on. -/
theorem row_afterPage {k : Nat} (hk : k < issuesPerPage)
    (hn : (poll.since (arm.queriedDay utcOffset))[page * issuesPerPage + k]? = some record)
    (hreadable : record.members.readable)
    (hid : record.members.id = some i) (hnew : arm.lastUpdateTime ≤ record.updatedOn) :
    (ReadsFrom arm.lastUpdateTime (poll.since (arm.queriedDay utcOffset)) page
        (page * issuesPerPage + k) →
      ∃ incident, record.members.ShownBy incident ∧
        (arm.afterPage utcOffset poll page).2.row (RedmineAPI.identifier i) =
          (arm.row (RedmineAPI.identifier i)).map (setUpdated incident)) ∧
    (¬ReadsFrom arm.lastUpdateTime (poll.since (arm.queriedDay utcOffset)) page
        (page * issuesPerPage + k) →
      (arm.afterPage utcOffset poll page).2.row (RedmineAPI.identifier i) =
        arm.row (RedmineAPI.identifier i)) := by
  generalize hday : arm.queriedDay utcOffset = day at hn ⊢
  have hbefore : ∀ issue ∈ (poll.onPage day page).take k, ∃ j < k, ∃ other : RedmineRecord,
      (poll.since day)[page * issuesPerPage + j]? = some other ∧
        issue = (other.members, other.residue) := by
    intro issue hissue
    obtain ⟨j, hj⟩ := List.mem_iff_getElem?.mp hissue
    rw [List.getElem?_take] at hj
    split at hj
    next hjk =>
      obtain ⟨-, other, hother, heq⟩ := RedminePoll.getElem?_onPage hj
      exact ⟨j, hjk, other, hother, heq⟩
    next => cases hj
  have hbeforeNe : ∀ issue ∈ (poll.onPage day page).take k, issue.1.id ≠ some i := by
    intro issue hissue
    obtain ⟨j, hjk, other, hother, rfl⟩ := hbefore issue hissue
    exact RedminePoll.id_ne_of_since hn hother hid (by omega)
  have hafter : ∀ issue ∈ (poll.onPage day page).drop (k + 1), issue.1.id ≠ some i := by
    intro issue hissue
    obtain ⟨j, hj⟩ := List.mem_iff_getElem?.mp hissue
    rw [List.getElem?_drop] at hj
    obtain ⟨-, other, hother, rfl⟩ := RedminePoll.getElem?_onPage hj
    exact RedminePoll.id_ne_of_since hn hother hid (by omega)
  rw [afterPage, hday, onPage_eq hk hn]
  constructor
  · intro hreads
    have hread : ∀ issue ∈ (poll.onPage day page).take k, issue.1.readable ∧
        issue.1.id ≠ some i ∧ ∀ updatedOn ∈ issue.1.updatedOn, arm.lastUpdateTime ≤ updatedOn := by
      intro issue hissue
      obtain ⟨j, hjk, other, hother, rfl⟩ := hbefore issue hissue
      refine ⟨?_, hbeforeNe _ hissue, fun updatedOn hupdatedOn => ?_⟩
      · -- an issue that cannot be read is on an earlier page, but this one is not
        by_contra hbad
        have hsame := (hreads (page * issuesPerPage + j) (by omega) _ le_rfl
          (by rw [Nat.le_div_iff_mul_le (by decide)]; omega) rfl other hother other hother
          (by simpa using hbad)).1
        simp only [issuesPerPage] at hsame hk
        omega
      · rw [other.shown_updatedOn _ hupdatedOn]
        exact hnew.trans (RedminePoll.updatedOn_le_of_since hn hother (by omega))
    apply row_parseIssues_of_readable (arm.seeTime arm.lastUpdateTime)
      (record.members, record.residue) hread hafter hreadable hid
    intro updatedOn hupdatedOn
    rw [record.shown_updatedOn _ hupdatedOn]
    exact hnew
  · intro hreads
    apply row_parseIssues_of_unreadable hbeforeNe
    simp only [ReadsFrom, not_forall] at hreads
    obtain ⟨m, hm, j, hj, hpage, hsame, other, hother, bad, hbad, hunreadable, hstop⟩ := hreads
    simp only [issuesPerPage] at *
    refine ⟨(bad.members, bad.residue), ?_, hunreadable⟩
    rw [List.mem_iff_getElem?]
    refine ⟨j - page * 100, ?_⟩
    rw [List.getElem?_take, if_pos (by omega)]
    apply RedminePoll.getElem?_onPage_of_since
    · simp only [issuesPerPage]
      omega
    · simp only [issuesPerPage]
      rwa [show page * 100 + (j - page * 100) = j by omega]

/-- Where no page is asked for though the issue is on a later one, the loop has stopped before. -/
theorem not_readsFrom_of_not_wantsMore
    (hn : (poll.since (arm.queriedDay utcOffset))[n]? = some record)
    (hpage : page < n / issuesPerPage) (hnew : arm.lastUpdateTime ≤ record.updatedOn)
    (h : ¬arm.WantsMore utcOffset poll page) :
    ¬ReadsFrom arm.lastUpdateTime (poll.since (arm.queriedDay utcOffset)) page n := by
  intro hreads
  have hlater : (page + 1) * issuesPerPage ≤ n := (Nat.le_div_iff_mul_le (by decide)).mp hpage
  obtain ⟨hlength, -⟩ := List.getElem?_eq_some_iff.mp hn
  have hfull : (poll.onPage (arm.queriedDay utcOffset) page).length = issuesPerPage := by
    simp only [RedminePoll.onPage, List.length_map, List.length_take, List.length_drop]
    rw [Nat.add_mul] at hlater
    omega
  have hstopped : (arm.afterPage utcOffset poll page).1 = false := by
    by_contra hcomplete
    refine h ⟨by simpa using hcomplete, ?_, ?_⟩
    · intro hnil
      rw [hnil] at hfull
      cases hfull
    · rw [hfull]
      rw [Nat.add_mul] at hlater
      omega
  obtain ⟨k, issue, hk, hold⟩ := exists_old_of_parseIssues hstopped
  obtain ⟨hk, other, hother, rfl⟩ := RedminePoll.getElem?_onPage hk
  simp only [issuesPerPage] at *
  rcases hold with ⟨updatedOn, hupdatedOn, hlt⟩ | ⟨hlt, hbad⟩
  · rw [other.shown_updatedOn _ hupdatedOn] at hlt
    have hle := RedminePoll.updatedOn_le_of_since hn hother (by omega)
    exact absurd (hnew.trans hle) (not_le.mpr hlt)
  · obtain hfalse | ⟨j, hjk, bad, hbad, hunreadable⟩ := hbad
    · cases hfalse
    obtain ⟨hj, badRecord, hbadRecord, rfl⟩ := RedminePoll.getElem?_onPage hbad
    simp only [issuesPerPage] at *
    have hle := (hreads (page * 100 + k) (by omega) (page * 100 + j) (by omega)
      (by simp only [issuesPerPage]; omega) (by simp only [issuesPerPage]; omega) other hother
      badRecord hbadRecord hunreadable).2
    exact absurd hle (not_le.mpr hlt)

theorem readsFrom_succ_iff (h : arm.WantsMore utcOffset poll page)
    (hpage : page < n / issuesPerPage) :
    ReadsFrom arm.lastUpdateTime (poll.since (arm.queriedDay utcOffset)) page n ↔
      ReadsFrom arm.lastUpdateTime (poll.since (arm.queriedDay utcOffset)) (page + 1) n := by
  constructor
  · intro hreads m hm j hj hfrom
    exact hreads m hm j hj (by omega)
  · intro hreads m hm j hj hfrom hsame other hother bad hbad hunreadable
    rcases Nat.eq_or_lt_of_le hfrom with rfl | hlt
    · refine ⟨by omega, ?_⟩
      have hcomplete := h.1
      simp only [issuesPerPage] at *
      have hk : (poll.onPage (arm.queriedDay utcOffset) (j / 100))[m - j / 100 * 100]? =
          some (other.members, other.residue) := by
        apply RedminePoll.getElem?_onPage_of_since
        · simp only [issuesPerPage]
          omega
        · simp only [issuesPerPage]
          rwa [show j / 100 * 100 + (m - j / 100 * 100) = m by omega]
      have hj : (poll.onPage (arm.queriedDay utcOffset) (j / 100))[j - j / 100 * 100]? =
          some (bad.members, bad.residue) := by
        apply RedminePoll.getElem?_onPage_of_since
        · simp only [issuesPerPage]
          omega
        · simp only [issuesPerPage]
          rwa [show j / 100 * 100 + (j - j / 100 * 100) = j by omega]
      exact le_of_parseIssues (arm.seeTime arm.lastUpdateTime) hcomplete hk (by omega) hj
        (Or.inr hunreadable)
    · exact hreads m hm j hj hlt hsame other hother bad hbad hunreadable

/-- The pages from one on, where the issue is on one of them. -/
theorem row_collectPages (hn : (poll.since (arm.queriedDay utcOffset))[n]? = some record)
    (hpage : page ≤ n / issuesPerPage) (hreadable : record.members.readable)
    (hid : record.members.id = some i) (hnew : arm.lastUpdateTime ≤ record.updatedOn)
    (hok : (collectPages utcOffset poll.answer left (page + 1) arm).1 = .collectOk) :
    (ReadsFrom arm.lastUpdateTime (poll.since (arm.queriedDay utcOffset)) page n →
      ∃ incident, record.members.ShownBy incident ∧
        (collectPages utcOffset poll.answer left (page + 1) arm).2.row (RedmineAPI.identifier i) =
          (arm.row (RedmineAPI.identifier i)).map (setUpdated incident)) ∧
    (¬ReadsFrom arm.lastUpdateTime (poll.since (arm.queriedDay utcOffset)) page n →
      (collectPages utcOffset poll.answer left (page + 1) arm).2.row (RedmineAPI.identifier i) =
        arm.row (RedmineAPI.identifier i)) := by
  induction left using Nat.strongRecOn generalizing page arm with
  | ind left ih =>
  have hdiv : n = n / issuesPerPage * issuesPerPage + n % issuesPerPage := by
    rw [Nat.mul_comm, Nat.div_add_mod]
  rcases Nat.eq_or_lt_of_le hpage with heq | hlt
  · -- the issue is on this page, and the next ones do not touch its row
    have hrest : (collectPages utcOffset poll.answer left (page + 1) arm).2.row
        (RedmineAPI.identifier i) =
          (arm.afterPage utcOffset poll page).2.row (RedmineAPI.identifier i) := by
      rcases arm.collectPages_cases utcOffset poll left page with
        ⟨hfail, -⟩ | ⟨-, hresult⟩ | ⟨-, -, hresult⟩ | ⟨-, left', rfl, hresult⟩
      · exact absurd hok hfail
      · rw [hresult]
        rfl
      · rw [hresult]
      · rw [hresult]
        apply row_collectPages_of_ne
        intro m other hm hother
        rw [queriedDay_afterPage] at hother
        apply RedminePoll.id_ne_of_since hn hother hid
        rintro rfl
        have hpast := (Nat.le_div_iff_mul_le (by decide)).mpr hm
        omega
    rw [hrest]
    subst heq
    have hplace : (poll.since (arm.queriedDay utcOffset))[n / issuesPerPage * issuesPerPage +
        n % issuesPerPage]? = some record := by rwa [← hdiv]
    have hrow := row_afterPage (Nat.mod_lt n (by decide)) hplace hreadable hid hnew
    rwa [← hdiv] at hrow
  · have hrow : (arm.afterPage utcOffset poll page).2.row (RedmineAPI.identifier i) =
        arm.row (RedmineAPI.identifier i) := by
      apply row_afterPage_of_ne
      intro issue hissue
      obtain ⟨k, hget⟩ := List.mem_iff_getElem?.mp hissue
      obtain ⟨hk, other, hother, rfl⟩ := RedminePoll.getElem?_onPage hget
      apply RedminePoll.id_ne_of_since hn hother hid
      intro heq
      simp only [issuesPerPage] at hlt hk heq
      omega
    rcases arm.collectPages_cases utcOffset poll left page with
      ⟨hfail, -⟩ | ⟨hwants, hresult⟩ | ⟨-, -, hresult⟩ | ⟨hwants, left', rfl, hresult⟩
    · exact absurd hok hfail
    · have hstops := not_readsFrom_of_not_wantsMore hn hlt hnew hwants
      rw [hresult]
      exact ⟨fun hreads => absurd hreads hstops, fun _ => hrow⟩
    · rw [hresult] at hok
      cases hok
    · rw [readsFrom_succ_iff hwants hlt, hresult, ← hrow]
      rw [hresult] at hok
      have hkept := arm.kept_afterPage utcOffset poll page
      rw [← queriedDay_afterPage arm utcOffset poll page] at hn ⊢
      rw [← hkept.lastUpdateTime] at hnew ⊢
      exact ih left' (by omega) hn hlt hnew hok

/-! ## Polls one after another -/

/-- What happens to an arm that has been started: a poll, or a write of others to the tables. -/
inductive Event where
  | poll (poll : RedminePoll)
  | write (tables : IncidentTables)

def afterEvent (utcOffset : Int → Int) (arm : ArmRedmine) : Event → ArmRedmine
  | .poll poll => (arm.mainThreadOneProc utcOffset poll.answer).2
  | .write tables => { arm with tables := tables }

def run (utcOffset : Int → Int) (arm : ArmRedmine) (events : List Event) : ArmRedmine :=
  events.foldl (afterEvent utcOffset) arm

/-- The issue has a row. -/
def Recorded (arm : ArmRedmine) (record : RedmineRecord) : Prop :=
  ∃ issueId ∈ record.members.id, (arm.row (RedmineAPI.identifier issueId)).isSome

/-- The row of the issue shows what the issue shows. -/
def Stored (arm : ArmRedmine) (record : RedmineRecord) : Prop :=
  ∃ issueId ∈ record.members.id, ∃ row ∈ arm.row (RedmineAPI.identifier issueId),
    record.members.ShownBy row

/-- The issue is one of those that are to be stored by a poll. -/
structure Updated (arm : ArmRedmine) (record : RedmineRecord) : Prop where
  readable : record.members.readable
  recorded : arm.Recorded record
  since : arm.lastUpdateTime ≤ record.updatedOn

def StoresUpdates (arm : ArmRedmine) (poll : RedminePoll) (arm' : ArmRedmine) : Prop :=
  ∀ record ∈ poll.records, arm.Updated record → arm'.Stored record

/-- Redmine answers with the issue, and the loop comes to it and reads it. -/
def Reads (arm : ArmRedmine) (utcOffset : Int → Int) (poll : RedminePoll)
    (record : RedmineRecord) : Prop :=
  ∃ n : Nat, (poll.since (some (arm.getLastUpdateDate utcOffset)))[n]? = some record ∧
    ReadsFrom arm.lastUpdateTime (poll.since (some (arm.getLastUpdateDate utcOffset))) 0 n

theorem lastUpdateTime_mainThreadOneProc (arm : ArmRedmine) (utcOffset : Int → Int)
    (poll : RedminePoll) :
    arm.lastUpdateTime ≤ (arm.mainThreadOneProc utcOffset poll.answer).2.lastUpdateTime ∧
      ((arm.mainThreadOneProc utcOffset poll.answer).1 ≠ .collectOk →
        (arm.mainThreadOneProc utcOffset poll.answer).2.lastUpdateTime = arm.lastUpdateTime) := by
  rw [mainThreadOneProc]
  split
  · exact ⟨le_rfl, fun _ => rfl⟩
  · exact (arm.collectPages_frame utcOffset poll _ 0).2

theorem lastUpdateTime_pos_run (utcOffset : Int → Int) {arm : ArmRedmine}
    (h : 0 < arm.lastUpdateTime) (events : List Event) :
    0 < (run utcOffset arm events).lastUpdateTime := by
  induction events generalizing arm with
  | nil => exact h
  | cons event events ih =>
    apply ih
    cases event with
    | poll poll => exact h.trans_le (arm.lastUpdateTime_mainThreadOneProc utcOffset poll).1
    | write tables => exact h

theorem stored_of_map_setUpdated {arm' : ArmRedmine} {incident : IncidentInfo}
    (hid : record.members.id = some i) (hrecorded : arm.Recorded record)
    (hshown : record.members.ShownBy incident)
    (hrow : arm'.row (RedmineAPI.identifier i) =
      (arm.row (RedmineAPI.identifier i)).map (setUpdated incident)) :
    arm'.Stored record := by
  obtain ⟨issueId, hissueId, hsome⟩ := hrecorded
  obtain rfl : i = issueId := Option.some.inj (hid.symm.trans hissueId)
  obtain ⟨row, hold⟩ := Option.isSome_iff_exists.mp hsome
  exact ⟨i, hid, setUpdated incident row, by rw [hrow, hold]; rfl, hshown⟩

theorem stored_congr {arm' : ArmRedmine} (hid : record.members.id = some i)
    (hrow : arm'.row (RedmineAPI.identifier i) = arm.row (RedmineAPI.identifier i)) :
    arm'.Stored record ↔ arm.Stored record := by
  simp only [Stored, hid, Option.mem_some_iff, exists_eq_left', hrow]

/-- One issue in one poll. -/
theorem stored_mainThreadOneProc_iff (hstarted : 0 < arm.lastUpdateTime)
    (hrecord : record ∈ poll.records) (hupdated : arm.Updated record)
    (hok : (arm.mainThreadOneProc utcOffset poll.answer).1 = .collectOk) :
    (arm.mainThreadOneProc utcOffset poll.answer).2.Stored record ↔
      arm.Stored record ∨ arm.Reads utcOffset poll record := by
  obtain ⟨i, hid⟩ := exists_id_of_readable hupdated.readable
  have hday : arm.queriedDay utcOffset = some (arm.getLastUpdateDate utcOffset) := if_pos hstarted
  rw [mainThreadOneProc, if_neg hstarted.ne'] at hok ⊢
  by_cases hreads : arm.Reads utcOffset poll record
  · obtain ⟨n, hn, hfrom⟩ := hreads
    have hrow := row_collectPages (hday ▸ hn) (Nat.zero_le _) hupdated.readable hid hupdated.since
      hok
    obtain ⟨incident, hshown, hrow⟩ := hrow.1 (hday ▸ hfrom)
    exact iff_of_true (stored_of_map_setUpdated hid hupdated.recorded hshown hrow)
      (Or.inr ⟨n, hn, hfrom⟩)
  · have hrow : (collectPages utcOffset poll.answer (pageLimit - 1) 1 arm).2.row
        (RedmineAPI.identifier i) = arm.row (RedmineAPI.identifier i) := by
      by_cases hreturned : record ∈ poll.since (arm.queriedDay utcOffset)
      · obtain ⟨n, hn⟩ := List.mem_iff_getElem?.mp hreturned
        have hrow := row_collectPages hn (Nat.zero_le _) hupdated.readable hid hupdated.since hok
        exact hrow.2 fun hfrom => hreads ⟨n, hday ▸ hn, hday ▸ hfrom⟩
      · apply row_collectPages_of_ne
        intro n other _ hother hotherId
        obtain rfl := poll.eq_of_id hrecord
          ((poll.since_sublist _).subset (List.mem_of_getElem? hother)) hid hotherId
        exact hreturned (List.mem_of_getElem? hother)
    rw [stored_congr hid hrow]
    exact (or_iff_left hreads).symm

/-- Issue 1 as it was at 20:00 on 1970-01-02, in UTC. -/
def incidentInTheEvening : IncidentInfo :=
  ⟨1, 1, .ofString "3", emptyText, RedmineAPI.identifier 1, emptyText, .ofString "New", emptyText,
    ⟨0, 0⟩, ⟨158400, 0⟩, .ofString "Normal", 0, 1, 0⟩

def stoppedInTheEvening : ArmRedmine where
  trackerId := 1
  baseURL := .ofString "http://localhost"
  lastUpdateTime := 0
  lastUpdateTimePending := 0
  tables := {
    incidents := [incidentInTheEvening]
    histories := .empty _
    uniqueKey := List.nodup_singleton _ }

def startedInTheEvening : ArmRedmine := { stoppedInTheEvening with lastUpdateTime := 158400 }

/-- Issue 1 is closed an hour later. -/
def closedAtNine : RedmineRecord where
  members := ⟨some 1, .ofString "Closed", none, some (.ofString "Normal"), 100, some 0, some 162000⟩
  updatedOn := 162000
  residue := incidentInTheEvening
  shown_updatedOn := by simp

/-- Issue 2 is updated another hour later, and shows no time. -/
def undatedAtTen : RedmineRecord where
  members := ⟨some 2, .ofString "New", none, none, 0, some 0, none⟩
  updatedOn := 165600
  residue := { incidentInTheEvening with updatedAt := ⟨0, 0⟩ }
  shown_updatedOn := by simp

/-- Issue 3 is updated last. -/
def openedAtEleven : RedmineRecord where
  members := ⟨some 3, .ofString "New", none, none, 0, some 0, some 169200⟩
  updatedOn := 169200
  residue := incidentInTheEvening
  shown_updatedOn := by simp

def pollAtNine : RedminePoll where
  records := [closedAtNine]
  latestFirst := List.pairwise_singleton _ _
  distinct := List.pairwise_singleton _ _
  fault _ := none

def pollAtEleven : RedminePoll where
  records := [openedAtEleven, undatedAtTen, closedAtNine]
  latestFirst := by simp [openedAtEleven, undatedAtTen, closedAtNine]
  distinct := by simp [openedAtEleven, undatedAtTen, closedAtNine]
  fault _ := none

theorem startIfNeeded_stoppedInTheEvening :
    stoppedInTheEvening.startIfNeeded = some startedInTheEvening := rfl

theorem updated_closedAtNine : startedInTheEvening.Updated closedAtNine where
  readable := by decide
  recorded := ⟨1, rfl, by decide +kernel⟩
  since := by decide

theorem not_storesUpdates {arm : ArmRedmine} {poll : RedminePoll}
    (hrecord : closedAtNine ∈ poll.records)
    (hrow : arm.row (RedmineAPI.identifier 1) = some incidentInTheEvening) :
    ¬startedInTheEvening.StoresUpdates poll arm := by
  intro hstores
  obtain ⟨issueId, hissueId, row, hstored, hshown⟩ :=
    hstores closedAtNine hrecord updated_closedAtNine
  obtain rfl : 1 = issueId := Option.some.inj hissueId
  obtain rfl : incidentInTheEvening = row := Option.some.inj (hrow.symm.trans hstored)
  exact absurd hshown (by decide)

end ArmRedmine

end Hatohol
