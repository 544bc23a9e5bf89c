import Mathlib
import Hatohol.ArmRedmine

/-!
# The loop over a page of issues

The loop stops at an issue that looks old; and from an issue that cannot be read on, the rest of the
page is not read, and what the memory holds in place of an update time decides where it stops.
-/

namespace Hatohol

open Table IncidentTables

theorem CString.text_ofString {s : String} (h : '\x00' ∉ s.toList) : (ofString s).text = s := by
  have hall : s.toList.takeWhile (· != '\x00') = s.toList := by
    rw [List.takeWhile_eq_self_iff]
    intro c hc
    rw [bne_iff_ne]
    exact fun heq => h (heq ▸ hc)
  simp [ofString, hall]

namespace RedmineAPI

theorem text_identifier (issueId : Int64) :
    (identifier issueId).text = Nat.repr issueId.toUInt64.toNat := by
  apply CString.text_ofString
  intro hmem
  have hdigit := Nat.isDigit_of_mem_toDigits (by omega) (by omega)
    (show '\x00' ∈ Nat.toDigits 10 issueId.toUInt64.toNat by simpa using hmem)
  exact absurd hdigit (by decide)

theorem identifier_ne_emptyText (issueId : Int64) : identifier issueId ≠ emptyText := by
  intro heq
  have htext := congrArg (fun text : CString => text.text.toList) heq
  simp [text_identifier, emptyText] at htext

theorem identifier_inj {i j : Int64} : identifier i = identifier j ↔ i = j := by
  constructor
  · intro heq
    have htext := congrArg CString.text heq
    rw [text_identifier, text_identifier] at htext
    have hnat := Nat.repr_inj.mp htext
    exact congrArg UInt64.toInt64 (UInt64.toNat_inj.mp hnat)
  · rintro rfl
    rfl

end RedmineAPI

namespace IssueMembers

/-- `RedmineAPI::parseIssue` succeeds. -/
def readable (members : IssueMembers) : Bool :=
  members.id.any (· ≠ 0) && members.createdOn.isSome && members.updatedOn.isSome

/-- An incident has the status, the assignee, the priority and the update time of the issue. -/
def ShownBy (members : IssueMembers) (incident : IncidentInfo) : Prop :=
  incident.status = members.status ∧ incident.assignee = members.assignee.getD emptyText ∧
    incident.priority = members.priority.getD emptyText ∧
    members.updatedOn.map (Timespec.mk · 0) = some incident.updatedAt

instance (members : IssueMembers) (incident : IncidentInfo) :
    Decidable (members.ShownBy incident) :=
  inferInstanceAs (Decidable (_ ∧ _ ∧ _ ∧ _))

end IssueMembers

namespace ArmRedmine

/-- The row of the incident with an identifier. -/
def row (arm : ArmRedmine) (identifier : CString) : Option IncidentInfo :=
  lookup IncidentInfo.key arm.tables.incidents (arm.trackerId, identifier)

theorem row_updateIncidentInfo (arm : ArmRedmine) (incident : IncidentInfo) (identifier : CString) :
    (arm.updateIncidentInfo incident).row identifier =
      if incident.key = (arm.trackerId, identifier) then
        (arm.row identifier).map (setUpdated incident)
      else arm.row identifier := by
  by_cases hany : arm.tables.incidents.any (·.key = incident.key)
  · have htables : arm.updateIncidentInfo incident =
        { arm with
          tables := arm.tables.updateIncidents
            (fun row => if row.key = incident.key then setUpdated incident row else row)
            (key_setUpdated incident) } := by
      simp only [updateIncidentInfo, IncidentTables.updateIncidentInfo, if_pos hany,
        Option.getD_some]
    rw [htables, row, updateIncidents, lookup_map IncidentInfo.key fun r _ => key_setUpdated incident r]
    cases hrow : arm.row identifier with
    | none =>
      rw [row] at hrow
      simp [hrow]
    | some r =>
      rw [row] at hrow
      have hkey := key_of_lookup hrow
      by_cases heq : incident.key = (arm.trackerId, identifier)
      · simp [hrow, hkey, heq]
      · simp [hrow, hkey, heq, Ne.symm heq]
  · have htables : arm.updateIncidentInfo incident = arm := by
      simp only [updateIncidentInfo, IncidentTables.updateIncidentInfo, if_neg hany,
        Option.getD_none]
    rw [htables]
    split
    next hkey =>
      have hnone : arm.row identifier = none := by
        rw [row, lookup_eq_none]
        intro r hr heq
        exact hany (List.any_eq_true.mpr ⟨r, hr, by simp [heq, hkey]⟩)
      simp [hnone]
    next => rfl

variable {arm : ArmRedmine} {succeeded : Bool} {issue : IssueMembers × IncidentInfo} {i : Int64}

/-- An issue that can be read, where all before it on the page could. -/
theorem readIssue_of_readable (arm : ArmRedmine) (h : issue.1.readable) (hid : issue.1.id =
    some i) :
    ∃ incident, arm.readIssue true issue = (true, incident) ∧ issue.1.ShownBy incident ∧
      incident.key = (arm.trackerId, RedmineAPI.identifier i) := by
  obtain ⟨⟨id, status, assignee, priority, doneRatio, createdOn, updatedOn⟩, residue⟩ := issue
  obtain rfl : id = some i := hid
  simp only [IssueMembers.readable, Option.any_some, Bool.and_eq_true, decide_eq_true_eq,
    Option.isSome_iff_exists] at h
  obtain ⟨⟨hi, createdOn, rfl⟩, updatedOn, rfl⟩ := h
  simp only [readIssue, if_true, parseIssue, RedmineAPI.parseIssue, if_neg hi]
  exact ⟨_, rfl, ⟨rfl, rfl, rfl, rfl⟩, rfl⟩

/-- Where an issue is not read, its update time is what the memory held. -/
theorem readIssue_of_not_readable (arm : ArmRedmine) (h : ¬(succeeded ∧ issue.1.readable)) :
    ∃ incident, arm.readIssue succeeded issue = (false, incident) ∧
      incident.updatedAt = issue.2.updatedAt := by
  obtain ⟨⟨id, status, assignee, priority, doneRatio, createdOn, updatedOn⟩, residue⟩ := issue
  cases succeeded with
  | false => exact ⟨_, rfl, rfl⟩
  | true =>
    simp only [readIssue, if_true, parseIssue, RedmineAPI.parseIssue]
    rcases id with - | id
    · exact ⟨_, rfl, rfl⟩
    by_cases hid : id = 0
    · subst hid
      exact ⟨_, rfl, rfl⟩
    · rcases createdOn with - | createdOn
      · simp only [if_neg hid]
        exact ⟨_, rfl, rfl⟩
      · rcases updatedOn with - | updatedOn
        · simp only [if_neg hid]
          exact ⟨_, rfl, rfl⟩
        · simp [IssueMembers.readable, hid] at h

/-- Only an issue that is read is written to the row with its identifier. -/
theorem of_key_readIssue
    (h : (arm.readIssue succeeded issue).2.key = (arm.trackerId, RedmineAPI.identifier i)) :
    succeeded = true ∧ issue.1.id = some i := by
  have hempty : emptyText ≠ RedmineAPI.identifier i := (RedmineAPI.identifier_ne_emptyText i).symm
  have hidentifier : (arm.readIssue succeeded issue).2.identifier = RedmineAPI.identifier i :=
    congrArg Prod.snd h
  obtain ⟨⟨id, status, assignee, priority, doneRatio, createdOn, updatedOn⟩, residue⟩ := issue
  cases succeeded with
  | false => exact absurd hidentifier hempty
  | true =>
    refine ⟨rfl, ?_⟩
    simp only [readIssue, if_true, parseIssue, RedmineAPI.parseIssue] at hidentifier
    rcases id with - | id
    · exact absurd hidentifier hempty
    by_cases hid : id = 0
    · simp only [hid, if_true] at hidentifier
      exact absurd hidentifier hempty
    · cases createdOn <;> cases updatedOn <;>
        simpa [hid, RedmineAPI.identifier_inj] using hidentifier

/-! ## The loop over a page -/

@[simp] theorem row_seeTime (arm : ArmRedmine) (updateTime : Int) (identifier : CString) :
    (arm.seeTime updateTime).row identifier = arm.row identifier := rfl

@[simp] theorem trackerId_seeTime (arm : ArmRedmine) (updateTime : Int) :
    (arm.seeTime updateTime).trackerId = arm.trackerId := rfl

@[simp] theorem lastUpdateTime_seeTime (arm : ArmRedmine) (updateTime : Int) :
    (arm.seeTime updateTime).lastUpdateTime = arm.lastUpdateTime := rfl

theorem le_pending_seeTime (arm : ArmRedmine) (updateTime : Int) :
    arm.lastUpdateTimePending ≤ (arm.seeTime updateTime).lastUpdateTimePending ∧
      updateTime ≤ (arm.seeTime updateTime).lastUpdateTimePending := by
  simp only [seeTime]
  split <;> omega

@[simp] theorem trackerId_updateIncidentInfo (arm : ArmRedmine) (incident : IncidentInfo) :
    (arm.updateIncidentInfo incident).trackerId = arm.trackerId := rfl

@[simp] theorem lastUpdateTime_updateIncidentInfo (arm : ArmRedmine) (incident : IncidentInfo) :
    (arm.updateIncidentInfo incident).lastUpdateTime = arm.lastUpdateTime := rfl

/-- The arm after the turn of an issue that does not look old. -/
def afterIssue (arm : ArmRedmine) (succeeded : Bool) (issue : IssueMembers × IncidentInfo) :
    ArmRedmine :=
  (arm.seeTime (arm.readIssue succeeded issue).2.updatedAt.sec).updateIncidentInfo
    (arm.readIssue succeeded issue).2

theorem parseIssues_cons (succeeded : Bool) (issue : IssueMembers × IncidentInfo)
    (issues : List (IssueMembers × IncidentInfo)) (arm : ArmRedmine) :
    parseIssues succeeded (issue :: issues) arm =
      if arm.lastUpdateTime ≤ (arm.readIssue succeeded issue).2.updatedAt.sec then
        parseIssues (arm.readIssue succeeded issue).1 issues (arm.afterIssue succeeded issue)
      else (false, arm.seeTime (arm.readIssue succeeded issue).2.updatedAt.sec) := rfl

/-- What the loop leaves as it is. -/
structure Kept (arm arm' : ArmRedmine) : Prop where
  trackerId : arm'.trackerId = arm.trackerId
  lastUpdateTime : arm'.lastUpdateTime = arm.lastUpdateTime
  pending : arm.lastUpdateTimePending ≤ arm'.lastUpdateTimePending

theorem Kept.trans {arm arm' arm'' : ArmRedmine} (h : Kept arm arm') (h' : Kept arm' arm'') :
    Kept arm arm'' where
  trackerId := h'.trackerId.trans h.trackerId
  lastUpdateTime := h'.lastUpdateTime.trans h.lastUpdateTime
  pending := h.pending.trans h'.pending

theorem kept_seeTime (arm : ArmRedmine) (updateTime : Int) : Kept arm (arm.seeTime updateTime) where
  trackerId := rfl
  lastUpdateTime := rfl
  pending := (arm.le_pending_seeTime updateTime).1

theorem kept_afterIssue (arm : ArmRedmine) (succeeded : Bool)
    (issue : IssueMembers × IncidentInfo) : Kept arm (arm.afterIssue succeeded issue) where
  trackerId := rfl
  lastUpdateTime := rfl
  pending := (arm.le_pending_seeTime _).1

theorem kept_parseIssues (succeeded : Bool) (issues : List (IssueMembers × IncidentInfo))
    (arm : ArmRedmine) : Kept arm (parseIssues succeeded issues arm).2 := by
  induction issues generalizing succeeded arm with
  | nil => exact ⟨rfl, rfl, le_rfl⟩
  | cons issue issues ih =>
    rw [parseIssues_cons]
    split
    · exact (arm.kept_afterIssue succeeded issue).trans (ih _ _)
    · exact arm.kept_seeTime _

theorem row_afterIssue_of_ne (arm : ArmRedmine) (h : succeeded = true → issue.1.id ≠ some i) :
    (arm.afterIssue succeeded issue).row (RedmineAPI.identifier i) =
      arm.row (RedmineAPI.identifier i) := by
  rw [afterIssue, row_updateIncidentInfo, if_neg]
  · rfl
  · intro hkey
    obtain ⟨hsucceeded, hid⟩ := of_key_readIssue hkey
    exact h hsucceeded hid

/-- A page without the issue leaves its row, and so does the rest of a page where an issue could not
    be read. -/
theorem row_parseIssues_of_ne {issues : List (IssueMembers × IncidentInfo)}
    (h : succeeded = true → ∀ issue ∈ issues, issue.1.id ≠ some i) (arm : ArmRedmine) :
    (parseIssues succeeded issues arm).2.row (RedmineAPI.identifier i) =
      arm.row (RedmineAPI.identifier i) := by
  induction issues generalizing succeeded arm with
  | nil => rfl
  | cons issue issues ih =>
    have hhead := arm.row_afterIssue_of_ne fun hsucceeded => h hsucceeded issue (by simp)
    rw [parseIssues_cons]
    split
    · rw [ih _ _, hhead]
      intro hread
      cases succeeded with
      | false => simp [readIssue] at hread
      | true => exact fun issue hissue => h rfl issue (by simp [hissue])
    · rfl

/-- An issue that comes after one that cannot be read, on the same page. -/
theorem row_parseIssues_of_unreadable {before issues : List (IssueMembers × IncidentInfo)}
    (hne : ∀ issue ∈ before, issue.1.id ≠ some i) (h : ∃ issue ∈ before, issue.1.readable = false)
    (arm : ArmRedmine) :
    (parseIssues succeeded (before ++ issues) arm).2.row (RedmineAPI.identifier i) =
      arm.row (RedmineAPI.identifier i) := by
  induction before generalizing succeeded arm with
  | nil => simp at h
  | cons issue before ih =>
    have hne' : succeeded = true → issue.1.id ≠ some i := fun _ => hne issue (by simp)
    have hhead := arm.row_afterIssue_of_ne hne'
    rw [List.cons_append, parseIssues_cons]
    split
    swap
    · rfl
    by_cases hread : succeeded ∧ issue.1.readable
    · have hbefore : ∃ issue ∈ before, issue.1.readable = false := by
        obtain ⟨bad, hbad, hunreadable⟩ := h
        rcases List.mem_cons.mp hbad with rfl | hbad
        · rw [hread.2] at hunreadable
          cases hunreadable
        · exact ⟨bad, hbad, hunreadable⟩
      rw [ih (fun issue hissue => hne issue (by simp [hissue])) hbefore, hhead]
    · obtain ⟨incident, hincident, -⟩ := arm.readIssue_of_not_readable hread
      rw [row_parseIssues_of_ne _ _, hhead]
      simp [hincident]

/-- The update time of an issue that is read is the one that it shows. -/
theorem updatedOn_of_shownBy {members : IssueMembers}
    {incident : IncidentInfo} (h : members.ShownBy incident) :
    members.updatedOn = some incident.updatedAt.sec := by
  obtain ⟨-, -, -, hupdatedAt⟩ := h
  obtain ⟨updatedOn, hupdatedOn, heq⟩ := Option.map_eq_some_iff.mp hupdatedAt
  rw [hupdatedOn, ← heq]

theorem exists_id_of_readable {members : IssueMembers} (h : members.readable) :
    ∃ issueId, members.id = some issueId := by
  simp only [IssueMembers.readable, Bool.and_eq_true] at h
  obtain ⟨issueId, hid, -⟩ := Option.any_eq_true _ _ |>.mp h.1.1
  exact ⟨issueId, hid⟩

variable (arm issue) in
/-- An issue that is read, with all before it on the page, is written to its row. -/
theorem row_parseIssues_of_readable {before after : List (IssueMembers × IncidentInfo)}
    (hbefore : ∀ issue ∈ before, issue.1.readable ∧ issue.1.id ≠ some i ∧
      ∀ updatedOn ∈ issue.1.updatedOn, arm.lastUpdateTime ≤ updatedOn)
    (hafter : ∀ issue ∈ after, issue.1.id ≠ some i) (hreadable : issue.1.readable)
    (hid : issue.1.id = some i)
    (hnew : ∀ updatedOn ∈ issue.1.updatedOn, arm.lastUpdateTime ≤ updatedOn) :
    ∃ incident, issue.1.ShownBy incident ∧
      (parseIssues true (before ++ issue :: after) arm).2.row (RedmineAPI.identifier i) =
        (arm.row (RedmineAPI.identifier i)).map (setUpdated incident) := by
  induction before generalizing arm with
  | nil =>
    obtain ⟨incident, hincident, hshown, hkey⟩ := arm.readIssue_of_readable hreadable hid
    refine ⟨incident, hshown, ?_⟩
    rw [List.nil_append, parseIssues_cons, hincident, if_pos (hnew _ (updatedOn_of_shownBy hshown)),
      row_parseIssues_of_ne fun _ => hafter]
    rw [afterIssue, hincident, row_updateIncidentInfo]
    exact if_pos hkey
  | cons first before ih =>
    obtain ⟨hfirst, hne, hold⟩ := hbefore first (by simp)
    obtain ⟨j, hj⟩ := exists_id_of_readable hfirst
    obtain ⟨incident, hincident, hshown, -⟩ := arm.readIssue_of_readable hfirst hj
    have hne' : true = true → first.1.id ≠ some i := fun _ => hne
    rw [List.cons_append, parseIssues_cons, hincident,
      if_pos (hold _ (updatedOn_of_shownBy hshown)),
      ← arm.row_afterIssue_of_ne hne']
    have hlast : (arm.afterIssue true first).lastUpdateTime = arm.lastUpdateTime := rfl
    exact ih _ (fun issue hissue => hlast ▸ hbefore issue (by simp [hissue])) (hlast ▸ hnew)

/-- The loop stops at an issue that is older, or at one whose variable holds an older time. -/
theorem exists_old_of_parseIssues {issues : List (IssueMembers × IncidentInfo)}
    (h : (parseIssues succeeded issues arm).1 = false) :
    ∃ (k : Nat) (issue : IssueMembers × IncidentInfo), issues[k]? = some issue ∧
      ((∃ updatedOn ∈ issue.1.updatedOn, updatedOn < arm.lastUpdateTime) ∨
        issue.2.updatedAt.sec < arm.lastUpdateTime ∧
          (succeeded = false ∨ ∃ j ≤ k, ∃ bad : IssueMembers × IncidentInfo,
            issues[j]? = some bad ∧ bad.1.readable = false)) := by
  induction issues generalizing succeeded arm with
  | nil => simp [parseIssues] at h
  | cons issue issues ih =>
    rw [parseIssues_cons] at h
    by_cases hread : succeeded ∧ issue.1.readable
    · obtain ⟨rfl, hreadable⟩ := hread
      obtain ⟨j, hj⟩ := exists_id_of_readable hreadable
      obtain ⟨incident, hincident, hshown, -⟩ := arm.readIssue_of_readable hreadable hj
      rw [hincident] at h
      split at h
      · obtain ⟨k, old, hold, hstop⟩ := ih h
        refine ⟨k + 1, old, hold, hstop.imp_right fun ⟨htime, hbad⟩ => ⟨htime, Or.inr ?_⟩⟩
        obtain hfalse | ⟨j, hjk, bad, hbad, hunreadable⟩ := hbad
        · cases hfalse
        · exact ⟨j + 1, by omega, bad, hbad, hunreadable⟩
      next hold =>
        exact ⟨0, issue, rfl, Or.inl ⟨_, updatedOn_of_shownBy hshown, by simpa using hold⟩⟩
    · obtain ⟨incident, hincident, htime⟩ := arm.readIssue_of_not_readable hread
      have hbad : succeeded = false ∨ issue.1.readable = false := by
        cases succeeded with
        | false => exact Or.inl rfl
        | true => exact Or.inr (by simpa using hread)
      rw [hincident] at h
      split at h
      · obtain ⟨k, old, hold, hstop⟩ := ih h
        refine ⟨k + 1, old, hold, hstop.imp_right fun ⟨htime, _⟩ => ⟨htime, ?_⟩⟩
        exact hbad.imp_right fun hbad => ⟨0, by omega, issue, rfl, hbad⟩
      next hold =>
        refine ⟨0, issue, rfl, Or.inr ⟨?_, ?_⟩⟩
        · simpa [htime] using hold
        · exact hbad.imp_right fun hbad => ⟨0, by omega, issue, rfl, hbad⟩

variable (arm) in
/-- Where the loop comes to the end, no variable that was not read holds an older time. -/
theorem le_of_parseIssues {issues : List (IssueMembers × IncidentInfo)}
    (h : (parseIssues succeeded issues arm).1 = true) {k j : Nat}
    {issue bad : IssueMembers × IncidentInfo} (hk : issues[k]? = some issue) (hjk : j ≤ k)
    (hj : issues[j]? = some bad) (hbad : succeeded = false ∨ bad.1.readable = false) :
    arm.lastUpdateTime ≤ issue.2.updatedAt.sec := by
  induction issues generalizing succeeded arm k j bad with
  | nil => simp at hk
  | cons first issues ih =>
    rw [parseIssues_cons] at h
    split at h
    swap
    · cases h
    next hnew =>
    cases k with
    | zero =>
      obtain rfl : j = 0 := by omega
      obtain rfl : first = issue := by simpa using hk
      obtain rfl : first = bad := by simpa using hj
      have hread : ¬(succeeded ∧ first.1.readable) := by
        rcases hbad with hbad | hbad <;> simp [hbad]
      obtain ⟨incident, hincident, htime⟩ := arm.readIssue_of_not_readable hread
      rwa [hincident, htime] at hnew
    | succ k =>
      rw [List.getElem?_cons_succ] at hk
      by_cases hread : succeeded ∧ first.1.readable
      · obtain ⟨rfl, hreadable⟩ := hread
        cases j with
        | zero =>
          obtain rfl : first = bad := by simpa using hj
          simp [hreadable] at hbad
        | succ j =>
          have hunreadable : bad.1.readable = false := by simpa using hbad
          exact ih (arm.afterIssue true first) h hk (by omega) hj (Or.inr hunreadable)
      · obtain ⟨incident, hincident, -⟩ := arm.readIssue_of_not_readable hread
        exact ih (arm.afterIssue succeeded first) h hk le_rfl hk (Or.inl (by rw [hincident]))

end ArmRedmine

end Hatohol
