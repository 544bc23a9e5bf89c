import Mathlib.Data.Finset.Card
import Hatohol.Triggers.Condition

/-!
# How many hosts the triggers of a query have

`getNumberOfHosts` and `getNumberOfBadHosts` count distinct IDs of hosts, whichever server they are
of, and `getNumberOfGoodHosts` subtracts the one from the other (DBTablesMonitoring.cc:3226-3287).
The status is appended to the condition, so a condition with a bare `OR` lets other triggers in.
-/

namespace Hatohol

open Sql DBTermCodec

/-- TRIGGER_STATUS_PROBLEM -/
def triggerStatusProblem : Int := 1

theorem hostIdInServer_lt_numColumns : 7 < tableProfileTriggers.numColumns := by decide

def idxTriggersHostIdInServer : Fin tableProfileTriggers.numColumns :=
  ⟨7, hostIdInServer_lt_numColumns⟩

namespace TriggersQueryOption

def shows (o : TriggersQueryOption) (row : String → Value) : Bool :=
  match o.getCondition with
  | .ok condition => selects condition row
  | .error _ => false

/-- The row is shown by an alternative that nothing appended to the condition is bound to. -/
def escapes (o : TriggersQueryOption) (row : String → Value) : Bool :=
  match o.getCondition with
  | .ok condition => selects (addAnd condition alwaysFalseCondition) row
  | .error _ => false

def getColumnName (o : TriggersQueryOption) (idx : Fin tableProfileTriggers.numColumns) : String :=
  o.base.getColumnNameCommon ⟨tableProfileTriggers, idx⟩

/-- What `getNumberOfBadHosts` appends. -/
def problemCondition (o : TriggersQueryOption) : String :=
  o.getColumnName idxTriggersStatus ++ "=" ++ toString triggerStatusProblem

/-- The rows of the host groups that a trigger is joined with. The host that is joined besides is
    not named in any condition, and distinct values are counted. -/
def joinedMembers (o : TriggersQueryOption) (members : List HostgroupMember) (trig : TriggerInfo) :
    List (Option HostgroupMember) :=
  if o.base.isHostgroupUsed then
    (members.filter fun member => trig.globalHostId == member.hostId).map some
  else [none]

end TriggersQueryOption

namespace TriggersTable

/-! ## The numbers -/

/-- `count(distinct triggers.host_id_in_server)` of the rows with the condition -/
def countHosts (t : TriggersTable) (members : List HostgroupMember) (o : TriggersQueryOption)
    (condition : String) : Except HatoholException Nat :=
  if isAccepted o.joinedColumns condition then
    .ok (t.rows.flatMap fun trig =>
      ((o.joinedMembers members trig).filter fun member =>
        selects condition (trig.value member)).map fun member =>
          trig.value member (o.getColumnName idxTriggersHostIdInServer)).dedup.length
  else .error ⟨"Failed to query: SELECT"⟩

/-- (DBTablesMonitoring.cc:3226-3247) -/
def getNumberOfHosts (t : TriggersTable) (members : List HostgroupMember)
    (option : TriggersQueryOption) : Except HatoholException Nat := do
  let option := option.setTableNameAlways
  t.countHosts members option (← option.getCondition)

/-- (DBTablesMonitoring.cc:3259-3287) -/
def getNumberOfBadHosts (t : TriggersTable) (members : List HostgroupMember)
    (option : TriggersQueryOption) : Except HatoholException Nat := do
  let option := option.setTableNameAlways
  t.countHosts members option (appendAnd (← option.getCondition) option.problemCondition)

/-- (DBTablesMonitoring.cc:3249-3257) The second query may find another table than the first. -/
def getNumberOfGoodHosts (t t' : TriggersTable) (members : List HostgroupMember)
    (option : TriggersQueryOption) : Except HatoholException Nat := do
  let numTotalHost ← t.getNumberOfHosts members option
  let numBadHosts ← t'.getNumberOfBadHosts members option
  if numTotalHost ≥ numBadHosts then return numTotalHost - numBadHosts
  else throw ⟨"ASSERTION failed: [numTotalHost >= numBadHosts] : numTotalHost: " ++
    toString numTotalHost ++ ", numBadHosts: " ++ toString numBadHosts⟩

/-! ## What is counted -/

/-- The hosts of triggers. -/
def hosts (triggers : List TriggerInfo) : Finset (ServerIdType × LocalHostIdType) :=
  (triggers.map fun trig => (trig.serverId, trig.hostIdInServer)).toFinset

/-- The IDs of these hosts, which servers give out on their own. -/
def hostIds (triggers : List TriggerInfo) : Finset LocalHostIdType :=
  (triggers.map TriggerInfo.hostIdInServer).toFinset

def problems (triggers : List TriggerInfo) : List TriggerInfo :=
  triggers.filter fun trig => trig.status == triggerStatusProblem

theorem mem_hosts {triggers : List TriggerInfo} {host : ServerIdType × LocalHostIdType} :
    host ∈ hosts triggers ↔
      ∃ trig ∈ triggers, (trig.serverId, trig.hostIdInServer) = host := by
  simp only [hosts, List.mem_toFinset, List.mem_map]

theorem mem_hostIds {triggers : List TriggerInfo} {hostId : LocalHostIdType} :
    hostId ∈ hostIds triggers ↔ ∃ trig ∈ triggers, trig.hostIdInServer = hostId := by
  simp only [hostIds, List.mem_toFinset, List.mem_map]

theorem hostIds_eq_image (triggers : List TriggerInfo) :
    hostIds triggers = (hosts triggers).image Prod.snd := by
  ext hostId
  simp only [mem_hostIds, Finset.mem_image, mem_hosts]
  constructor
  · rintro ⟨trig, htrig, rfl⟩
    exact ⟨_, ⟨trig, htrig, rfl⟩, rfl⟩
  · rintro ⟨_, ⟨trig, htrig, rfl⟩, rfl⟩
    exact ⟨trig, htrig, rfl⟩

/-- No ID is lost exactly when none is shared. -/
theorem card_hostIds_eq_iff (triggers : List TriggerInfo) :
    (hostIds triggers).card = (hosts triggers).card ↔
      ∀ x ∈ triggers, ∀ y ∈ triggers, x.hostIdInServer = y.hostIdInServer →
        x.serverId = y.serverId := by
  rw [hostIds_eq_image, Finset.card_image_iff]
  constructor
  · intro hinj x hx y hy hid
    have hpair := hinj (mem_hosts.mpr ⟨x, hx, rfl⟩) (mem_hosts.mpr ⟨y, hy, rfl⟩) hid
    exact congrArg Prod.fst hpair
  · intro hunshared a ha b hb hid
    obtain ⟨x, hx, rfl⟩ := mem_hosts.mp ha
    obtain ⟨y, hy, rfl⟩ := mem_hosts.mp hb
    exact Prod.ext (hunshared x hx y hy hid) hid

theorem hostIds_append (xs ys : List TriggerInfo) :
    hostIds (xs ++ ys) = hostIds xs ∪ hostIds ys := by
  rw [hostIds, List.map_append, List.toFinset_append]
  rfl

section Rows

variable (t : TriggersTable) (members : List HostgroupMember) (option : TriggersQueryOption)

/-- The triggers with a row that a test lets through. -/
def passing (test : (String → Value) → Bool) : List TriggerInfo :=
  t.rows.filter fun trig =>
    (option.setTableNameAlways.joinedMembers members trig).any fun member =>
      test (trig.value member)

/-- The triggers that the option selects. -/
def selected : List TriggerInfo := t.passing members option option.setTableNameAlways.shows

/-- The triggers with a row that escapes what is appended. -/
def escaping : List TriggerInfo := t.passing members option option.setTableNameAlways.escapes

theorem mem_passing {test : (String → Value) → Bool} {trig : TriggerInfo} :
    trig ∈ t.passing members option test ↔ trig ∈ t.rows ∧
      ∃ member ∈ option.setTableNameAlways.joinedMembers members trig,
        test (trig.value member) = true := by
  rw [passing, List.mem_filter, List.any_eq_true]

theorem countHosts_eq (condition : String) :
    t.countHosts members option.setTableNameAlways condition =
      if isAccepted option.setTableNameAlways.joinedColumns condition then
        .ok (hostIds (t.passing members option (selects condition))).card
      else .error ⟨"Failed to query: SELECT"⟩ := by
  have hvalue (trig : TriggerInfo) (member : Option HostgroupMember) :
      trig.value member (option.setTableNameAlways.getColumnName idxTriggersHostIdInServer) =
        .str trig.hostIdInServer.text := rfl
  have htext : Function.Injective fun id : LocalHostIdType => Value.str id.text := by
    intro a b hab
    exact CString.ext (Value.str.inj hab)
  have hcount : (t.rows.flatMap fun trig =>
      ((option.setTableNameAlways.joinedMembers members trig).filter fun member =>
        selects condition (trig.value member)).map fun member =>
          trig.value member
            (option.setTableNameAlways.getColumnName idxTriggersHostIdInServer)).toFinset =
      (hostIds (t.passing members option (selects condition))).image
        fun id : LocalHostIdType => Value.str id.text := by
    ext value
    simp only [List.mem_toFinset, List.mem_flatMap, List.mem_map, List.mem_filter, Finset.mem_image,
      mem_hostIds, mem_passing, hvalue]
    constructor
    · rintro ⟨trig, htrig, member, ⟨hmember, hselects⟩, rfl⟩
      exact ⟨_, ⟨trig, ⟨htrig, member, hmember, hselects⟩, rfl⟩, rfl⟩
    · rintro ⟨_, ⟨trig, ⟨htrig, member, hmember, hselects⟩, rfl⟩, rfl⟩
      exact ⟨trig, htrig, member, ⟨hmember, hselects⟩, rfl⟩
  rw [countHosts, ← List.card_toFinset, hcount, Finset.card_image_of_injective _ htext]

/-! ## The two conditions -/

def problemText : Text :=
  TriggersQueryOption.cmpTrigger idxTriggersStatus .eq (.int triggerStatusProblem)

variable {option}

section Texts

variable {s : String} {text : Option Text} (htext : Denotes s text)

include htext

theorem denotes_problem : Denotes (appendAnd s option.setTableNameAlways.problemCondition)
    (Text.glue .and text (some problemText)) := by
  have hstatus : Denotes option.setTableNameAlways.problemCondition (some problemText) :=
    denotes_eq (TriggersQueryOption.isName_triggersFullColumnName idxTriggersStatus)
      (denotes_encInt triggerStatusProblem)
  rw [EventsQueryOption.appendAnd_eq hstatus.ne_empty]
  exact denotes_addAnd htext hstatus

variable (hs : option.setTableNameAlways.getCondition = .ok s)

include hs

theorem shows_eq (row : String → Value) : option.setTableNameAlways.shows row =
    (Text.complete text && picks (Text.alts row text)) := by
  rw [TriggersQueryOption.shows, hs]
  exact htext.selects_eq row

theorem escapes_eq (row : String → Value) : option.setTableNameAlways.escapes row =
    (Text.complete text && (Text.alts row text).dropLast.any id) := by
  have hconst : Denotes alwaysFalseCondition (some (.const 0)) := denotes_const 0
  have hboth := denotes_addAnd htext hconst
  have halts : Text.alts row (some (.const 0)) = [false] := rfl
  rw [TriggersQueryOption.escapes, hs]
  simp only
  rw [hboth.selects_eq, Text.complete_glue_and, Text.alts_glue_and, halts, picks_conjoin_last,
    Bool.and_false, Bool.or_false]
  exact congrArg (· && _) (Bool.and_true _)

/-- The status is asked for in the last alternative only. -/
theorem selects_problem (trig : TriggerInfo) (member : Option HostgroupMember) :
    selects (appendAnd s option.setTableNameAlways.problemCondition) (trig.value member) =
      ((option.setTableNameAlways.shows (trig.value member) &&
          trig.status == triggerStatusProblem) ||
        option.setTableNameAlways.escapes (trig.value member)) := by
  have hstatus : Text.alts (trig.value member) (some problemText) =
      [trig.status == triggerStatusProblem] := by
    have hvalue : trig.value member (triggersFullColumnName idxTriggersStatus) =
        .int trig.status := rfl
    have hsingle : problemText.alternatives (trig.value member) =
        [problemText.holds (trig.value member)] := Text.alternatives_single _ rfl
    rw [Text.alts, hsingle, problemText, TriggersQueryOption.cmpTrigger, Text.holds_cmp, hvalue,
      Text.compareValue_eq_int]
  have hcomplete : Text.complete (some problemText) = true := rfl
  rw [(denotes_problem htext).selects_eq, shows_eq htext hs, escapes_eq htext hs,
    Text.complete_glue_and, Text.alts_glue_and, hstatus, picks_conjoin_last, picks_eq_dropLast,
    hcomplete, Bool.and_true]
  cases Text.complete text <;> cases (Text.alts (trig.value member) text).dropLast.any id <;> simp

end Texts

theorem getTriggerInfoList_selected (t : TriggersTable) (members : List HostgroupMember)
    (option : TriggersQueryOption) :
    t.getTriggerInfoList members option = .ok (t.selected members option) := by
  obtain ⟨s, text, hs, htext, -⟩ := TriggersQueryOption.exists_text (o := option.setTableNameAlways) rfl
  have hshows (row : String → Value) : option.setTableNameAlways.shows row = selects s row := by
    rw [TriggersQueryOption.shows, hs]
  unfold getTriggerInfoList selected passing TriggersQueryOption.joinedMembers
  simp only [hs, hshows, bind, Except.bind, pure, Except.pure]
  refine congrArg Except.ok ?_
  by_cases hfalse : isAlwaysFalseCondition s = true
  · obtain rfl : s = alwaysFalseCondition := beq_iff_eq.mp hfalse
    rw [if_pos hfalse]
    simp only [EventsQueryOption.not_selects_alwaysFalse]
    simp
  · rw [if_neg hfalse]
    cases option.setTableNameAlways.base.isHostgroupUsed with
    | true => simp
    | false => simp

/-- The second query counts the hosts of the problems, and of all triggers that escape. -/
theorem hostIds_problem (t : TriggersTable) (members : List HostgroupMember)
    (option : TriggersQueryOption) {s : String} {text : Option Text}
    (hs : option.setTableNameAlways.getCondition = .ok s) (htext : Denotes s text) :
    hostIds (t.passing members option
        (selects (appendAnd s option.setTableNameAlways.problemCondition))) =
      hostIds (problems (t.selected members option) ++ t.escaping members option) := by
  ext hostId
  simp only [mem_hostIds, List.mem_append, problems, List.mem_filter, selected, escaping,
    mem_passing, selects_problem htext hs, Bool.or_eq_true, Bool.and_eq_true]
  constructor
  · rintro ⟨trig, ⟨htrig, member, hmember, ⟨hshows, hstatus⟩ | hescapes⟩, rfl⟩
    · exact ⟨trig, .inl ⟨⟨htrig, member, hmember, hshows⟩, hstatus⟩, rfl⟩
    · exact ⟨trig, .inr ⟨htrig, member, hmember, hescapes⟩, rfl⟩
  · rintro ⟨trig, ⟨⟨htrig, member, hmember, hshows⟩, hstatus⟩ | ⟨htrig, member, hmember, hescapes⟩,
      rfl⟩
    · exact ⟨trig, ⟨htrig, member, hmember, .inl ⟨hshows, hstatus⟩⟩, rfl⟩
    · exact ⟨trig, ⟨htrig, member, hmember, .inr hescapes⟩, rfl⟩

section Numbers

variable (option)

theorem getNumberOfHosts_of_taken (htaken : option.setTableNameAlways.Taken) :
    t.getNumberOfHosts members option = .ok (hostIds (t.selected members option)).card := by
  obtain ⟨s, text, hs, htext, hnames, hcomplete⟩ :=
    TriggersQueryOption.exists_text (o := option.setTableNameAlways) rfl
  have haccepted : isAccepted option.setTableNameAlways.joinedColumns s = true :=
    (option.setTableNameAlways.isAccepted_eq htext hnames).trans (hcomplete.mpr htaken)
  have hshows : option.setTableNameAlways.shows = selects s := by
    funext row
    rw [TriggersQueryOption.shows, hs]
  unfold getNumberOfHosts selected
  dsimp only
  rw [hs, hshows]
  simp only [bind, Except.bind]
  rw [countHosts_eq, if_pos haccepted]

theorem getNumberOfHosts_of_not_taken (htaken : ¬option.setTableNameAlways.Taken) :
    t.getNumberOfHosts members option = .error ⟨"Failed to query: SELECT"⟩ := by
  obtain ⟨s, text, hs, htext, hnames, hcomplete⟩ :=
    TriggersQueryOption.exists_text (o := option.setTableNameAlways) rfl
  have haccepted : ¬isAccepted option.setTableNameAlways.joinedColumns s = true := by
    rw [option.setTableNameAlways.isAccepted_eq htext hnames]
    exact fun hcompleted => htaken (hcomplete.mp hcompleted)
  unfold getNumberOfHosts
  dsimp only
  rw [hs]
  simp only [bind, Except.bind]
  rw [countHosts_eq, if_neg haccepted]

/-- The triggers whose hosts the second query counts. -/
def countedBad : List TriggerInfo :=
  problems (t.selected members option) ++ t.escaping members option

theorem getNumberOfBadHosts_of_taken (htaken : option.setTableNameAlways.Taken) :
    t.getNumberOfBadHosts members option = .ok (hostIds (t.countedBad members option)).card := by
  obtain ⟨s, text, hs, htext, hnames, hcomplete⟩ :=
    TriggersQueryOption.exists_text (o := option.setTableNameAlways) rfl
  have hstatus : Text.Names (· ∈ TriggersQueryOption.plainColumns) (some problemText) := by
    refine Text.names_some.mpr fun name hname => ?_
    obtain rfl := List.mem_singleton.mp hname
    decide
  have haccepted : isAccepted option.setTableNameAlways.joinedColumns
      (appendAnd s option.setTableNameAlways.problemCondition) = true := by
    rw [option.setTableNameAlways.isAccepted_eq (denotes_problem htext) (hnames.glue_and hstatus),
      Text.complete_glue_and, hcomplete.mpr htaken]
    rfl
  unfold getNumberOfBadHosts countedBad
  dsimp only
  rw [hs, ← hostIds_problem t members option hs htext]
  simp only [bind, Except.bind]
  rw [countHosts_eq, if_pos haccepted]

/-- On a table that does not change the assertion holds. -/
theorem card_countedBad_le : (hostIds (t.countedBad members option)).card ≤
    (hostIds (t.selected members option)).card := by
  obtain ⟨s, text, hs, htext, -⟩ :=
    TriggersQueryOption.exists_text (o := option.setTableNameAlways) rfl
  have hshown {row : String → Value} (hescapes : option.setTableNameAlways.escapes row = true) :
      option.setTableNameAlways.shows row = true := by
    rw [escapes_eq htext hs, Bool.and_eq_true] at hescapes
    rw [shows_eq htext hs, picks_eq_dropLast, hescapes.1, hescapes.2]
    rfl
  refine Finset.card_le_card fun hostId hhost => ?_
  obtain ⟨trig, htrig, rfl⟩ := mem_hostIds.mp hhost
  refine mem_hostIds.mpr ⟨trig, ?_, rfl⟩
  rcases List.mem_append.mp htrig with hproblem | hescaping
  · exact List.mem_of_mem_filter hproblem
  · obtain ⟨hrow, member, hmember, hescapes⟩ := (mem_passing _ _ _).mp hescaping
    exact (mem_passing _ _ _).mpr ⟨hrow, member, hmember, hshown hescapes⟩

/-! ## The agreement -/

/-- The three functions have results, and these are about the hosts of the triggers that the option
    lists; `t'` is the table once rows have been inserted or updated between the two queries. -/
def CountsHosts (t t' : TriggersTable) (members : List HostgroupMember)
    (option : TriggersQueryOption) : Prop :=
  ∃ triggers triggers',
    t.getTriggerInfoList members option = .ok triggers ∧
    t'.getTriggerInfoList members option = .ok triggers' ∧
    t.getNumberOfHosts members option = .ok (hosts triggers).card ∧
    t'.getNumberOfBadHosts members option = .ok (hosts (problems triggers')).card ∧
    ∃ numGoodHosts, t.getNumberOfGoodHosts t' members option = .ok numGoodHosts ∧
      numGoodHosts + (hosts (problems triggers')).card = (hosts triggers).card

/-- What the triggers of the two tables must be for that. -/
structure HostCountsAgree (t t' : TriggersTable) (members : List HostgroupMember)
    (option : TriggersQueryOption) : Prop where
  taken : option.setTableNameAlways.Taken
  /-- Two servers do not give the same ID to hosts with selected triggers. -/
  unshared : ∀ x ∈ t.selected members option, ∀ y ∈ t.selected members option,
    x.hostIdInServer = y.hostIdInServer → x.serverId = y.serverId
  /-- Hosts that escape the status make up for the IDs that hosts with a problem share. -/
  balanced : (hostIds (t'.escaping members option) \
      hostIds (problems (t'.selected members option))).card +
    (hostIds (problems (t'.selected members option))).card =
      (hosts (problems (t'.selected members option))).card
  /-- No more hosts come in with a problem than there are hosts without one. -/
  covered : (hostIds (t'.countedBad members option) \ hostIds (t.selected members option)).card ≤
    (hostIds (t.selected members option) \ hostIds (t'.countedBad members option)).card

theorem countsHosts_selected (t t' : TriggersTable) (members : List HostgroupMember)
    (option : TriggersQueryOption) :
    CountsHosts t t' members option ↔
      t.getNumberOfHosts members option = .ok (hosts (t.selected members option)).card ∧
      t'.getNumberOfBadHosts members option =
        .ok (hosts (problems (t'.selected members option))).card ∧
      ∃ numGoodHosts, t.getNumberOfGoodHosts t' members option = .ok numGoodHosts ∧
        numGoodHosts + (hosts (problems (t'.selected members option))).card =
          (hosts (t.selected members option)).card := by
  have htriggers := t.getTriggerInfoList_selected members option
  have htriggers' := t'.getTriggerInfoList_selected members option
  constructor
  · rintro ⟨triggers, triggers', hlist, hlist', hcounts⟩
    obtain rfl := Except.ok.inj (htriggers.symm.trans hlist)
    obtain rfl := Except.ok.inj (htriggers'.symm.trans hlist')
    exact hcounts
  · exact fun hcounts => ⟨_, _, htriggers, htriggers', hcounts⟩

/-- The subtraction throws where the assertion fails. -/
theorem exists_good_iff {total bad : Nat} {t t' : TriggersTable} {members : List HostgroupMember}
    {option : TriggersQueryOption} (htotal : t.getNumberOfHosts members option = .ok total)
    (hbad : t'.getNumberOfBadHosts members option = .ok bad) :
    (∃ numGoodHosts, t.getNumberOfGoodHosts t' members option = .ok numGoodHosts ∧
      numGoodHosts + bad = total) ↔ bad ≤ total := by
  unfold getNumberOfGoodHosts
  rw [htotal, hbad]
  simp only [bind, Except.bind]
  by_cases hle : total ≥ bad
  · rw [if_pos hle]
    exact iff_of_true ⟨total - bad, rfl, Nat.sub_add_cancel hle⟩ hle
  · rw [if_neg hle]
    refine iff_of_false ?_ hle
    rintro ⟨_, hgood, -⟩
    cases hgood

/-- Two servers each with a trigger of the host that they call "1". -/
def sameIdTriggers : TriggersTable where
  rows := [⟨1, .ofString "10", 0, 0, ⟨1, 0⟩, 7, .ofString "1", .ofString "web", .ofString "load",
      emptyText, .valid⟩,
    ⟨2, .ofString "20", 0, 0, ⟨1, 0⟩, 8, .ofString "1", .ofString "db", .ofString "load",
      emptyText, .valid⟩]
  unique := by decide

/-- An administrator of both servers, without filters. -/
def bothServersQuery : TriggersQueryOption :=
  .new { HostResourceQueryOption.administrator with validServerIdSet := {1, 2} }

end Numbers

end Rows

end TriggersTable

end Hatohol
