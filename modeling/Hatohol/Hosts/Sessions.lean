import Hatohol.Hosts.Identity

/-!
# Sessions that store the same host

Several sessions run `upsertHost` for one host of one server (DBTablesHost.cc:611-681), each with
`AUTO_ASSIGNED_ID`, and their statements are interleaved. A session that has not found the host
takes a new ID from `host_list`. If another session has stored the host in between, its own upsert
writes the new ID over the one that is there, before it removes the new ID from `host_list` again.
-/

namespace Hatohol

open Sql DBTermCodec Table

/-- What a session has yet to do. -/
inductive UpsertStage where
  | select
  | insertHost
  | upsert (hostId : HostIdType) (tookNewHostId : Bool)
  | removeHost (hostId : HostIdType)
  | selectAgain
  | returned (hostId : HostIdType)
  | failed
  deriving DecidableEq, Repr

/-- The host that all sessions store. -/
structure SessionTarget where
  serverId : ServerIdType
  hostIdInServer : LocalHostIdType
  deriving DecidableEq, Repr

/-- What a session stores of the host. A session that has no name for it fails an assertion before
    its first statement. -/
structure SessionHost where
  name : CString
  status : HostStatus
  named : status ≠ .selfMonitor → name ≠ emptyText

def SessionTarget.key (target : SessionTarget) : ServerIdType × LocalHostIdType :=
  (target.serverId, target.hostIdInServer)

/-- The argument of `upsertHost`. -/
def SessionHost.serverHostDef (host : SessionHost) (target : SessionTarget) : ServerHostDef where
  id := autoIncrementValue
  hostId := autoAssignedId
  serverId := target.serverId
  hostIdInServer := target.hostIdInServer
  name := host.name
  status := host.status

namespace HostTables

/-- The next statement of a session. -/
def statement (t : HostTables) (target : SessionTarget) (host : SessionHost) :
    UpsertStage → HostTables × UpsertStage
  | .select =>
      match t.selectServerHostDef (host.serverHostDef target) with
      | some curr =>
          if !isChanged (host.serverHostDef target) curr then (t, .returned curr.hostId)
          else (t, .upsert curr.hostId false)
      | none => (t, .insertHost)
  | .insertHost =>
      let (t, hostId) := t.addHost autoAssignedId host.name
      (t, .upsert hostId true)
  | .upsert hostId tookNewHostId =>
      match t.insertServerHostDef { host.serverHostDef target with hostId := hostId } host.named with
      | none => (t, .failed)
      | some (t, affected) =>
          if lastUpsertDidUpdate affected && tookNewHostId then (t, .removeHost hostId)
          else (t, .returned hostId)
  | .removeHost hostId => (t.removeHost hostId, .selectAgain)
  | .selectAgain =>
      match t.selectServerHostDef (host.serverHostDef target) with
      | none => (t, .failed)
      | some curr => (t, .returned curr.hostId)
  | .returned hostId => (t, .returned hostId)
  | .failed => (t, .failed)

/-- The first statements of a session that nothing comes between. -/
def statements (target : SessionTarget) (host : SessionHost) :
    Nat → HostTables × UpsertStage → HostTables × UpsertStage
  | 0, s => s
  | n + 1, s => statements target host n (s.1.statement target host s.2)

theorem statements_returned (target : SessionTarget) (host : SessionHost) (n : Nat) (t : HostTables)
    (hostId : HostIdType) :
    statements target host n (t, .returned hostId) = (t, .returned hostId) := by
  induction n with
  | zero => rfl
  | succ n ih => exact ih

theorem statements_storeHost {t t' : HostTables} {target : SessionTarget} {host : SessionHost}
    {hostId hostId' : HostIdType} {tookNewHostId : Bool}
    (hstore : t.storeHost (host.serverHostDef target) host.named hostId tookNewHostId =
      .ok (t', hostId')) (n : Nat) :
    statements target host (n + 3) (t, .upsert hostId tookNewHostId) = (t', .returned hostId') := by
  unfold storeHost at hstore
  rw [statements, statement]
  cases hinsert : t.insertServerHostDef { host.serverHostDef target with hostId := hostId }
    host.named with
  | none =>
    rw [hinsert] at hstore
    cases hstore
  | some result =>
    obtain ⟨t₁, affected⟩ := result
    simp only [hinsert] at hstore ⊢
    cases hremove : lastUpsertDidUpdate affected && tookNewHostId with
    | false =>
      simp only [hremove] at hstore
      obtain ⟨rfl, rfl⟩ := Prod.mk.inj (Except.ok.inj hstore)
      exact statements_returned target host (n + 2) t₁ hostId
    | true =>
      simp only [hremove, if_true] at hstore
      change statements target host n ((t₁.removeHost hostId).statement target host .selectAgain) =
        _
      rw [statement]
      cases hselect : (t₁.removeHost hostId).selectServerHostDef (host.serverHostDef target) with
      | none =>
        rw [hselect] at hstore
        cases hstore
      | some curr =>
        rw [hselect] at hstore
        obtain ⟨rfl, rfl⟩ := Prod.mk.inj (Except.ok.inj hstore)
        exact statements_returned target host n _ curr.hostId

/-- A session that nothing comes between does what `upsertHost` does. -/
theorem statements_eq_upsertHost {t t' : HostTables} {target : SessionTarget} {host : SessionHost}
    {hostId : HostIdType} (hupsert : t.upsertHost (host.serverHostDef target) = .ok (t', hostId)) :
    statements target host 5 (t, .select) = (t', .returned hostId) := by
  have hname : (host.serverHostDef target).isNamed := host.named
  have hauto : (host.serverHostDef target).hostId = autoAssignedId := rfl
  unfold upsertHost at hupsert
  rw [dif_pos hname] at hupsert
  rw [statements, statement]
  cases hselect : t.selectServerHostDef (host.serverHostDef target) with
  | some curr =>
    simp only [hselect] at hupsert ⊢
    split at hupsert
    · rename_i hunchanged
      obtain ⟨rfl, rfl⟩ := Prod.mk.inj (Except.ok.inj hupsert)
      rw [if_pos hunchanged]
      exact statements_returned target host 4 t curr.hostId
    · rename_i hchanged
      rw [if_neg fun h => h.1 hauto] at hupsert
      rw [if_neg hchanged]
      exact statements_storeHost hupsert 1
  | none =>
    simp only [hselect, if_pos (Or.inl hauto)] at hupsert
    exact statements_storeHost hupsert 0

/-! ## What a statement keeps -/

/-- What holds of a session that nobody has disturbed: the ID that it is going to write is in the
    list, and the ID that it has read or returned is that of the host. -/
def Supports (t : HostTables) (target : SessionTarget) : UpsertStage → Prop
  | .select | .insertHost => True
  | .upsert hostId true => t.HasHostId hostId
  | .upsert hostId false | .returned hostId =>
      ∃ curr, t.host target.key = some curr ∧ curr.hostId = hostId
  | .removeHost _ | .selectAgain | .failed => False

theorem Extends.supports {t t' : HostTables} (hextends : t.Extends t') {target : SessionTarget}
    {stage : UpsertStage} (hsupports : t.Supports target stage) : t'.Supports target stage := by
  have hhost (hostId : HostIdType) (h : ∃ curr, t.host target.key = some curr ∧ curr.hostId =
    hostId) :
      ∃ curr, t'.host target.key = some curr ∧ curr.hostId = hostId := by
    obtain ⟨curr, hcurr, rfl⟩ := h
    obtain ⟨curr', hcurr', -, hhostId⟩ := hextends.hosts _ curr hcurr
    exact ⟨curr', hcurr', hhostId⟩
  cases stage with
  | select => trivial
  | insertHost => trivial
  | upsert hostId tookNewHostId =>
    cases tookNewHostId with
    | true => exact hextends.hostList hostId hsupports
    | false => exact hhost hostId hsupports
  | returned hostId => exact hhost hostId hsupports
  | removeHost hostId => exact hsupports
  | selectAgain => exact hsupports
  | failed => exact hsupports

/-- The upsert of a session that has taken a new ID finds no host. -/
def Undisturbed (t : HostTables) (target : SessionTarget) (stage : UpsertStage) : Prop :=
  ∀ hostId, stage = .upsert hostId true → t.host target.key = none

section Statement

variable {t : HostTables} {target : SessionTarget} (host : SessionHost) {stage : UpsertStage}

theorem extends_upsert (hostId : HostIdType)
    (hhostId : ∀ curr, t.host target.key = some curr → hostId = curr.hostId)
    (hlist : t.Consistent target.key → t.HasHostId hostId) :
    ∃ t' affected, t.insertServerHostDef { host.serverHostDef target with hostId := hostId }
        host.named = some (t', affected) ∧ t.Extends t' ∧
      (t.host target.key = none → affected = 1) ∧ t'.Supports target (.returned hostId) :=
  t.extends_insertServerHostDef (h := { host.serverHostDef target with hostId := hostId }) host.named
    (.inl rfl) hhostId hlist

/-- What one statement of an undisturbed session does. -/
theorem extends_statement (hsupports : t.Supports target stage)
    (hundisturbed : t.Undisturbed target stage) :
    t.Extends (t.statement target host stage).1 ∧
      (t.statement target host stage).1.Supports target (t.statement target host stage).2 := by
  have hkey : (host.serverHostDef target).key = target.key := rfl
  cases stage with
  | select =>
    rw [statement, selectServerHostDef_eq, hkey]
    cases hcurr : t.host target.key with
    | none => exact ⟨.refl t, trivial⟩
    | some curr =>
      simp only
      split
      · exact ⟨.refl t, curr, hcurr, rfl⟩
      · exact ⟨.refl t, curr, hcurr, rfl⟩
  | insertHost =>
    have hzero : (host.serverHostDef target).hostId ≠ autoIncrementValue := by
      change autoAssignedId ≠ autoIncrementValue
      decide
    refine ⟨t.extends_addHost hzero, ?_⟩
    exact (hasHostId_addHost host.name hzero _).mpr (.inr rfl)
  | upsert hostId tookNewHostId =>
    cases tookNewHostId with
    | true =>
      have hnone := hundisturbed hostId rfl
      have hnew : ∀ curr, t.host target.key = some curr → hostId = curr.hostId := by
        simp [hnone]
      obtain ⟨t', affected, hinsert, hextends, haffected, hreturned⟩ :=
        extends_upsert host hostId hnew fun _ => hsupports
      rw [haffected hnone] at hinsert
      simp only [statement, hinsert]
      exact ⟨hextends, hreturned⟩
    | false =>
      obtain ⟨curr, hcurr, rfl⟩ := hsupports
      obtain ⟨t', affected, hinsert, hextends, -, hreturned⟩ :=
        extends_upsert host curr.hostId (by simp [hcurr])
          fun hconsistent => hconsistent curr hcurr
      simp only [statement, hinsert, Bool.and_false]
      exact ⟨hextends, hreturned⟩
  | returned hostId => exact ⟨.refl t, hsupports⟩
  | removeHost hostId => exact hsupports.elim
  | selectAgain => exact hsupports.elim
  | failed => exact hsupports.elim

end Statement

end HostTables

/-! ## Interleavings -/

/-- The tables and what each of the sessions has yet to do. -/
structure Sessions (ι : Type) where
  tables : HostTables
  stage : ι → UpsertStage

namespace Sessions

variable {ι : Type} [DecidableEq ι] (target : SessionTarget) (hosts : ι → SessionHost)

/-- No session has begun. -/
def start (t : HostTables) : Sessions ι := ⟨t, fun _ => .select⟩

/-- The next statement of one of the sessions. -/
def step (s : Sessions ι) (i : ι) : Sessions ι :=
  let (tables, stage) := s.tables.statement target (hosts i) (s.stage i)
  ⟨tables, Function.update s.stage i stage⟩

/-- The statements of the sessions in some order. -/
def run (s : Sessions ι) (schedule : List ι) : Sessions ι := schedule.foldl (step target hosts) s

def AllUndisturbed (s : Sessions ι) : List ι → Prop
  | [] => True
  | i :: schedule => s.tables.Undisturbed target (s.stage i) ∧
      (step target hosts s i).AllUndisturbed schedule

/-- The session has returned or thrown. -/
def finished (s : Sessions ι) (i : ι) : Prop :=
  (∃ hostId, s.stage i = .returned hostId) ∨ s.stage i = .failed

variable {target}

theorem supports_step {s : Sessions ι} {i : ι}
    (hsupports : ∀ j, s.tables.Supports target (s.stage j))
    (hundisturbed : s.tables.Undisturbed target (s.stage i)) :
    s.tables.Extends (step target hosts s i).tables ∧
      ∀ j, (step target hosts s i).tables.Supports target ((step target hosts s i).stage j) := by
  obtain ⟨hextends, hnext⟩ :=
    HostTables.extends_statement (hosts i) (hsupports i) hundisturbed
  refine ⟨hextends, fun j => ?_⟩
  by_cases hj : j = i
  · subst hj
    simpa [step] using hnext
  · simpa [step, hj] using hextends.supports (hsupports j)

theorem supports_run {s : Sessions ι} {schedule : List ι}
    (hsupports : ∀ j, s.tables.Supports target (s.stage j))
    (hundisturbed : s.AllUndisturbed target hosts schedule) :
    s.tables.Extends (run target hosts s schedule).tables ∧
      ∀ j, (run target hosts s schedule).tables.Supports target
        ((run target hosts s schedule).stage j) := by
  induction schedule generalizing s with
  | nil => exact ⟨.refl _, hsupports⟩
  | cons i schedule ih =>
    obtain ⟨hextends, hnext⟩ := supports_step hosts hsupports hundisturbed.1
    obtain ⟨hextends', hrun⟩ := ih hnext hundisturbed.2
    exact ⟨hextends.trans hextends', hrun⟩

/-- Any number of sessions store a host for which the tables are consistent. If no session that has
    taken a new ID comes to its upsert after another has stored the host, they all return the ID of
    the one row there is for the host in the end, which is in the list of hosts. -/
theorem upsertHost_agreement [Nonempty ι] (t : HostTables) (hconsistent : t.Consistent target.key)
    (schedule : List ι) (hundisturbed : (start t).AllUndisturbed target hosts schedule)
    (hfinished : ∀ i, (run target hosts (start t) schedule).finished i) :
    let s := run target hosts (start t) schedule
    ∃ curr, (s.tables.serverHostDef.rows.filter fun h => decide (h.key = target.key)) = [curr] ∧
      s.tables.HasHostId curr.hostId ∧ ∀ i, s.stage i = .returned curr.hostId := by
  intro s
  have hstart (i : ι) : (start t : Sessions ι).tables.Supports target .select := trivial
  obtain ⟨hextends, hsupports⟩ := supports_run hosts hstart hundisturbed
  have hreturned (i : ι) : ∃ curr, s.tables.host target.key = some curr ∧
      s.stage i = .returned curr.hostId := by
    have hi := hsupports i
    rcases hfinished i with ⟨hostId, hstage⟩ | hstage
    · rw [hstage] at hi
      obtain ⟨curr, hcurr, rfl⟩ := hi
      exact ⟨curr, hcurr, hstage⟩
    · rw [hstage] at hi
      exact hi.elim
  obtain ⟨i₀⟩ := ‹Nonempty ι›
  obtain ⟨curr, hcurr, -⟩ := hreturned i₀
  refine ⟨curr, filter_key_eq_singleton s.tables.serverHostDef.unique_key hcurr,
    hextends.consistent _ hconsistent curr hcurr, fun i => ?_⟩
  obtain ⟨curr', hcurr', hstage⟩ := hreturned i
  rw [hstage, Option.some.inj (hcurr'.symm.trans hcurr)]

def webHost : SessionTarget := ⟨1, .ofString "7"⟩

def webSession : SessionHost := ⟨.ofString "web", .normal, by decide⟩

/-- Two sessions look for the host before either has stored it. -/
def raced : Sessions Bool :=
  run webHost (fun _ => webSession) (start .empty)
    [false, true, false, true, false, true, true, true]

/-- The second session writes its new ID over that of the first, and then removes it from the list:
    the sessions return different IDs, and the one that is stored is not in the list. -/
theorem upsertHost_raced :
    raced.stage false = .returned 1 ∧ raced.stage true = .returned 2 ∧
      raced.tables.serverHostDef.rows = [⟨1, 2, 1, .ofString "7", .ofString "web", .normal⟩] ∧
      raced.tables.hostList.rows = [⟨1, .ofString "web"⟩] ∧ ¬raced.tables.HasHostId 2 := by
  decide +kernel

/-- The first session stores the host before the second looks for it. -/
def inTurn : List Bool := [false, false, false, true]

theorem undisturbed_inTurn :
    (start .empty).AllUndisturbed webHost (fun _ => webSession) inTurn := by
  refine ⟨?_, ?_, ?_, ?_, trivial⟩
  · intro hostId hstage
    cases hstage
  · have hinsert : (run webHost (fun _ => webSession) (start .empty) [false]).stage false =
        .insertHost := by decide +kernel
    intro hostId hstage
    cases hinsert.symm.trans hstage
  · intro hostId hstage
    decide +kernel
  · have hselect : (run webHost (fun _ => webSession) (start .empty)
        [false, false, false]).stage true = .select := by decide +kernel
    intro hostId hstage
    cases hselect.symm.trans hstage

theorem upsertHost_agreement_inTurn :
    let s := run webHost (fun _ => webSession) (start .empty) inTurn
    ∃ curr : ServerHostDef, s.tables.HasHostId curr.hostId ∧ ∀ i, s.stage i =
      .returned curr.hostId := by
  have hfinished (i : Bool) :
      (run webHost (fun _ => webSession) (start .empty) inTurn).finished i := by
    cases i with
    | false => exact .inl ⟨1, by decide +kernel⟩
    | true => exact .inl ⟨1, by decide +kernel⟩
  obtain ⟨curr, -, hcurr⟩ := upsertHost_agreement (fun _ : Bool => webSession) .empty
    (HostTables.consistent_empty webHost.key) inTurn undisturbed_inTurn hfinished
  exact ⟨curr, hcurr⟩

end Sessions

end Hatohol
