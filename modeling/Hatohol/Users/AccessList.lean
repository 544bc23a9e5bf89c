import Hatohol.DBTablesUser
import Hatohol.Machine.Steps

/-!
# Grants of access

A grant is looked up in one transaction and inserted in another. The calls of several clients are
mixed up at the transactions.
-/

namespace Hatohol

open Sql Machine

/-- A call, or one of the two transactions of `addAccessInfo`. In the second one comes what some
    client has looked up before without finding it. -/
inductive AccessCall where
  | findAccessInfo (accessInfo : AccessInfo) (privilege : OperationPrivilege)
      (misread : Option (Option Nat))
  | insertAccessInfo (nth : Nat)
  | deleteAccessInfo (id : AccessInfoIdType) (privilege : OperationPrivilege)
  | deleteUserInfo (id : UserIdType) (privilege : OperationPrivilege) (userId : UserIdType)

/-- What a client is about to insert, and the number that the next row had when it was looked up. -/
structure AddingAccess where
  info : AccessInfo
  seen : Nat

structure AccessClients where
  tables : UserTables
  adding : List AddingAccess

namespace AccessClients

/-- The rows of the access list. -/
def rows (c : AccessClients) : List AccessRow := c.tables.accessList.rows

/-- The number of the next row. -/
def nextId (c : AccessClients) : Nat := c.tables.accessList.next

/-- A transaction, with the id and the grant that `addAccessInfo` returns if it is at its end. -/
def step (d : Dialect) (c : AccessClients) : AccessCall → Option AccessRow × AccessClients
  | .findAccessInfo accessInfo privilege misread =>
      match requires privilege .updateUser, c.tables.findAccessInfo d accessInfo misread with
      | .error _, _ | _, none => (none, c)
      | .ok (), some (some id) => (some ⟨id, accessInfo⟩, c)
      | .ok (), some none => (none, { c with adding := c.adding ++ [⟨accessInfo, c.nextId⟩] })
  | .insertAccessInfo nth =>
      match c.adding[nth]? with
      | none => (none, c)
      | some adding =>
          (some ⟨c.nextId, adding.info⟩,
            ⟨c.tables.insertAccessInfo adding.info, c.adding.eraseIdx nth⟩)
  | .deleteAccessInfo id privilege =>
      (none, { c with tables := (c.tables.deleteAccessInfo id privilege).2 })
  | .deleteUserInfo id privilege userId =>
      (none, { c with tables := (c.tables.deleteUserInfo id privilege userId).2 })

def next (d : Dialect) (c : AccessClients) (call : AccessCall) : AccessClients := (c.step d call).2

/-- The condition finds the grant that it is about, and what is inserted has not been inserted since
    it was looked up. -/
def Alone (d : Dialect) (c : AccessClients) : AccessCall → Prop
  | .findAccessInfo accessInfo _ _ =>
      d = .sqlite ∨ keepsBackslashes accessInfo.hostgroupId.text.toList = true
  | .insertAccessInfo nth => ∀ adding, c.adding[nth]? = some adding →
      ∀ row ∈ c.rows, row.info = adding.info → row.id < adding.seen
  | _ => True

/-- Nothing is granted twice, and what is about to be inserted was not there when it was looked
    up. -/
structure Sound (c : AccessClients) : Prop where
  nodup : (c.rows.map AccessRow.info).Nodup
  seen : ∀ adding ∈ c.adding, adding.seen ≤ c.nextId ∧
    ∀ row ∈ c.rows, row.id < adding.seen → row.info ≠ adding.info

/-! ## One transaction -/

section Step

variable {d : Dialect} {c : AccessClients}

/-- A transaction takes rows away or adds one with the next number. -/
theorem rows_next (c : AccessClients) (call : AccessCall) :
    ((c.next d call).nextId = c.nextId ∧ ∃ p, (c.next d call).rows = c.rows.filter p) ∨
    ∃ nth adding, call = .insertAccessInfo nth ∧ c.adding[nth]? = some adding ∧
      (c.next d call).nextId = c.nextId + 1 ∧
      (c.next d call).rows = c.rows ++ [⟨c.nextId, adding.info⟩] := by
  have hsame : ∃ p, c.rows = c.rows.filter p := ⟨fun _ => true, (List.filter_true _).symm⟩
  cases call with
  | findAccessInfo accessInfo privilege misread =>
    left
    rw [next, step]
    split <;> exact ⟨rfl, hsame⟩
  | insertAccessInfo nth =>
    rw [next, step]
    split
    next => exact .inl ⟨rfl, hsame⟩
    next adding hnth =>
      refine .inr ⟨nth, adding, rfl, hnth, ?_, rfl⟩
      exact Nat.max_eq_right (Nat.le_succ _)
  | deleteAccessInfo id privilege =>
    left
    rw [next, step, UserTables.deleteAccessInfo, UserTables.unless.eq_def]
    split
    next => exact ⟨rfl, hsame⟩
    next => exact ⟨rfl, _, rfl⟩
  | deleteUserInfo id privilege userId =>
    left
    rw [next, step, UserTables.deleteUserInfo, UserTables.unless.eq_def]
    split
    next => exact ⟨rfl, hsame⟩
    next => exact ⟨rfl, _, rfl⟩

theorem nextId_le_next (c : AccessClients) (call : AccessCall) :
    c.nextId ≤ (c.next d call).nextId := by
  rcases c.rows_next (d := d) call with ⟨hnext, -⟩ | ⟨-, -, -, -, hnext, -⟩
  · exact hnext.ge
  · omega

theorem mem_of_mem_next {call : AccessCall} {row : AccessRow} (hrow : row ∈ (c.next d call).rows)
    (hold : row.id < c.nextId) : row ∈ c.rows := by
  rcases c.rows_next (d := d) call with ⟨-, p, hrows⟩ | ⟨-, adding, -, -, -, hrows⟩
  · rw [hrows] at hrow
    exact List.mem_of_mem_filter hrow
  · rw [hrows] at hrow
    rcases List.mem_append.mp hrow with hrow | hrow
    · exact hrow
    · rw [List.mem_singleton.mp hrow] at hold
      exact absurd hold (Nat.lt_irrefl _)

/-- What is still to be inserted was so before, or has just been looked up. -/
theorem adding_next {call : AccessCall} {adding : AddingAccess}
    (hadding : adding ∈ (c.next d call).adding) :
    adding ∈ c.adding ∨ adding.seen = c.nextId ∧ (c.next d call).rows = c.rows ∧
      ∃ privilege misread, call = .findAccessInfo adding.info privilege misread ∧
        c.tables.findAccessInfo d adding.info misread = some none := by
  cases call with
  | findAccessInfo accessInfo privilege misread =>
    rw [next, step] at hadding ⊢
    split at hadding
    next => exact .inl hadding
    next => exact .inl hadding
    next => exact .inl hadding
    next hfind =>
      rcases List.mem_append.mp hadding with hadding | hadding
      · exact .inl hadding
      · rw [List.mem_singleton.mp hadding]
        exact .inr ⟨rfl, rfl, privilege, misread, rfl, hfind⟩
  | insertAccessInfo nth =>
    rw [next, step] at hadding
    split at hadding
    next => exact .inl hadding
    next => exact .inl (List.mem_of_mem_eraseIdx hadding)
  | deleteAccessInfo id privilege => exact .inl hadding
  | deleteUserInfo id privilege userId => exact .inl hadding

/-- A grant that is not found is not there. -/
theorem notMem_of_findAccessInfo {t : UserTables} {accessInfo : AccessInfo}
    {misread : Option (Option Nat)}
    (hread : readTerm d accessInfo.hostgroupId = some accessInfo.hostgroupId.text)
    (hfind : t.findAccessInfo d accessInfo misread = some none) :
    ∀ row ∈ t.accessList.rows, row.info ≠ accessInfo := by
  rw [UserTables.findAccessInfo, hread, Option.elim_some, Option.some.injEq, Option.map_eq_none_iff,
    List.find?_eq_none] at hfind
  rintro row hrow rfl
  exact hfind row hrow (by simp)

/-- The id that is returned is that of a row with the grant. -/
theorem mem_of_findAccessInfo {t : UserTables} {accessInfo : AccessInfo}
    {misread : Option (Option Nat)} {id : Nat}
    (hread : readTerm d accessInfo.hostgroupId = some accessInfo.hostgroupId.text)
    (hfind : t.findAccessInfo d accessInfo misread = some (some id)) :
    ⟨id, accessInfo⟩ ∈ t.accessList.rows := by
  rw [UserTables.findAccessInfo, hread, Option.elim_some, Option.some.injEq] at hfind
  obtain ⟨row, hrow, rfl⟩ := Option.map_eq_some_iff.mp hfind
  have hmem := List.mem_of_find?_eq_some hrow
  have hinfo := List.find?_some hrow
  simp only [CString.text_beq, Bool.and_eq_true, beq_iff_eq] at hinfo
  obtain ⟨id, ⟨userId, serverId, hostgroupId⟩⟩ := row
  obtain ⟨⟨rfl, rfl⟩, rfl⟩ := hinfo
  exact hmem

theorem mem_of_returned {call : AccessCall} {row : AccessRow} (halone : Alone d c call)
    (hreturned : (c.step d call).1 = some row) : row ∈ (c.next d call).rows := by
  cases call with
  | findAccessInfo accessInfo privilege misread =>
    rw [next]
    rw [step] at hreturned ⊢
    split at hreturned
    next => cases hreturned
    next => cases hreturned
    next id _ hfind =>
      obtain rfl := Option.some.inj hreturned
      exact mem_of_findAccessInfo ((readTerm_eq_iff d accessInfo.hostgroupId).mpr halone) hfind
    next => cases hreturned
  | insertAccessInfo nth =>
    rw [next]
    rw [step] at hreturned ⊢
    split at hreturned
    next => cases hreturned
    next adding _ =>
      obtain rfl := Option.some.inj hreturned
      exact List.mem_append_right _ (List.mem_singleton_self _)
  | deleteAccessInfo id privilege => cases hreturned
  | deleteUserInfo id privilege userId => cases hreturned

theorem nodup_next {call : AccessCall} (hc : Sound c) (halone : Alone d c call) :
    ((c.next d call).rows.map AccessRow.info).Nodup := by
  rcases c.rows_next (d := d) call with ⟨-, p, hrows⟩ | ⟨nth, adding, rfl, hnth, -, hrows⟩
  · rw [hrows]
    exact hc.nodup.sublist (List.filter_sublist.map _)
  · rw [hrows, List.map_append, List.nodup_append]
    refine ⟨hc.nodup, by simp, ?_⟩
    intro info hinfo info' hinfo' heq
    obtain ⟨row, hrow, rfl⟩ := List.mem_map.mp hinfo
    rw [List.map_singleton, List.mem_singleton] at hinfo'
    have hsame : row.info = adding.info := heq.trans hinfo'
    have hlt := halone adding hnth row hrow hsame
    exact (hc.seen adding (List.mem_of_getElem? hnth)).2 row hrow hlt hsame

theorem sound_next {call : AccessCall} (hc : Sound c) (halone : Alone d c call) :
    Sound (c.next d call) := by
  refine ⟨nodup_next hc halone, fun adding hadding => ?_⟩
  rcases adding_next hadding with hadding | ⟨hseen, hrows, privilege, misread, rfl, hfind⟩
  · obtain ⟨hle, hnone⟩ := hc.seen adding hadding
    refine ⟨hle.trans (c.nextId_le_next call), fun row hrow hlt => ?_⟩
    exact hnone row (mem_of_mem_next hrow (by omega)) hlt
  · refine ⟨hseen ▸ c.nextId_le_next _, fun row hrow _ => ?_⟩
    rw [hrows] at hrow
    exact notMem_of_findAccessInfo ((readTerm_eq_iff d _).mpr halone) hfind row hrow

end Step

/-! ## Runs -/

section Run

variable {d : Dialect}

theorem sound_run {c : AccessClients} {calls : List AccessCall} (hc : Sound c)
    (halone : Heeds (next d) (Alone d) c calls) : Sound (calls.foldl (next d) c) :=
  foldl_invariant_of_heeds Sound (fun _ _ hc halone => sound_next hc halone) calls c hc halone

/-- A row whose number had been given before was there before. -/
theorem mem_of_mem_run {row : AccessRow} : ∀ (calls : List AccessCall) (c : AccessClients),
    row ∈ (calls.foldl (next d) c).rows → row.id < c.nextId → row ∈ c.rows := by
  intro calls
  induction calls with
  | nil => exact fun c hrow _ => hrow
  | cons call calls ih =>
    intro c hrow hold
    have hrow := ih (c.next d call) hrow (hold.trans_le (c.nextId_le_next call))
    exact mem_of_mem_next hrow hold

theorem not_granted_after_deleteUserInfo {c : AccessClients} {id userId : UserIdType}
    {privilege : OperationPrivilege}
    (hdelete : (c.tables.deleteUserInfo id privilege userId).1 = .ok ()) :
    ∀ row ∈ (c.next d (.deleteUserInfo id privilege userId)).rows, row.info.userId ≠ id := by
  intro row hrow
  rw [next, step, rows, UserTables.deleteUserInfo, UserTables.unless.eq_def] at hrow
  rw [UserTables.deleteUserInfo, UserTables.unless.eq_def] at hdelete
  split at hdelete
  next => cases hdelete
  next hcheck =>
    rw [hcheck] at hrow
    have hkept := List.of_mem_filter hrow
    exact bne_iff_ne.mp hkept

theorem not_granted_after_deleteAccessInfo {c : AccessClients} {row : AccessRow}
    {privilege : OperationPrivilege} (hprivilege : privilege.has .updateUser = true)
    (hnone : ∀ row' ∈ c.rows, row'.info = row.info → row'.id = row.id) :
    ∀ row' ∈ (c.next d (.deleteAccessInfo row.id privilege)).rows, row'.info ≠ row.info := by
  intro row' hrow' heq
  rw [next, step, rows, UserTables.deleteAccessInfo, UserTables.unless.eq_def, requires,
    if_pos hprivilege] at hrow'
  have hid := hnone row' (List.mem_of_mem_filter hrow') heq
  have hkept := List.of_mem_filter hrow'
  simp [hid] at hkept

end Run

/-- The access list, as it is when the clients come. -/
def start (t : UserTables) : AccessClients := ⟨t, []⟩

def group : AccessInfo := ⟨2, 1, .ofString "7"⟩

def findGroup : AccessCall := .findAccessInfo group .allPrivileges none

end AccessClients

end Hatohol
