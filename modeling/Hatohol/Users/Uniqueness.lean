import Hatohol.DBTablesUser
import Hatohol.Machine.Steps

/-!
# What the tables of users and roles keep

Names of users, names of roles and the flags of roles are unique by the conditions of the calls that
add and update them. Calls come in any order, and between the check of an update and the update
there may be others.
-/

namespace Hatohol

open Sql

/-- A call, or one of the two transactions of `updateUserInfo`: in the second one comes what some
    client has been allowed to ask for in the first. -/
inductive UserCall where
  | addUserInfo (userInfo : UserInfo) (privilege : OperationPrivilege) (misread : Option Bool)
  | checkUpdateUserInfo (userInfo : UserInfo) (privilege : OperationPrivilege) (userId : UserIdType)
  | updateUserInfo (nth : Nat) (misread : Option Bool)
  | updateUserInfoFlags (oldUserFlag updateUserFlag : OperationPrivilegeFlag)
      (privilege : OperationPrivilege)
  | deleteUserInfo (id : UserIdType) (privilege : OperationPrivilege) (userId : UserIdType)
  | addUserRoleInfo (userRoleInfo : UserRoleInfo) (privilege : OperationPrivilege)
      (misread : Option Bool)
  | updateUserRoleInfo (userRoleInfo : UserRoleInfo) (privilege : OperationPrivilege)
      (misread : Option Bool)
  | deleteUserRoleInfo (id : UserRoleIdType) (privilege : OperationPrivilege)

/-- The tables, and the updates that have passed their check. -/
structure UserClients where
  tables : UserTables
  updating : List UserInfo

namespace UserClients

def empty : UserClients := ⟨.empty, []⟩

/-- A call that is made in one transaction. -/
def call (c : UserClients) (result : UserResult) : Except UserError Unit × UserClients :=
  (result.1, { c with tables := result.2 })

section

variable (sha256 : CString → CString) (d : Dialect)

def step (c : UserClients) : UserCall → Except UserError Unit × UserClients
  | .addUserInfo userInfo privilege misread =>
      c.call (c.tables.addUserInfo sha256 d userInfo privilege misread)
  | .checkUpdateUserInfo userInfo privilege userId =>
      let check := do
        c.tables.hasPrivilegeForUpdateUserInfo userInfo privilege userId
        UserTables.checkUpdateUserInfo userInfo
      match check with
      | .error e => (.error e, c)
      | .ok () => (.ok (), { c with updating := c.updating ++ [userInfo] })
  | .updateUserInfo nth misread =>
      match c.updating[nth]? with
      | none => (.ok (), c)
      | some userInfo =>
          { c with updating := c.updating.eraseIdx nth }.call
            (c.tables.updateUserInfo sha256 d userInfo misread)
  | .updateUserInfoFlags oldUserFlag updateUserFlag privilege =>
      c.call (c.tables.updateUserInfoFlags oldUserFlag updateUserFlag privilege)
  | .deleteUserInfo id privilege userId => c.call (c.tables.deleteUserInfo id privilege userId)
  | .addUserRoleInfo userRoleInfo privilege misread =>
      c.call (c.tables.addUserRoleInfo d userRoleInfo privilege misread)
  | .updateUserRoleInfo userRoleInfo privilege misread =>
      c.call (c.tables.updateUserRoleInfo d userRoleInfo privilege misread)
  | .deleteUserRoleInfo id privilege => c.call (c.tables.deleteUserRoleInfo id privilege)

def next (c : UserClients) (call : UserCall) : UserClients := (c.step sha256 d call).2

end

end UserClients

/-- The name of the role that a call writes is a text for the database that stands for itself. -/
def UserCall.ReadsRoleName (d : Dialect) : UserCall → Prop
  | .addUserRoleInfo userRoleInfo _ _ | .updateUserRoleInfo userRoleInfo _ _ =>
      d = .sqlite ∨ keepsBackslashes userRoleInfo.name.text.toList = true
  | _ => True

/-! ## Errors -/

namespace UserTables

/-- An error leaves the tables as they were. -/
def Kept (t : UserTables) (result : UserResult) : Prop := ∀ e, result.1 = .error e → result.2 = t

theorem kept_ok (t t' : UserTables) : t.Kept (.ok (), t') := by
  intro e he
  cases he

theorem kept_error (t : UserTables) (e : UserError) : t.Kept (.error e, t) := fun _ _ => rfl

theorem kept_unless {t : UserTables} {check : Except UserError Unit} {trx : UserTables → UserResult}
    (htrx : t.Kept (trx t)) : t.Kept (t.unless check trx) := by
  cases check with
  | error e => exact t.kept_error e
  | ok => exact htrx

theorem kept_ifNoRecord {t : UserTables} {d : Dialect} {name : CString} {misread : Option Bool}
    {isExisting : String → Bool} {e : UserError} {trx : UserTables → UserResult}
    (htrx : t.Kept (trx t)) : t.Kept (t.ifNoRecord d name misread isExisting e trx) := by
  unfold ifNoRecord
  split
  · exact t.kept_error _
  · exact t.kept_error _
  · exact htrx

theorem kept_updateUserInfo (sha256 : CString → CString) (d : Dialect) (t : UserTables)
    (userInfo : UserInfo) (misread : Option Bool) :
    t.Kept (t.updateUserInfo sha256 d userInfo misread) := by
  unfold updateUserInfo
  split
  · exact kept_ifNoRecord (t.kept_ok _)
  · exact t.kept_error _

theorem kept_updateUserRoleInfo (d : Dialect) (t : UserTables) (userRoleInfo : UserRoleInfo)
    (privilege : OperationPrivilege) (misread : Option Bool) :
    t.Kept (t.updateUserRoleInfo d userRoleInfo privilege misread) := by
  apply kept_unless
  split
  · exact kept_ifNoRecord (t.kept_ok _)
  · exact t.kept_error _

end UserTables

theorem UserClients.tables_of_error (sha256 : CString → CString) (d : Dialect) (c : UserClients)
    (call : UserCall) (e : UserError) (he : (c.step sha256 d call).1 = .error e) :
    (c.step sha256 d call).2.tables = c.tables := by
  cases call with
  | addUserInfo userInfo privilege misread =>
    exact UserTables.kept_unless (UserTables.kept_ifNoRecord (UserTables.kept_ok _ _)) e he
  | checkUpdateUserInfo userInfo privilege userId =>
    rw [UserClients.step]
    split <;> rfl
  | updateUserInfo nth misread =>
    rw [UserClients.step] at he ⊢
    split at he
    next => cases he
    next userInfo hnth =>
      exact UserTables.kept_updateUserInfo sha256 d c.tables userInfo misread e he
  | updateUserInfoFlags oldUserFlag updateUserFlag privilege =>
    exact UserTables.kept_unless (UserTables.kept_ok _ _) e he
  | deleteUserInfo id privilege userId =>
    exact UserTables.kept_unless (UserTables.kept_ok _ _) e he
  | addUserRoleInfo userRoleInfo privilege misread =>
    exact UserTables.kept_unless (UserTables.kept_ifNoRecord (UserTables.kept_ok _ _)) e he
  | updateUserRoleInfo userRoleInfo privilege misread =>
    exact UserTables.kept_updateUserRoleInfo d c.tables userRoleInfo privilege misread e he
  | deleteUserRoleInfo id privilege =>
    exact UserTables.kept_unless (UserTables.kept_ok _ _) e he

/-! ## What is kept -/

/-- The names of users are pairwise different, and their flags are those of privileges. -/
structure SoundUsers (users : Table.Counted UserRow.id) : Prop where
  names : (users.rows.map UserRow.name).Nodup
  flags : ∀ row ∈ users.rows, row.flags.toNat < 2 ^ numOpprvlg

/-- So are the names of roles, and their flags, which are neither none nor all. -/
structure SoundRoles (roles : Table.Counted UserRoleRow.id) : Prop where
  names : (roles.rows.map UserRoleRow.name).Nodup
  nodup_flags : (roles.rows.map UserRoleRow.flags).Nodup
  flags : ∀ row ∈ roles.rows, row.flags.toNat < 2 ^ numOpprvlg ∧
    row.flags ≠ OperationPrivilege.allPrivileges.flags ∧ row.flags ≠ 0#64

namespace UserTables

structure Sound (t : UserTables) : Prop where
  users : SoundUsers t.users
  roles : SoundRoles t.roles

theorem sound_empty : Sound .empty where
  users := ⟨List.nodup_nil, fun _ h => nomatch h⟩
  roles := ⟨List.nodup_nil, List.nodup_nil, fun _ h => nomatch h⟩

theorem sound_unless {t : UserTables} {check : Except UserError Unit} {trx : UserTables →
    UserResult}
    (ht : Sound t) (htrx : check = .ok () → Sound (trx t).2) : Sound (t.unless check trx).2 := by
  cases check with
  | error e => exact ht
  | ok => exact htrx rfl

theorem sound_ifNoRecord {t : UserTables} {d : Dialect} {name : CString} {misread : Option Bool}
    {isExisting : String → Bool} {e : UserError} {trx : UserTables → UserResult}
    (hread : readTerm d name = some name.text) (ht : Sound t)
    (htrx : isExisting name.text = false → Sound (trx t).2) :
    Sound (t.ifNoRecord d name misread isExisting e trx).2 := by
  rw [ifNoRecord_of_read hread]
  split
  next => exact ht
  next hnew => exact htrx (Bool.not_eq_true _ |>.mp hnew)

section Users

variable {sha256 : CString → CString} {d : Dialect} {t : UserTables}

theorem sound_addUserInfo (ht : Sound t) (userInfo : UserInfo) (privilege : OperationPrivilege)
    (misread : Option Bool) : Sound (t.addUserInfo sha256 d userInfo privilege misread).2 := by
  apply sound_unless ht
  intro hcheck
  obtain ⟨-, hcheck⟩ := checks_eq_ok.mp hcheck
  obtain ⟨hname, hcheck⟩ := checks_eq_ok.mp hcheck
  obtain ⟨-, hflags⟩ := checks_eq_ok.mp hcheck
  apply sound_ifNoRecord (readTerm_of_isValidUserName d hname) ht
  intro hnew
  refine ⟨⟨?_, ?_⟩, ht.roles⟩
  · apply Table.Counted.nodup_append ht.users.names t.users.byId_next
    simpa using hnew
  · intro row hrow
    rcases List.mem_append.mp hrow with hrow | hrow
    · exact ht.users.flags row hrow
    · rw [List.mem_singleton.mp hrow]
      exact toNat_lt_of_isValidFlags hflags

theorem sound_updateUserInfo (ht : Sound t) {userInfo : UserInfo}
    (hvalid : checkUpdateUserInfo userInfo = .ok ()) (misread : Option Bool) :
    Sound (t.updateUserInfo sha256 d userInfo misread).2 := by
  unfold updateUserInfo
  split
  next hfound =>
    apply sound_ifNoRecord (readTerm_of_isValidUserName d (checks_eq_ok.mp hvalid).1) ht
    intro hnew
    simp only [CString.text_beq, List.any_eq_false, Bool.and_eq_true, beq_iff_eq, bne_iff_ne,
      not_and, not_not] at hnew
    refine ⟨⟨?_, ?_⟩, ht.roles⟩
    · obtain ⟨old, -, hid⟩ := List.any_eq_true.mp hfound
      have hid : (old.id : Int) = userInfo.id := beq_iff_eq.mp hid
      apply Table.Counted.nodup_modify ht.users.names (id_updatedUser sha256 userInfo)
        (n := old.id)
      · intro r hr
        have hr : (r.id : Int) ≠ userInfo.id := fun h => hr (Int.ofNat.inj (h.trans hid.symm))
        rw [updatedUser, if_neg hr]
      · intro r _ r' hr' hr hne heq
        have hr : (r.id : Int) = userInfo.id := by rw [hr, hid]
        rw [updatedUser, if_pos hr] at heq
        exact hne (Int.ofNat.inj ((hnew r' hr' heq.symm).trans hid.symm))
    · intro row hrow
      obtain ⟨old, hold, rfl⟩ := List.mem_map.mp hrow
      unfold updatedUser
      split
      · exact flags_of_checkUpdateUserInfo hvalid
      · exact ht.users.flags old hold
  next => exact ht

theorem sound_updateUserInfoFlags (ht : Sound t)
    (oldUserFlag updateUserFlag : OperationPrivilegeFlag) (privilege : OperationPrivilege) :
    Sound (t.updateUserInfoFlags oldUserFlag updateUserFlag privilege).2 := by
  apply sound_unless ht
  intro hcheck
  obtain ⟨-, hcheck⟩ := checks_eq_ok.mp hcheck
  obtain ⟨-, hflags⟩ := checks_eq_ok.mp hcheck
  refine ⟨⟨?_, ?_⟩, ht.roles⟩
  · have hname : UserRow.name ∘ updatedFlags oldUserFlag updateUserFlag = UserRow.name := by
      funext row
      simp only [Function.comp_apply, updatedFlags]
      split <;> rfl
    rw [replaceFlags, Table.Counted.modify, List.map_map, hname]
    exact ht.users.names
  · intro row hrow
    obtain ⟨old, hold, rfl⟩ := List.mem_map.mp hrow
    unfold updatedFlags
    split
    · exact toNat_lt_of_isValidFlags hflags
    · exact ht.users.flags old hold

theorem sound_deleteUserInfo (ht : Sound t) (id : UserIdType) (privilege : OperationPrivilege)
    (userId : UserIdType) : Sound (t.deleteUserInfo id privilege userId).2 := by
  apply sound_unless ht
  intro _
  refine ⟨⟨Table.Counted.nodup_keep ht.users.names _, ?_⟩, ht.roles⟩
  exact fun row hrow => ht.users.flags row (List.mem_of_mem_filter hrow)

end Users

section Roles

variable {d : Dialect} {t : UserTables} {userRoleInfo : UserRoleInfo}

theorem sound_addUserRoleInfo (ht : Sound t) (privilege : OperationPrivilege)
    (misread : Option Bool) (hread : readTerm d userRoleInfo.name = some userRoleInfo.name.text) :
    Sound (t.addUserRoleInfo d userRoleInfo privilege misread).2 := by
  apply sound_unless ht
  intro hcheck
  have hflags := flags_of_checkUserRoleInfo (checks_eq_ok.mp hcheck).2
  apply sound_ifNoRecord hread ht
  intro hnew
  simp only [CString.text_beq, List.any_eq_false, Bool.or_eq_true, beq_iff_eq, not_or] at hnew
  refine ⟨ht.users, ?_, ?_, ?_⟩
  · exact Table.Counted.nodup_append ht.roles.names t.roles.byId_next fun r hr => (hnew r hr).1
  · exact Table.Counted.nodup_append ht.roles.nodup_flags t.roles.byId_next
      fun r hr => (hnew r hr).2
  · intro row hrow
    rcases List.mem_append.mp hrow with hrow | hrow
    · exact ht.roles.flags row hrow
    · rw [List.mem_singleton.mp hrow]
      exact hflags

theorem sound_updateUserRoleInfo (ht : Sound t) (privilege : OperationPrivilege)
    (misread : Option Bool) (hread : readTerm d userRoleInfo.name = some userRoleInfo.name.text) :
    Sound (t.updateUserRoleInfo d userRoleInfo privilege misread).2 := by
  apply sound_unless ht
  intro hcheck
  have hflags := flags_of_checkUserRoleInfo (checks_eq_ok.mp hcheck).2
  split
  next hfound =>
    apply sound_ifNoRecord hread ht
    intro hnew
    simp only [CString.text_beq, List.any_eq_false, Bool.and_eq_true, Bool.or_eq_true, beq_iff_eq,
      bne_iff_ne, not_and, not_not] at hnew
    obtain ⟨old, -, hid⟩ := List.any_eq_true.mp hfound
    have hid : (old.id : Int) = userRoleInfo.id := beq_iff_eq.mp hid
    have hsame : ∀ r : UserRoleRow, r.id ≠ old.id → updatedRole userRoleInfo r = r := by
      intro r hr
      exact if_neg fun h => hr (Int.ofNat.inj (h.trans hid.symm))
    have hwritten : ∀ r : UserRoleRow, r.id = old.id → updatedRole userRoleInfo r =
        { r with name := userRoleInfo.name, flags := userRoleInfo.flags } := by
      intro r hr
      exact if_pos (by rw [hr, hid])
    have hother : ∀ r ∈ t.roles.rows, r.id ≠ old.id →
        userRoleInfo.name ≠ r.name ∧ userRoleInfo.flags ≠ r.flags := by
      intro r hr hne
      have hid' : (r.id : Int) ≠ userRoleInfo.id := fun h => hne (Int.ofNat.inj (h.trans hid.symm))
      exact ⟨fun h => hid' (hnew r hr (.inl h.symm)), fun h => hid' (hnew r hr (.inr h.symm))⟩
    refine ⟨ht.users, ?_, ?_, ?_⟩
    · apply Table.Counted.nodup_modify ht.roles.names (id_updatedRole userRoleInfo) (n := old.id)
      · intro r hr
        rw [hsame r hr]
      · intro r _ r' hr' hr hne
        rw [hwritten r hr]
        exact (hother r' hr' hne).1
    · apply Table.Counted.nodup_modify ht.roles.nodup_flags (id_updatedRole userRoleInfo)
        (n := old.id)
      · intro r hr
        rw [hsame r hr]
      · intro r _ r' hr' hr hne
        rw [hwritten r hr]
        exact (hother r' hr' hne).2
    · intro row hrow
      obtain ⟨r, hr, rfl⟩ := List.mem_map.mp hrow
      by_cases hrid : r.id = old.id
      · rw [hwritten r hrid]
        exact hflags
      · rw [hsame r hrid]
        exact ht.roles.flags r hr
  next => exact ht

theorem sound_deleteUserRoleInfo (ht : Sound t) (id : UserRoleIdType)
    (privilege : OperationPrivilege) : Sound (t.deleteUserRoleInfo id privilege).2 := by
  apply sound_unless ht
  intro _
  refine ⟨ht.users, Table.Counted.nodup_keep ht.roles.names _,
    Table.Counted.nodup_keep ht.roles.nodup_flags _, ?_⟩
  exact fun row hrow => ht.roles.flags row (List.mem_of_mem_filter hrow)

end Roles

end UserTables

namespace UserClients

structure Sound (c : UserClients) : Prop where
  tables : c.tables.Sound
  updating : ∀ userInfo ∈ c.updating, UserTables.checkUpdateUserInfo userInfo = .ok ()

theorem sound_empty : Sound empty where
  tables := UserTables.sound_empty
  updating := fun _ h => nomatch h

/-- Every transaction keeps the tables sound, and so every run does. -/
theorem sound_next {sha256 : CString → CString} {d : Dialect} {c : UserClients} {call : UserCall}
    (hc : Sound c) (hread : call.ReadsRoleName d) : Sound (c.next sha256 d call) := by
  cases call with
  | addUserInfo userInfo privilege misread =>
    exact ⟨UserTables.sound_addUserInfo hc.tables userInfo privilege misread, hc.updating⟩
  | checkUpdateUserInfo userInfo privilege userId =>
    rw [next, step]
    split
    next => exact hc
    next hcheck =>
      refine ⟨hc.tables, fun info hinfo => ?_⟩
      rcases List.mem_append.mp hinfo with hinfo | hinfo
      · exact hc.updating info hinfo
      · rw [List.mem_singleton.mp hinfo]
        exact (checks_eq_ok.mp hcheck).2
  | updateUserInfo nth misread =>
    rw [next, step]
    split
    next => exact hc
    next userInfo hnth =>
      have hvalid := hc.updating userInfo (List.mem_of_getElem? hnth)
      exact ⟨UserTables.sound_updateUserInfo hc.tables hvalid misread,
        fun info hinfo => hc.updating info (List.mem_of_mem_eraseIdx hinfo)⟩
  | updateUserInfoFlags oldUserFlag updateUserFlag privilege =>
    exact ⟨UserTables.sound_updateUserInfoFlags hc.tables oldUserFlag updateUserFlag privilege,
      hc.updating⟩
  | deleteUserInfo id privilege userId =>
    exact ⟨UserTables.sound_deleteUserInfo hc.tables id privilege userId, hc.updating⟩
  | addUserRoleInfo userRoleInfo privilege misread =>
    exact ⟨UserTables.sound_addUserRoleInfo hc.tables privilege misread
      ((readTerm_eq_iff d userRoleInfo.name).mpr hread), hc.updating⟩
  | updateUserRoleInfo userRoleInfo privilege misread =>
    exact ⟨UserTables.sound_updateUserRoleInfo hc.tables privilege misread
      ((readTerm_eq_iff d userRoleInfo.name).mpr hread), hc.updating⟩
  | deleteUserRoleInfo id privilege =>
    exact ⟨UserTables.sound_deleteUserRoleInfo hc.tables id privilege, hc.updating⟩

end UserClients

/-! ## Runs -/

namespace UserClients

/-- Calls of any clients in any order. As long as roles are given names that the database reads as
    they are, names and the flags of roles stay unique and valid. A call that fails, in whatever
    state, leaves the tables as they are. -/
theorem users_and_roles_sound (sha256 : CString → CString) (d : Dialect) :
    (∀ calls : List UserCall, (∀ call ∈ calls, call.ReadsRoleName d) →
      (calls.foldl (next sha256 d) empty).tables.Sound) ∧
    ∀ (c : UserClients) (call : UserCall) (e : UserError), (c.step sha256 d call).1 = .error e →
      (c.next sha256 d call).tables = c.tables := by
  refine ⟨fun calls hcalls => ?_, tables_of_error sha256 d⟩
  have hsound : Sound (calls.foldl (next sha256 d) empty) :=
    List.foldlRecOn calls _ sound_empty fun c hc call hcall => sound_next hc (hcalls call hcall)
  exact hsound.tables

/-- A role that is added twice, with other flags. -/
def addTwice (name : CString) : List UserCall :=
  [.addUserRoleInfo ⟨0, name, 1#64⟩ .allPrivileges (some false),
    .addUserRoleInfo ⟨0, name, 2#64⟩ .allPrivileges (some false)]

theorem users_and_roles_sound_addTwice :
    ((addTwice (.ofString "operator")).foldl (next id .mysql) empty).tables.Sound :=
  (users_and_roles_sound id .mysql).1 _ (by
    intro call hcall
    rcases List.mem_pair.mp hcall with rfl | rfl
    · exact .inr (by decide)
    · exact .inr (by decide))

/-- MySQL takes a backslash out of the condition, so that no role is found. -/
theorem role_added_twice :
    ¬ ∀ (sha256 : CString → CString) (d : Dialect) (calls : List UserCall),
      (calls.foldl (next sha256 d) empty).tables.Sound := by
  intro h
  have hnames := (h id .mysql (addTwice (.ofString "a\\b"))).roles.names
  revert hnames
  decide

end UserClients

end Hatohol
