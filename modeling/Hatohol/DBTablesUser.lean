import Hatohol.DBTablesAction
import Hatohol.Table.Keyed

/-!
# Users, roles and what users may see

`DBTablesUser` (server/src/DBTablesUser.cc) keeps the users, the roles that are offered for them and
the access list. Names are unique by the conditions that it writes, not by keys of the tables. A
condition is text for the database, which may read it in another way than was meant
(`readTerm`).
-/

namespace Hatohol

open Sql DBTermCodec Table

/-! ## Texts in conditions -/

/-- The value that a database reads in place of a text, if it takes nothing else for it. -/
def readTerm (d : Dialect) (val : CString) : Option String :=
  match readString d (encString val).toList with
  | some (value, []) => some (String.ofList value)
  | _ => none

theorem readTerm_eq_iff (d : Dialect) (val : CString) :
    readTerm d val = some val.text ↔ d = .sqlite ∨ keepsBackslashes val.text.toList = true := by
  have hreads := reads_encString_iff d val ""
  simp only [String.append_empty, String.toList_empty, List.head?_nil] at hreads
  rw [readTerm]
  constructor
  · intro hread
    split at hread
    next value heq =>
      have hvalue : value = val.text.toList := by
        rw [← Option.some.inj hread, String.toList_ofList]
      exact (hreads.mp (by rw [heq, hvalue])).2
    next => cases hread
  · intro hkeeps
    rw [hreads.mpr ⟨by simp, hkeeps⟩]
    simp

/-! ## Rows -/

abbrev UserRoleIdType := Int

abbrev AccessInfoIdType := Int

/-- What is asked for. The password is in clear. -/
structure UserInfo where
  id : UserIdType
  name : CString
  password : CString
  flags : OperationPrivilegeFlag
  deriving DecidableEq, Repr

/-- A row of `users`, with the hash of the password. -/
structure UserRow where
  id : Nat
  name : CString
  password : CString
  flags : OperationPrivilegeFlag
  deriving DecidableEq, Repr

structure UserRoleInfo where
  id : UserRoleIdType
  name : CString
  flags : OperationPrivilegeFlag
  deriving DecidableEq, Repr

structure UserRoleRow where
  id : Nat
  name : CString
  flags : OperationPrivilegeFlag
  deriving DecidableEq, Repr

structure AccessInfo where
  userId : UserIdType
  serverId : ServerIdType
  hostgroupId : HostgroupIdType
  deriving DecidableEq, Repr

/-- A row of `access_list`. -/
structure AccessRow where
  id : Nat
  info : AccessInfo
  deriving DecidableEq, Repr

structure UserTables where
  users : Counted UserRow.id
  roles : Counted UserRoleRow.id
  accessList : Counted AccessRow.id

def UserTables.empty : UserTables := ⟨.empty _, .empty _, .empty _⟩

/-- The codes of `HatoholError`, and an exception for a condition that is no SQL. -/
inductive UserError where
  | noPrivilege
  | emptyUserName
  | tooLongUserName
  | invalidChar
  | emptyPassword
  | tooLongPassword
  | invalidPrivilegeFlags
  | userNameExist
  | notFoundTargetRecord
  | deleteMyself
  | emptyUserRoleName
  | tooLongUserRoleName
  | userRoleNameOrPrivilegeFlagsExist
  | exception
  deriving DecidableEq, Repr

/-! ## Checks of what is asked for -/

theorem checks_eq_ok {check : Except UserError Unit} {next : Unit → Except UserError Unit} :
    check >>= next = .ok () ↔ check = .ok () ∧ next () = .ok () := by
  cases check with
  | error e => exact iff_of_false (fun h => nomatch h) (fun h => nomatch h.1)
  | ok => exact (and_iff_right rfl).symm

/-- NUM_OPPRVLG (OperationPrivilege.h:25-76) -/
def numOpprvlg : Nat := 28

/-- `validUsernameChars` (DBTablesUser.cc:482-494) -/
def isValidUserNameChar (c : Char) : Bool :=
  c.isAlphanum || c == '.' || c == '-' || c == '_' || c == '@'

/-- (DBTablesUser.cc:1136-1148) -/
def isValidUserName (name : CString) : Except UserError Unit :=
  if name.text.isEmpty then throw .emptyUserName
  else if name.text.utf8ByteSize > 128 then throw .tooLongUserName
  else if !name.text.toList.all isValidUserNameChar then throw .invalidChar
  else pure ()

/-- (DBTablesUser.cc:1150-1157) -/
def isValidPassword (password : CString) : Except UserError Unit :=
  if password.text.isEmpty then throw .emptyPassword
  else if password.text.utf8ByteSize > 128 then throw .tooLongPassword
  else pure ()

/-- (DBTablesUser.cc:1159-1164) -/
def isValidFlags (flags : OperationPrivilegeFlag) : Except UserError Unit :=
  if flags ≥ 1#64 <<< numOpprvlg then throw .invalidPrivilegeFlags else pure ()

theorem toNat_lt_of_isValidFlags {flags : OperationPrivilegeFlag}
    (hvalid : isValidFlags flags = .ok ()) : flags.toNat < 2 ^ numOpprvlg := by
  unfold isValidFlags at hvalid
  split at hvalid
  next => cases hvalid
  next hlt => exact BitVec.lt_def.mp (BitVec.not_le.mp hlt)

/-- (DBTablesUser.cc:1166-1173) -/
def isValidUserRoleName (name : CString) : Except UserError Unit :=
  if name.text.isEmpty then throw .emptyUserRoleName
  else if name.text.utf8ByteSize > 128 then throw .tooLongUserRoleName
  else pure ()

/-- The checks of a role before it is added or updated (DBTablesUser.cc:970-986, 1033-1048). -/
def checkUserRoleInfo (userRoleInfo : UserRoleInfo) : Except UserError Unit := do
  isValidUserRoleName userRoleInfo.name
  isValidFlags userRoleInfo.flags
  if userRoleInfo.flags = OperationPrivilege.allPrivileges.flags ∨ userRoleInfo.flags = 0#64 then
    throw .userRoleNameOrPrivilegeFlagsExist

theorem flags_of_checkUserRoleInfo {userRoleInfo : UserRoleInfo}
    (hvalid : checkUserRoleInfo userRoleInfo = .ok ()) :
    userRoleInfo.flags.toNat < 2 ^ numOpprvlg ∧
      userRoleInfo.flags ≠ OperationPrivilege.allPrivileges.flags ∧ userRoleInfo.flags ≠ 0#64 := by
  obtain ⟨-, hvalid⟩ := checks_eq_ok.mp hvalid
  obtain ⟨hflags, hvalid⟩ := checks_eq_ok.mp hvalid
  refine ⟨toNat_lt_of_isValidFlags hflags, ?_⟩
  split at hvalid
  next => cases hvalid
  next hne => exact not_or.mp hne

theorem keepsBackslashes_of_all {cs : List Char} (hcs : ∀ c ∈ cs, c ≠ '\\') :
    keepsBackslashes cs = true := by
  induction cs with
  | nil => rfl
  | cons c cs ih =>
    rw [keepsBackslashes]
    · exact ih fun c' hc' => hcs c' (by simp [hc'])
    · rintro c' cs' rfl
      exact absurd rfl (hcs _ (by simp))
    · rintro rfl
      exact absurd rfl (hcs _ (by simp))

/-- The names of users are read by every database. -/
theorem readTerm_of_isValidUserName (d : Dialect) {name : CString}
    (hvalid : isValidUserName name = .ok ()) : readTerm d name = some name.text := by
  rw [readTerm_eq_iff]
  right
  apply keepsBackslashes_of_all
  have hall : name.text.toList.all isValidUserNameChar = true := by
    unfold isValidUserName at hvalid
    repeat' split at hvalid
    · cases hvalid
    · cases hvalid
    · cases hvalid
    · simp_all
  rintro c hc rfl
  have := List.all_eq_true.mp hall _ hc
  revert this
  decide

def requires (privilege : OperationPrivilege) (type : OperationPrivilegeType) :
    Except UserError Unit :=
  if privilege.has type then pure () else throw .noPrivilege

/-! ## Calls -/

abbrev UserResult := Except UserError Unit × UserTables

/-- A call that a check stops leaves the tables as they are. -/
def UserTables.unless (t : UserTables) (check : Except UserError Unit)
    (trx : UserTables → UserResult) : UserResult :=
  match check with
  | .error e => (.error e, t)
  | .ok () => trx t

/-- A transaction that asks for a record first. Where the condition is not read as it was meant, what
    is found is given by `misread`; an exception rolls the transaction back. -/
def UserTables.ifNoRecord (t : UserTables) (d : Dialect) (name : CString) (misread : Option Bool)
    (isExisting : String → Bool) (e : UserError) (trx : UserTables → UserResult) : UserResult :=
  match (readTerm d name).elim misread fun value => some (isExisting value) with
  | none => (.error .exception, t)
  | some true => (.error e, t)
  | some false => trx t

theorem UserTables.ifNoRecord_of_read {d : Dialect} {name : CString}
    (hread : readTerm d name = some name.text) (t : UserTables) (misread : Option Bool)
    (isExisting : String → Bool) (e : UserError) (trx : UserTables → UserResult) :
    t.ifNoRecord d name misread isExisting e trx =
      if isExisting name.text then (.error e, t) else trx t := by
  unfold ifNoRecord
  rw [hread]
  cases hexists : isExisting name.text <;> simp [hexists]

namespace UserTables

section Users

variable (sha256 : CString → CString) (d : Dialect)

/-- (DBTablesUser.cc:516-576) -/
def addUserInfo (t : UserTables) (userInfo : UserInfo) (privilege : OperationPrivilege)
    (misread : Option Bool) : UserResult :=
  let check := do
    requires privilege .createUser
    isValidUserName userInfo.name
    isValidPassword userInfo.password
    isValidFlags userInfo.flags
  t.unless check fun t =>
    let isExisting value := t.users.rows.any fun row => row.name.text == value
    t.ifNoRecord d userInfo.name misread isExisting .userNameExist fun t =>
      let row : UserRow :=
        ⟨t.users.next, userInfo.name, sha256 userInfo.password, userInfo.flags⟩
      (.ok (), { t with users := t.users.append row t.users.byId_next })

/-- (DBTablesUser.cc:834-847) -/
def getUserInfo (t : UserTables) (userId : UserIdType) : Option UserRow :=
  t.users.rows.find? fun row => row.id == userId

/-- (DBTablesUser.cc:578-598) The first transaction of `updateUserInfo`: the record is compared with
    what is asked for, the password apart. -/
def hasPrivilegeForUpdateUserInfo (t : UserTables) (userInfo : UserInfo)
    (privilege : OperationPrivilege) (userId : UserIdType) : Except UserError Unit :=
  if privilege.has .updateUser then pure ()
  else if userInfo.id ≠ userId then throw .noPrivilege
  else if userInfo.id = invalidUserId then throw .noPrivilege
  else
    match t.getUserInfo userInfo.id with
    | none => throw .noPrivilege
    | some row =>
      if (row.id : Int) = userInfo.id ∧ row.name = userInfo.name ∧ row.flags = userInfo.flags then
        pure ()
      else throw .noPrivilege

/-- (DBTablesUser.cc:606-614) -/
def checkUpdateUserInfo (userInfo : UserInfo) : Except UserError Unit := do
  isValidUserName userInfo.name
  if !userInfo.password.text.isEmpty then isValidPassword userInfo.password
  isValidFlags userInfo.flags

theorem flags_of_checkUpdateUserInfo {userInfo : UserInfo}
    (hvalid : checkUpdateUserInfo userInfo = .ok ()) : userInfo.flags.toNat < 2 ^ numOpprvlg := by
  obtain ⟨-, hvalid⟩ := checks_eq_ok.mp hvalid
  dsimp only at hvalid
  split at hvalid
  · exact toNat_lt_of_isValidFlags (checks_eq_ok.mp hvalid).2
  · exact toNat_lt_of_isValidFlags hvalid

/-- The columns that `UPDATE` sets. An empty password is left as it is. -/
def updatedUser (userInfo : UserInfo) (row : UserRow) : UserRow :=
  if (row.id : Int) = userInfo.id then
    { row with
      name := userInfo.name
      password := if userInfo.password.text.isEmpty then row.password else sha256 userInfo.password
      flags := userInfo.flags }
  else row

theorem id_updatedUser (userInfo : UserInfo) (row : UserRow) :
    (updatedUser sha256 userInfo row).id = row.id := by
  unfold updatedUser
  split <;> rfl

/-- (DBTablesUser.cc:616-668) The second transaction of `updateUserInfo`. -/
def updateUserInfo (t : UserTables) (userInfo : UserInfo) (misread : Option Bool) : UserResult :=
  if t.users.rows.any fun row => row.id == userInfo.id then
    let isExisting value :=
      t.users.rows.any fun row => row.name.text == value && row.id != userInfo.id
    t.ifNoRecord d userInfo.name misread isExisting .userNameExist fun t =>
      (.ok (), { t with
        users := t.users.modify (updatedUser sha256 userInfo) (id_updatedUser sha256 userInfo) })
  else (.error .notFoundTargetRecord, t)

end Users

/-- The flags of a user with these flags are replaced. -/
def updatedFlags (old new : OperationPrivilegeFlag) (row : UserRow) : UserRow :=
  if row.flags = old then { row with flags := new } else row

theorem id_updatedFlags (old new : OperationPrivilegeFlag) (row : UserRow) :
    (updatedFlags old new row).id = row.id := by
  unfold updatedFlags
  split <;> rfl

def replaceFlags (t : UserTables) (old new : OperationPrivilegeFlag) : UserTables :=
  { t with users := t.users.modify (updatedFlags old new) (id_updatedFlags old new) }

/-- (DBTablesUser.cc:671-710) -/
def updateUserInfoFlags (t : UserTables) (oldUserFlag updateUserFlag : OperationPrivilegeFlag)
    (privilege : OperationPrivilege) : UserResult :=
  let check := do
    requires privilege .updateUser
    isValidFlags oldUserFlag
    isValidFlags updateUserFlag
  t.unless check fun t => (.ok (), t.replaceFlags oldUserFlag updateUserFlag)

/-- (DBTablesUser.cc:712-744) -/
def deleteUserInfo (t : UserTables) (id : UserIdType) (privilege : OperationPrivilege)
    (userId : UserIdType) : UserResult :=
  let check := do
    requires privilege .deleteUser
    if id = userId then throw .deleteMyself
  t.unless check fun t =>
    (.ok (), { t with
      users := t.users.keep fun row => row.id != id
      accessList := t.accessList.keep fun row => row.info.userId != id })

section AccessList

variable (d : Dialect)

/-- (DBTablesUser.cc:784-811) The first transaction of `addAccessInfo`: the id of a row that grants
    the same. -/
def findAccessInfo (t : UserTables) (accessInfo : AccessInfo) (misread : Option (Option Nat)) :
    Option (Option Nat) :=
  (readTerm d accessInfo.hostgroupId).elim misread fun value => some <|
    (t.accessList.rows.find? fun row => row.info.userId == accessInfo.userId &&
      row.info.serverId == accessInfo.serverId && row.info.hostgroupId.text == value).map AccessRow.id

/-- (DBTablesUser.cc:813-821) The second one. -/
def insertAccessInfo (t : UserTables) (accessInfo : AccessInfo) : UserTables :=
  { t with accessList := t.accessList.append ⟨t.accessList.next,
    accessInfo⟩ t.accessList.byId_next }

/-- (DBTablesUser.cc:823-832) -/
def deleteAccessInfo (t : UserTables) (id : AccessInfoIdType) (privilege : OperationPrivilege) :
    UserResult :=
  t.unless (requires privilege .updateUser) fun t =>
    (.ok (), { t with accessList := t.accessList.keep fun row => row.id != id })

end AccessList

section Roles

variable (d : Dialect)

/-- (DBTablesUser.cc:970-1031) -/
def addUserRoleInfo (t : UserTables) (userRoleInfo : UserRoleInfo) (privilege : OperationPrivilege)
    (misread : Option Bool) : UserResult :=
  let check := do
    requires privilege .createUserRole
    checkUserRoleInfo userRoleInfo
  t.unless check fun t =>
    let isExisting value := t.roles.rows.any fun row =>
      row.name.text == value || row.flags == userRoleInfo.flags
    t.ifNoRecord d userRoleInfo.name misread isExisting .userRoleNameOrPrivilegeFlagsExist fun t =>
      let row : UserRoleRow := ⟨t.roles.next, userRoleInfo.name, userRoleInfo.flags⟩
      (.ok (), { t with roles := t.roles.append row t.roles.byId_next })

def updatedRole (userRoleInfo : UserRoleInfo) (row : UserRoleRow) : UserRoleRow :=
  if (row.id : Int) = userRoleInfo.id then
    { row with name := userRoleInfo.name, flags := userRoleInfo.flags }
  else row

theorem id_updatedRole (userRoleInfo : UserRoleInfo) (row : UserRoleRow) :
    (updatedRole userRoleInfo row).id = row.id := by
  unfold updatedRole
  split <;> rfl

/-- (DBTablesUser.cc:1033-1095) -/
def updateUserRoleInfo (t : UserTables) (userRoleInfo : UserRoleInfo)
    (privilege : OperationPrivilege) (misread : Option Bool) : UserResult :=
  let check := do
    requires privilege .updateAllUserRole
    checkUserRoleInfo userRoleInfo
  t.unless check fun t =>
    if t.roles.rows.any fun row => row.id == userRoleInfo.id then
      let isExisting value := t.roles.rows.any fun row =>
        (row.name.text == value || row.flags == userRoleInfo.flags) && row.id != userRoleInfo.id
      t.ifNoRecord d userRoleInfo.name misread isExisting .userRoleNameOrPrivilegeFlagsExist fun t =>
        (.ok (), { t with
          roles := t.roles.modify (updatedRole userRoleInfo) (id_updatedRole userRoleInfo) })
    else (.error .notFoundTargetRecord, t)

/-- (DBTablesUser.cc:1097-1111) -/
def deleteUserRoleInfo (t : UserTables) (id : UserRoleIdType) (privilege : OperationPrivilege) :
    UserResult :=
  t.unless (requires privilege .deleteAllUserRole) fun t =>
    (.ok (), { t with roles := t.roles.keep fun row => row.id != id })

end Roles

end UserTables

end Hatohol
