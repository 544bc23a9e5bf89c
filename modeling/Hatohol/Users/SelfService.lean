import Hatohol.DBTablesUser

/-!
# A user who changes his password

Without the privilege for it a user may update his own record if nothing but the password is
changed. This is checked in one transaction; in another one the name and the flags are written as
they were asked for.
-/

namespace Hatohol

open Sql

namespace UserTables

section

variable (sha256 : CString → CString) (d : Dialect)

/-- What other clients commit. Theirs is the second transaction of `updateUserInfo`, after a check
    of their own. -/
inductive Commit where
  | updateUserInfo (userInfo : UserInfo) (misread : Option Bool)
  | updateUserInfoFlags (oldUserFlag updateUserFlag : OperationPrivilegeFlag)
      (privilege : OperationPrivilege)
  | deleteUserInfo (id : UserIdType) (privilege : OperationPrivilege) (userId : UserIdType)

def Commit.run (t : UserTables) : Commit → UserTables
  | .updateUserInfo userInfo misread => (t.updateUserInfo sha256 d userInfo misread).2
  | .updateUserInfoFlags oldUserFlag updateUserFlag privilege =>
      (t.updateUserInfoFlags oldUserFlag updateUserFlag privilege).2
  | .deleteUserInfo id privilege userId => (t.deleteUserInfo id privilege userId).2

end

/-- Only the password of one user is changed, if anything is. -/
structure OnlyPassword (userId : UserIdType) (t t' : UserTables) : Prop where
  users : List.Forall₂ (fun row row' => row' = row ∨
    (row.id = userId ∧ row' = { row with password := row'.password })) t.users.rows t'.users.rows
  roles : t'.roles = t.roles
  accessList : t'.accessList = t.accessList

/-- A user who is still there has the name and the flags that he had. -/
def Unaltered (userId : UserIdType) (t t' : UserTables) : Prop :=
  ∀ row ∈ t.users.rows, row.id = userId → ∀ row' ∈ t'.users.rows, row'.id = userId →
    row'.name = row.name ∧ row'.flags = row.flags

/-- Another user has the name. -/
def NameTaken (userId : UserIdType) (name : CString) (t : UserTables) : Prop :=
  ∃ row ∈ t.users.rows, row.id ≠ userId ∧ row.name = name

instance (userId : UserIdType) (name : CString) (t : UserTables) :
    Decidable (NameTaken userId name t) :=
  inferInstanceAs (Decidable (∃ row ∈ t.users.rows, (row.id : Int) ≠ userId ∧ row.name = name))

instance (userId : UserIdType) (t t' : UserTables) : Decidable (Unaltered userId t t') :=
  inferInstanceAs (Decidable (∀ row ∈ t.users.rows, (row.id : Int) = userId →
    ∀ row' ∈ t'.users.rows, (row'.id : Int) = userId → row'.name = row.name ∧ row'.flags =
      row.flags))

theorem OnlyPassword.refl (userId : UserIdType) (t : UserTables) : OnlyPassword userId t t where
  users := List.forall₂_same.mpr fun _ _ => .inl rfl
  roles := rfl
  accessList := rfl

/-- The record that the check has found is the one that is asked for. -/
theorem exists_of_hasPrivilege {t : UserTables} {userInfo : UserInfo}
    {privilege : OperationPrivilege} {userId : UserIdType}
    (hself : privilege.has .updateUser = false)
    (hcheck : t.hasPrivilegeForUpdateUserInfo userInfo privilege userId = .ok ()) :
    userInfo.id = userId ∧ ∃ row ∈ t.users.rows, row.id = userId ∧ row.name = userInfo.name ∧
      row.flags = userInfo.flags := by
  unfold hasPrivilegeForUpdateUserInfo at hcheck
  rw [hself, if_neg (by decide)] at hcheck
  split at hcheck
  next => cases hcheck
  next hid =>
    have hid : userInfo.id = userId := not_not.mp hid
    split at hcheck
    next => cases hcheck
    next =>
      split at hcheck
      next => cases hcheck
      next row hfound =>
        split at hcheck
        next hrow =>
          exact ⟨hid, row, List.mem_of_find?_eq_some hfound, hrow.1.trans hid, hrow.2⟩
        next => cases hcheck

section

variable {sha256 : CString → CString} {d : Dialect} {userInfo : UserInfo}

/-- What the update transaction does: nothing, or it sets the columns of the row. -/
theorem updateUserInfo_snd (t : UserTables) (misread : Option Bool)
    (hvalid : isValidUserName userInfo.name = .ok ()) :
    (t.updateUserInfo sha256 d userInfo misread).2 =
      if (∃ row ∈ t.users.rows, row.id = userInfo.id) ∧ ¬ NameTaken userInfo.id userInfo.name t then
        { t with
          users := t.users.modify (updatedUser sha256 userInfo) (id_updatedUser sha256 userInfo) }
      else t := by
  have hthere : (t.users.rows.any fun row => row.id == userInfo.id) = true ↔
      ∃ row ∈ t.users.rows, row.id = userInfo.id := by simp
  have htaken : (t.users.rows.any fun row =>
      row.name.text == userInfo.name.text && row.id != userInfo.id) = true ↔
      NameTaken userInfo.id userInfo.name t := by
    simp [NameTaken, and_comm]
  unfold updateUserInfo
  simp only [ifNoRecord_of_read (readTerm_of_isValidUserName d hvalid)]
  by_cases hrow : ∃ row ∈ t.users.rows, row.id = userInfo.id
  · rw [if_pos (hthere.mpr hrow)]
    by_cases hname : NameTaken userInfo.id userInfo.name t
    · rw [if_pos (htaken.mpr hname), if_neg (fun h => h.2 hname)]
    · rw [if_neg (mt htaken.mp hname), if_pos ⟨hrow, hname⟩]
  · rw [if_neg (mt hthere.mp hrow), if_neg (fun h => hrow h.1)]

theorem onlyPassword_modify_iff (t : UserTables) :
    OnlyPassword userInfo.id t { t with
      users := t.users.modify (updatedUser sha256 userInfo) (id_updatedUser sha256 userInfo) } ↔
    ∀ row ∈ t.users.rows, row.id = userInfo.id →
      row.name = userInfo.name ∧ row.flags = userInfo.flags := by
  have hrow : ∀ row : UserRow, (updatedUser sha256 userInfo row = row ∨
      (row.id = userInfo.id ∧ updatedUser sha256 userInfo row =
        { row with password := (updatedUser sha256 userInfo row).password })) ↔
      ((row.id : Int) = userInfo.id → row.name = userInfo.name ∧ row.flags = userInfo.flags) := by
    intro row
    by_cases hid : (row.id : Int) = userInfo.id
    · obtain ⟨id, name, password, flags⟩ := row
      simp only [updatedUser, if_pos hid, UserRow.mk.injEq]
      grind
    · simp [updatedUser, hid]
  have husers : (t.users.modify (updatedUser sha256 userInfo)
      (id_updatedUser sha256 userInfo)).rows = t.users.rows.map (updatedUser sha256 userInfo) := rfl
  constructor
  · rintro ⟨husers', -, -⟩ row hmem
    rw [husers, List.forall₂_map_right_iff, List.forall₂_same] at husers'
    exact (hrow row).mp (husers' row hmem)
  · intro h
    refine ⟨?_, rfl, rfl⟩
    rw [husers, List.forall₂_map_right_iff, List.forall₂_same]
    exact fun row hmem => (hrow row).mpr (h row hmem)

end

/-- A user without the privilege passes the check. Whatever is committed until his update comes, the
    update changes nothing but his password if and only if his name and his flags are still the ones
    that the check has seen, or the update fails because the name is another user's by then. -/
theorem self_update_only_password_iff (sha256 : CString → CString) (d : Dialect) (t : UserTables)
    (userInfo : UserInfo) (privilege : OperationPrivilege) (userId : UserIdType)
    (commits : List Commit) (misread : Option Bool) (hself : privilege.has .updateUser = false)
    (hcheck : t.hasPrivilegeForUpdateUserInfo userInfo privilege userId = .ok ())
    (hvalid : checkUpdateUserInfo userInfo = .ok ()) :
    let t' := commits.foldl (Commit.run sha256 d) t
    OnlyPassword userId t' (t'.updateUserInfo sha256 d userInfo misread).2 ↔
      Unaltered userId t t' ∨ NameTaken userId userInfo.name t' := by
  intro t'
  obtain ⟨rfl, old, hold, hid, hname, hflags⟩ := exists_of_hasPrivilege hself hcheck
  have hunaltered : Unaltered userInfo.id t t' ↔ ∀ row ∈ t'.users.rows, row.id = userInfo.id →
      row.name = userInfo.name ∧ row.flags = userInfo.flags := by
    constructor
    · intro h row hrow hrid
      have hsame := h old hold hid row hrow hrid
      exact ⟨hsame.1.trans hname, hsame.2.trans hflags⟩
    · intro h row hrow hrid row' hrow' hrid'
      obtain rfl := t.users.eq_of_id hrow hold (Int.ofNat.inj (hrid.trans hid.symm))
      have hsame := h row' hrow' hrid'
      exact ⟨hsame.1.trans hname.symm, hsame.2.trans hflags.symm⟩
  rw [updateUserInfo_snd t' misread (checks_eq_ok.mp hvalid).1, hunaltered]
  by_cases htaken : NameTaken userInfo.id userInfo.name t'
  · rw [if_neg (fun h => h.2 htaken)]
    exact iff_of_true (.refl _ _) (Or.inr htaken)
  · rw [or_iff_left htaken]
    by_cases hthere : ∃ row ∈ t'.users.rows, row.id = userInfo.id
    · rw [if_pos ⟨hthere, htaken⟩]
      exact onlyPassword_modify_iff t'
    · rw [if_neg (fun h => hthere h.1)]
      exact iff_of_true (.refl _ _) fun row hrow hid => absurd ⟨row, hrow, hid⟩ hthere

/-- An administrator and a user who may create users. -/
def staff : UserTables where
  users :=
    { rows := [⟨1, .ofString "admin", .ofString "x", (1#64 <<< 28) - 1#64⟩,
        ⟨2, .ofString "alice", .ofString "y", 1#64⟩]
      next := 3
      id_lt := by simp
      unique_id := by simp }
  roles := .empty _
  accessList := .empty _

/-- The user asks for another password. -/
def newPassword : UserInfo := ⟨2, .ofString "alice", .ofString "secret", 1#64⟩

/-- What the administrator changes. -/
def changeFlags (old new : OperationPrivilegeFlag) : Commit :=
  .updateUserInfoFlags old new .allPrivileges

/-- Meanwhile the administrator only changes his own flags. -/
theorem self_update_only_password_of_alice :
    let t' := (changeFlags OperationPrivilege.allPrivileges.flags 7#64).run id .sqlite staff
    OnlyPassword 2 t' (t'.updateUserInfo id .sqlite newPassword none).2 :=
  (self_update_only_password_iff id .sqlite staff newPassword ⟨0#64⟩ 2
    [changeFlags OperationPrivilege.allPrivileges.flags 7#64] none (by decide) (by decide)
    (by decide +kernel)).mpr (.inl (by decide +kernel))

/-- The privileges that an administrator has just taken away are given back. -/
theorem self_update_restores_flags :
    ¬ ∀ (sha256 : CString → CString) (d : Dialect) (t : UserTables) (userInfo : UserInfo)
      (privilege : OperationPrivilege) (userId : UserIdType) (commits : List Commit)
      (misread : Option Bool), privilege.has .updateUser = false →
      t.hasPrivilegeForUpdateUserInfo userInfo privilege userId = .ok () →
      checkUpdateUserInfo userInfo = .ok () →
      let t' := commits.foldl (Commit.run sha256 d) t
      OnlyPassword userId t' (t'.updateUserInfo sha256 d userInfo misread).2 := by
  intro h
  have honly := h id .sqlite staff newPassword ⟨0#64⟩ 2
    [changeFlags 1#64 0#64] none (by decide) (by decide) (by decide +kernel)
  have hrow := honly.users
  revert hrow
  decide +kernel

end UserTables

end Hatohol
