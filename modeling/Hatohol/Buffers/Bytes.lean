import Hatohol.StringUtils

/-!
# Bytes in a buffer

Reading and writing at a position, and numbers as bytes with the least one first.
-/

namespace Hatohol.Bytes

variable {s t part : Bytes} {pos count : Nat}

/-! ## Positions -/

/-- Nothing can be read that reaches out of the buffer. -/
def slice (s : Bytes) (pos count : Nat) : Option Bytes :=
  if pos + count ≤ s.length then some ((s.drop pos).take count) else none

def overwrite (s : Bytes) (pos : Nat) (part : Bytes) : Bytes :=
  s.take pos ++ part ++ s.drop (pos + part.length)

theorem length_overwrite (hfits : pos + part.length ≤ s.length) :
    (overwrite s pos part).length = s.length := by
  rw [overwrite, List.length_append, List.length_append, List.length_take, List.length_drop]
  omega

theorem getElem?_overwrite_of_lt (hfits : pos + part.length ≤ s.length) {i : Nat} (hi : i < pos) :
    (overwrite s pos part)[i]? = s[i]? := by
  have hlength : i < (s.take pos).length := by
    rw [List.length_take]
    omega
  rw [overwrite, List.append_assoc, List.getElem?_append_left hlength, List.getElem?_take_of_lt hi]

theorem getElem?_overwrite_of_le (hfits : pos + part.length ≤ s.length) {i : Nat}
    (hi : pos + part.length ≤ i) : (overwrite s pos part)[i]? = s[i]? := by
  have hlength : (s.take pos ++ part).length = pos + part.length := by
    rw [List.length_append, List.length_take]
    omega
  rw [overwrite, List.getElem?_append_right (hlength.trans_le hi), hlength, List.getElem?_drop,
    Nat.add_sub_cancel' hi]

theorem slice_overwrite (hfits : pos + part.length ≤ s.length) :
    slice (overwrite s pos part) pos part.length = some part := by
  have hprefix : (s.take pos).length = pos := by
    rw [List.length_take]
    omega
  rw [slice, if_pos (by rwa [length_overwrite hfits]), overwrite, List.append_assoc,
    List.drop_left' hprefix, List.take_left]

theorem slice_congr (hlength : s.length = t.length)
    (hagree : ∀ i, pos ≤ i → i < pos + count → s[i]? = t[i]?) :
    slice s pos count = slice t pos count := by
  have hpart : (s.drop pos).take count = (t.drop pos).take count := by
    apply List.ext_getElem?
    intro i
    by_cases hi : i < count
    · rw [List.getElem?_take_of_lt hi, List.getElem?_take_of_lt hi, List.getElem?_drop,
        List.getElem?_drop, hagree _ (Nat.le_add_right _ _) (Nat.add_lt_add_left hi _)]
    · rw [List.getElem?_eq_none (by rw [List.length_take]; omega),
        List.getElem?_eq_none (by rw [List.length_take]; omega)]
  rw [slice, slice, hlength, hpart]

/-- A part of what can be read. -/
theorem slice_append {a b : Bytes} (hslice : slice s pos (a ++ b).length = some (a ++ b)) :
    slice s pos a.length = some a ∧ slice s (pos + a.length) b.length = some b := by
  rw [List.length_append] at hslice
  unfold slice at hslice ⊢
  split at hslice
  next hfits =>
    have hboth : (s.drop pos).take (a.length + b.length) = a ++ b := Option.some.inj hslice
    have hfirst : ((s.drop pos).take (a.length + b.length)).take a.length = a := by
      rw [hboth, List.take_left]
    have hlast : ((s.drop pos).take (a.length + b.length)).drop a.length = b := by
      rw [hboth, List.drop_left]
    rw [List.take_take, Nat.min_eq_left (Nat.le_add_right _ _)] at hfirst
    rw [List.drop_take, List.drop_drop, Nat.add_sub_cancel_left] at hlast
    rw [if_pos (by omega), if_pos (by omega), hfirst, hlast]
    exact ⟨rfl, rfl⟩
  next => cases hslice

/-! ## Numbers -/

/-- The low bytes of a number. -/
def littleEndian : Nat → Nat → Bytes
  | 0, _ => []
  | width + 1, n => UInt8.ofNat n :: littleEndian width (n / 256)

def ofLittleEndian : Bytes → Nat
  | [] => 0
  | b :: s => b.toNat + 256 * ofLittleEndian s

@[simp] theorem length_littleEndian (width n : Nat) : (littleEndian width n).length = width := by
  induction width generalizing n with
  | zero => rfl
  | succ width ih => rw [littleEndian, List.length_cons, ih]

theorem ofLittleEndian_littleEndian (width n : Nat) :
    ofLittleEndian (littleEndian width n) = n % 256 ^ width := by
  induction width generalizing n with
  | zero => rw [littleEndian, ofLittleEndian, Nat.pow_zero, Nat.mod_one]
  | succ width ih =>
    have hbyte : (UInt8.ofNat n).toNat = n % 256 := rfl
    rw [littleEndian, ofLittleEndian, ih, hbyte, Nat.pow_succ', Nat.mod_mul]

end Hatohol.Bytes
