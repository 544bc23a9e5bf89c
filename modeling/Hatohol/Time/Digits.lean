import Mathlib.Algebra.Group.Nat.Defs
import Mathlib.Data.Nat.Basic

/-!
# Decimal digits of a fixed width

Digits of one length are in the order of the numbers that they spell, whether they are compared as
numbers or character by character.
-/

namespace Hatohol.Time

def AllDigits (cs : List Char) : Prop := ∀ c ∈ cs, c.isDigit = true

/-- The number that a list of digits spells. -/
def value (cs : List Char) : Nat := Nat.ofDigitChars 10 cs 0

/-- The digits with zeros in front of them, up to a width. -/
def zfill (width : Nat) (cs : List Char) : List Char :=
  List.replicate (width - cs.length) '0' ++ cs

/-- The number in decimal, with zeros in front of it up to a width. -/
def padded (width n : Nat) : List Char := zfill width (Nat.toDigits 10 n)

theorem AllDigits.append {a b : List Char} (ha : AllDigits a) (hb : AllDigits b) :
    AllDigits (a ++ b) := by
  intro c hmem
  exact (List.mem_append.mp hmem).elim (ha c) (hb c)

theorem allDigits_toDigits (n : Nat) : AllDigits (Nat.toDigits 10 n) :=
  fun _ hmem => Nat.isDigit_of_mem_toDigits (by omega) (by omega) hmem

theorem allDigits_zfill {width : Nat} {cs : List Char} (hcs : AllDigits cs) :
    AllDigits (zfill width cs) := by
  refine AllDigits.append (fun c hmem => ?_) hcs
  rw [List.eq_of_mem_replicate hmem]
  rfl

theorem allDigits_padded (width n : Nat) : AllDigits (padded width n) :=
  allDigits_zfill (allDigits_toDigits n)

theorem length_zfill (width : Nat) (cs : List Char) :
    (zfill width cs).length = max width cs.length := by
  rw [zfill, List.length_append, List.length_replicate]
  omega

theorem zfill_of_le {width : Nat} {cs : List Char} (hle : width ≤ cs.length) :
    zfill width cs = cs := by
  rw [zfill, Nat.sub_eq_zero_of_le hle, List.replicate_zero, List.nil_append]

theorem length_padded {width n : Nat} (hpos : 0 < width) (hlt : n < 10 ^ width) :
    (padded width n).length = width := by
  rw [padded, length_zfill]
  exact Nat.max_eq_left ((Nat.length_toDigits_le_iff (by omega) hpos).mpr hlt)

theorem padded_ne_nil (width n : Nat) : padded width n ≠ [] := by
  rw [padded, zfill]
  exact List.append_ne_nil_of_right_ne_nil _ Nat.toDigits_ne_nil

@[simp] theorem value_zfill (width : Nat) (cs : List Char) :
    value (zfill width cs) = value cs := by
  rw [value, zfill, Nat.ofDigitChars_append, Nat.ofDigitChars_replicate_zero, Nat.mul_zero]
  rfl

@[simp] theorem value_padded (width n : Nat) : value (padded width n) = n := by
  rw [padded, value_zfill]
  exact Nat.ofDigitChars_ten_toDigits

theorem value_append (a b : List Char) : value (a ++ b) = 10 ^ b.length * value a + value b := by
  rw [value, Nat.ofDigitChars_append, Nat.ofDigitChars_eq_ofDigitChars_zero]
  rfl

theorem value_cons (c : Char) (cs : List Char) :
    value (c :: cs) = 10 ^ cs.length * (c.toNat - '0'.toNat) + value cs := by
  rw [value, Nat.ofDigitChars_cons, Nat.ofDigitChars_eq_ofDigitChars_zero, Nat.mul_zero,
    Nat.zero_add]
  rfl

theorem digit_lt {c : Char} (hc : c.isDigit = true) : c.toNat - '0'.toNat < 10 := by
  rw [Char.isDigit_iff_toNat] at hc
  have hzero : '0'.toNat = 48 := rfl
  have hnine : '9'.toNat = 57 := rfl
  omega

theorem value_lt {cs : List Char} (hcs : AllDigits cs) : value cs < 10 ^ cs.length := by
  induction cs with
  | nil => exact Nat.one_pos
  | cons c cs ih =>
    have hrest := ih fun d hmem => hcs d (List.mem_cons_of_mem c hmem)
    have hdigit := digit_lt (hcs c List.mem_cons_self)
    rw [value_cons, List.length_cons, Nat.pow_succ]
    have hmul := Nat.mul_le_mul_left (10 ^ cs.length) (Nat.le_of_lt_succ hdigit)
    omega

theorem char_lt_iff {c d : Char} (hc : c.isDigit = true) (hd : d.isDigit = true) :
    c < d ↔ c.toNat - '0'.toNat < d.toNat - '0'.toNat := by
  rw [Char.isDigit_iff_toNat] at hc hd
  have hzero : '0'.toNat = 48 := rfl
  rw [Char.lt_def, UInt32.lt_iff_toNat_lt]
  change c.toNat < d.toNat ↔ _
  omega

/-- Digits of one length are compared as the numbers are. -/
theorem lt_iff_value_lt : ∀ {a b : List Char}, AllDigits a → AllDigits b → a.length = b.length →
    (a < b ↔ value a < value b) := by
  intro a
  induction a with
  | nil =>
    intro b _ _ hlength
    obtain rfl := List.length_eq_zero_iff.mp hlength.symm
    exact iff_of_false (List.not_lt_nil _) (Nat.lt_irrefl _)
  | cons c cs ih =>
    intro b ha hb hlength
    cases b with
    | nil => cases hlength
    | cons d ds =>
      have hlength' : cs.length = ds.length := Nat.succ.inj hlength
      have hcs : AllDigits cs := fun e hmem => ha e (List.mem_cons_of_mem c hmem)
      have hds : AllDigits ds := fun e hmem => hb e (List.mem_cons_of_mem d hmem)
      have hlt := char_lt_iff (ha c List.mem_cons_self) (hb d List.mem_cons_self)
      have hvalue := value_lt hcs
      have hvalue' := value_lt hds
      rw [List.cons_lt_cons_iff, value_cons, value_cons, ih hcs hds hlength', hlt]
      rw [hlength'] at hvalue ⊢
      rcases Nat.lt_trichotomy (c.toNat - '0'.toNat) (d.toNat - '0'.toNat) with hdigit | hdigit |
        hdigit
      · have hmul := Nat.mul_le_mul_left (10 ^ ds.length) (Nat.succ_le_of_lt hdigit)
        rw [Nat.mul_succ] at hmul
        exact iff_of_true (.inl hdigit) (by omega)
      · have hsame : c = d := by
          have hc := Char.isDigit_iff_toNat.mp (ha c List.mem_cons_self)
          have hd := Char.isDigit_iff_toNat.mp (hb d List.mem_cons_self)
          have hzero : '0'.toNat = 48 := rfl
          exact Char.toNat_inj.mp (by omega)
        rw [hdigit]
        simp [hsame]
      · have hmul := Nat.mul_le_mul_left (10 ^ ds.length) (Nat.succ_le_of_lt hdigit)
        rw [Nat.mul_succ] at hmul
        have hne : c ≠ d := by
          rintro rfl
          exact Nat.lt_irrefl _ hdigit
        exact iff_of_false (by rintro (h | ⟨h, -⟩) <;> [omega; exact hne h]) (by omega)

/-- Texts with first parts of one length are compared part by part. -/
theorem append_lt_append_iff {b b' : List Char} : ∀ {a a' : List Char}, a.length = a'.length →
    (a ++ b < a' ++ b' ↔ a < a' ∨ a = a' ∧ b < b') := by
  intro a
  induction a with
  | nil =>
    intro a' hlength
    obtain rfl := List.length_eq_zero_iff.mp hlength.symm
    simp
  | cons c cs ih =>
    intro a' hlength
    cases a' with
    | nil => cases hlength
    | cons d ds =>
      rw [List.cons_append, List.cons_append, List.cons_lt_cons_iff, List.cons_lt_cons_iff,
        ih (Nat.succ.inj hlength), List.cons.injEq]
      constructor
      · rintro (h | ⟨hc, h | ⟨hcs, h⟩⟩)
        · exact .inl (.inl h)
        · exact .inl (.inr ⟨hc, h⟩)
        · exact .inr ⟨⟨hc, hcs⟩, h⟩
      · rintro ((h | ⟨hc, h⟩) | ⟨⟨hc, hcs⟩, h⟩)
        · exact .inl h
        · exact .inr ⟨hc, .inl h⟩
        · exact .inr ⟨hc, .inr ⟨hcs, h⟩⟩

theorem eq_iff_value_eq {a b : List Char} (ha : AllDigits a) (hb : AllDigits b)
    (hlength : a.length = b.length) : a = b ↔ value a = value b := by
  constructor
  · rintro rfl
    rfl
  · intro hvalue
    have hab := (lt_iff_value_lt ha hb hlength).not.mpr (by omega)
    have hba := (lt_iff_value_lt hb ha hlength.symm).not.mpr (by omega)
    exact List.le_antisymm (List.not_lt.mp hba) (List.not_lt.mp hab)

end Hatohol.Time
