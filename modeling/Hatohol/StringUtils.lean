import Mathlib.Algebra.Group.Nat.Defs
import Mathlib.Data.List.TakeDrop
import Mathlib.Data.List.TakeWhile

/-!
# Formatted texts

`StringUtils::vsprintf` prints to a buffer on the stack, and once more to one on the heap if that is
too small (server/mlpl/src/StringUtils.cc:142-169). What `vsnprintf` does with one format and its
arguments is a parameter, from the size of the buffer to the value that is returned and the
characters that are in the buffer then.
-/

namespace Hatohol

/-- The characters of a `std::string`. -/
abbrev Bytes := List UInt8

namespace Bytes

/-- What a pointer to the characters shows. -/
def c_str (s : Bytes) : Bytes := s.takeWhile (· != 0)

theorem c_str_append_nul {s : Bytes} (hnul : 0 ∉ s) (rest : Bytes) :
    c_str (s ++ 0 :: rest) = s := by
  have hall : ∀ c ∈ s, (c != 0) = true := by
    intro c hc
    rw [bne_iff_ne]
    exact fun heq => hnul (heq ▸ hc)
  rw [c_str, List.takeWhile_append_of_pos hall, List.takeWhile_cons_of_neg (by decide),
    List.append_nil]

theorem c_str_of_notMem {s : Bytes} (hnul : 0 ∉ s) : c_str s = s := by
  rw [c_str, List.takeWhile_eq_self_iff]
  intro c hc
  rw [bne_iff_ne]
  exact fun heq => hnul (heq ▸ hc)

end Bytes

namespace StringUtils

open Bytes

def SPRINTF_BUF_ON_STACK_LENGTH : Nat := 0x400

abbrev Vsnprintf := Nat → Int32 × Bytes

inductive AllocError where
  | badArrayNewLength
  deriving DecidableEq, Repr

variable (vsnprintf : Vsnprintf)

/-- (StringUtils.cc:142-169) The sum of an `int` may overflow. -/
def vsprintf : Except AllocError Bytes :=
  let printed := vsnprintf SPRINTF_BUF_ON_STACK_LENGTH
  if printed.1.toInt ≤ SPRINTF_BUF_ON_STACK_LENGTH then .ok (c_str printed.2)
  else
    let outLen := printed.1 + 1
    if outLen.toInt < 0 then .error .badArrayNewLength
    else .ok (c_str (vsnprintf outLen.toInt.toNat).2)

/-- The format and its arguments expand to the text. -/
structure Expands (w : Bytes) : Prop where
  returned : ∀ size, (vsnprintf size).1.toInt = w.length
  written : ∀ size, 0 < size → ∃ rest, (vsnprintf size).2 = w.take (size - 1) ++ 0 :: rest

variable {vsnprintf} {w : Bytes}

theorem Expands.length_lt (hexpands : Expands vsnprintf w) : w.length < 2 ^ 31 := by
  have hlt := (vsnprintf 0).1.toInt_lt
  rw [hexpands.returned 0] at hlt
  exact_mod_cast hlt

theorem Expands.c_str_eq (hexpands : Expands vsnprintf w) (hnul : 0 ∉ w) {size : Nat}
    (hsize : 0 < size) : c_str (vsnprintf size).2 = w.take (size - 1) := by
  obtain ⟨rest, hrest⟩ := hexpands.written size hsize
  rw [hrest, c_str_append_nul fun hmem => hnul (List.mem_of_mem_take hmem)]

/-- The buffer on the stack is taken if the NUL does not fit in, too. -/
theorem vsprintf_of_le (hexpands : Expands vsnprintf w) (hnul : 0 ∉ w)
    (hle : w.length ≤ SPRINTF_BUF_ON_STACK_LENGTH) :
    vsprintf vsnprintf = .ok (w.take (SPRINTF_BUF_ON_STACK_LENGTH - 1)) := by
  have hlen : (vsnprintf SPRINTF_BUF_ON_STACK_LENGTH).1.toInt ≤
      (SPRINTF_BUF_ON_STACK_LENGTH : Int) := by
    rw [hexpands.returned]
    exact_mod_cast hle
  unfold vsprintf
  rw [if_pos hlen, hexpands.c_str_eq hnul (by decide)]

theorem vsprintf_of_lt (hexpands : Expands vsnprintf w) (hnul : 0 ∉ w)
    (hlt : SPRINTF_BUF_ON_STACK_LENGTH < w.length) :
    vsprintf vsnprintf =
      if w.length = 2 ^ 31 - 1 then .error .badArrayNewLength else .ok w := by
  have hreturned := hexpands.returned SPRINTF_BUF_ON_STACK_LENGTH
  have hmax := hexpands.length_lt
  have hlen : ¬(vsnprintf SPRINTF_BUF_ON_STACK_LENGTH).1.toInt ≤
      (SPRINTF_BUF_ON_STACK_LENGTH : Int) := by
    rw [hreturned]
    omega
  have hsum : ((vsnprintf SPRINTF_BUF_ON_STACK_LENGTH).1 + 1).toInt =
      ((w.length : Int) + 1).bmod (2 ^ 32) := by
    rw [Int32.toInt_add, hreturned]
    rfl
  unfold vsprintf
  rw [if_neg hlen]
  dsimp only
  rw [hsum]
  by_cases hoverflow : w.length = 2 ^ 31 - 1
  · have hnegative : ((w.length : Int) + 1).bmod (2 ^ 32) < 0 := by
      rw [hoverflow]
      decide
    rw [if_pos hnegative, if_pos hoverflow]
  · have hsmall : ((w.length : Int) + 1).bmod (2 ^ 32) = (w.length + 1 : Nat) := by
      have hbmod := Int.bmod_eq_of_le (n := (w.length : Int) + 1) (m := 2 ^ 32) (by omega) (by omega)
      exact_mod_cast hbmod
    rw [hsmall, if_neg (by omega), if_neg hoverflow, Int.toNat_natCast,
      hexpands.c_str_eq hnul (Nat.succ_pos _), Nat.succ_sub_one, List.take_length]

/-- A text is returned as it is unless its NUL is the first character behind the buffer on the stack,
    or its length with the NUL is no `int`. -/
theorem vsprintf_eq_iff (hexpands : Expands vsnprintf w) (hnul : 0 ∉ w) :
    vsprintf vsnprintf = .ok w ↔
      w.length ≠ SPRINTF_BUF_ON_STACK_LENGTH ∧ w.length ≠ 2 ^ 31 - 1 := by
  rcases Nat.lt_or_ge SPRINTF_BUF_ON_STACK_LENGTH w.length with hlt | hle
  · rw [vsprintf_of_lt hexpands hnul hlt, and_iff_right hlt.ne']
    by_cases hoverflow : w.length = 2 ^ 31 - 1
    · rw [if_pos hoverflow]
      exact iff_of_false (fun h => nomatch h) fun hne => hne hoverflow
    · rw [if_neg hoverflow]
      exact iff_of_true rfl hoverflow
  · have hsmall : w.length ≠ 2 ^ 31 - 1 := by
      have hlength : SPRINTF_BUF_ON_STACK_LENGTH = 1024 := rfl
      omega
    rw [vsprintf_of_le hexpands hnul hle, Except.ok.injEq, List.take_eq_self_iff,
      and_iff_left hsmall]
    have hlength : SPRINTF_BUF_ON_STACK_LENGTH = 1024 := rfl
    omega

/-- A `vsnprintf` whose format is the text itself. -/
def printing (w : Bytes) : Vsnprintf :=
  fun size => (Int32.ofNat w.length, w.take (size - 1) ++ [0])

theorem expands_printing (hlength : w.length < 2 ^ 31) : Expands (printing w) w :=
  ⟨fun _ => Int32.toInt_ofNat_of_lt hlength, fun _ _ => ⟨[], rfl⟩⟩

theorem vsprintf_one_char : vsprintf (printing [0x61]) = .ok [0x61] ↔
    [(0x61 : UInt8)].length ≠ SPRINTF_BUF_ON_STACK_LENGTH ∧ [(0x61 : UInt8)].length ≠ 2 ^ 31 - 1 :=
  vsprintf_eq_iff (expands_printing (by decide)) (by decide)

/-- The last of 1024 characters is lost. -/
theorem vsprintf_buffer_length :
    Expands (printing (List.replicate 1024 0x61)) (List.replicate 1024 0x61) ∧
      vsprintf (printing (List.replicate 1024 0x61)) = .ok (List.replicate 1023 0x61) ∧
      vsprintf (printing (List.replicate 1024 0x61)) ≠ .ok (List.replicate 1024 0x61) := by
  have hnul : (0 : UInt8) ∉ List.replicate 1024 0x61 := fun hmem =>
    absurd (List.eq_of_mem_replicate hmem) (by decide)
  have hlength : (List.replicate 1024 (0x61 : UInt8)).length = 1024 := List.length_replicate
  have hexpands : Expands (printing (List.replicate 1024 0x61)) (List.replicate 1024 0x61) :=
    expands_printing (by rw [hlength]; decide)
  have hresult : vsprintf (printing (List.replicate 1024 0x61)) =
      .ok (List.replicate 1023 0x61) := by
    rw [vsprintf_of_le hexpands hnul hlength.le, List.take_replicate]
    rfl
  refine ⟨hexpands, hresult, ?_⟩
  rw [hresult, ne_eq, Except.ok.injEq, List.replicate_inj]
  exact fun h => absurd h.1 (by decide)

end StringUtils

end Hatohol
