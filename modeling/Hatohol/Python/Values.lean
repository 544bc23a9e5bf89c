import Mathlib.Data.List.Basic

/-!
# Values of Python

What `json.loads` answers, and the operations on it that a program can apply without knowing what it
has got. Each of them raises an exception on a value of another type. This is Python 2, where the
integers have two types.
-/

namespace Hatohol.Python

inductive PyError where
  | keyError
  | typeError
  | attributeError
  | valueError
  | runtimeError
  deriving DecidableEq, Repr

/-- The code units of a string. -/
abbrev Unicode := List UInt32

def ascii (s : String) : Unicode := s.toList.map Char.val

inductive PyType where
  | none
  | bool
  | int
  | long
  | float
  | unicode
  | list
  | dict
  deriving DecidableEq, Repr

/-- A `str` that a program makes is given by its bytes as the units of a unicode string. -/
inductive PyValue where
  | none
  | bool (value : Bool)
  | int (value : Int)
  | long (value : Int)
  | float (bits : UInt64)
  | unicode (units : Unicode)
  | list (elements : List PyValue)
  | dict (members : List (Unicode × PyValue))

namespace PyValue

def type : PyValue → PyType
  | none => .none
  | bool _ => .bool
  | int _ => .int
  | long _ => .long
  | float _ => .float
  | unicode _ => .unicode
  | list _ => .list
  | dict _ => .dict

/-- `value is None` -/
def isNone : PyValue → Bool
  | none => true
  | _ => false

def isDict : PyValue → Bool
  | dict _ => true
  | _ => false

/-- The values that have no `__hash__` are the containers. -/
def isHashable : PyValue → Bool
  | list _ | dict _ => false
  | _ => true

/-- The member of a dictionary. -/
def member (value : PyValue) (key : Unicode) : Option PyValue :=
  match value with
  | dict members => members.lookup key
  | _ => Option.none

/-- `value[key]` with a string. A list and a string have indices that are numbers. -/
def getItem (value : PyValue) (key : Unicode) : Except PyError PyValue :=
  match value with
  | dict members =>
      match members.lookup key with
      | some value => .ok value
      | Option.none => .error .keyError
  | _ => .error .typeError

/-- `value.get(key)` -/
def get (value : PyValue) (key : Unicode) : Except PyError PyValue :=
  match value with
  | dict members => .ok ((members.lookup key).getD none)
  | _ => .error .attributeError

/-- `value.has_key(key)` -/
def hasKey (value : PyValue) (key : Unicode) : Except PyError Bool :=
  match value with
  | dict members => .ok (members.lookup key).isSome
  | _ => .error .attributeError

/-- The length of a value that has one. -/
def length? : PyValue → Option Nat
  | unicode units => some units.length
  | list elements => some elements.length
  | dict members => some members.length
  | _ => Option.none

/-- `len(value)` -/
def len (value : PyValue) : Except PyError Nat :=
  match value.length? with
  | some length => .ok length
  | Option.none => .error .typeError

/-- The value is one of these strings. -/
def isOneOf (value : PyValue) (strings : List Unicode) : Bool :=
  match value with
  | unicode units => units ∈ strings
  | _ => false

/-- `value in strings`, which hashes the value if the strings are in a set or a dictionary. -/
def isIn (value : PyValue) (hashes : Bool) (strings : List Unicode) : Except PyError Bool :=
  if hashes && !value.isHashable then .error .typeError else .ok (value.isOneOf strings)

theorem getItem_eq_ok {value item : PyValue} {key : Unicode}
    (hmember : value.member key = some item) : value.getItem key = .ok item := by
  cases value with
  | dict members =>
    have hlookup : members.lookup key = some item := hmember
    rw [getItem, hlookup]
  | _ => cases hmember

theorem getItem_dict_none {members : List (Unicode × PyValue)} {key : Unicode}
    (hlookup : members.lookup key = Option.none) :
    (dict members).getItem key = .error .keyError := by
  rw [getItem, hlookup]

theorem getItem_of_not_dict {value : PyValue} (hdict : value.isDict = false) (key : Unicode) :
    value.getItem key = .error .typeError := by
  cases value with
  | dict members => cases hdict
  | _ => rfl

theorem get_of_not_dict {value : PyValue} (hdict : value.isDict = false) (key : Unicode) :
    value.get key = .error .attributeError := by
  cases value with
  | dict members => cases hdict
  | _ => rfl

theorem len_eq_ok {value : PyValue} {length : Nat} (hlength : value.length? = some length) :
    value.len = .ok length := by
  rw [len, hlength]

theorem isHashable_of_isOneOf {value : PyValue} {strings : List Unicode}
    (hone : value.isOneOf strings = true) : value.isHashable = true := by
  cases value with
  | list elements => cases hone
  | dict members => cases hone
  | _ => rfl

theorem isIn_eq_ok {value : PyValue} {hashes : Bool}
    (hhash : hashes = true → value.isHashable = true) (strings : List Unicode) : value.isIn hashes strings = .ok (value.isOneOf strings) := by
  unfold isIn
  rw [if_neg]
  intro hraises
  rw [Bool.and_eq_true] at hraises
  rw [hhash hraises.1] at hraises
  cases hraises.2

theorem isOneOf_eq_true_iff {value : PyValue} {strings : List Unicode} :
    value.isOneOf strings = true ↔ ∃ units, value = unicode units ∧ units ∈ strings := by
  cases value with
  | unicode units => simp [isOneOf]
  | _ => simp [isOneOf]

end PyValue

end Hatohol.Python
