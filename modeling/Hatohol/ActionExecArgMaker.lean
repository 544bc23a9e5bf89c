import Hatohol.StringUtils

/-!
# The words of a command line

`ActionExecArgMaker` cuts the command of an action into words (server/src/ActionExecArgMaker.cc).
`ParsableString` reads up to the next separator (server/mlpl/src/ParsableString.cc:262-337), and a
callback is told of each separator that is passed. The separators are the space, the quote and the
backslash, and the callback keeps the state of quotation and escape.
-/

namespace Hatohol

/-- `SeparatorCheckerWithCallback`, whose callbacks are functions on the state that they are called
    with. -/
structure SeparatorChecker (σ : Type) where
  isSeparator : UInt8 → Bool
  notifyPassedOnSeparator : UInt8 → σ → σ

structure ParsableString where
  /-- What lies at the position, which is a null pointer at the end. -/
  parsingPosition : Option Bytes
  pendingNotifySeparator : Option UInt8
  deriving DecidableEq, Repr

namespace ParsableString

def new (str : Bytes) : ParsableString := ⟨some str.c_str, none⟩

def finished (p : ParsableString) : Bool := p.parsingPosition.isNone

/-- The number of characters that are left, with the NUL behind them. -/
def left (p : ParsableString) : Nat := p.parsingPosition.elim 0 (·.length + 1)

section

variable {σ : Type} (checker : SeparatorChecker σ)

/-- The loop of `genericParse`, with what `readWord` does with a word that is found. The first
    argument is the text between `currWordHead` and `ptr`. -/
def genericParse : Bytes → Bytes → σ → Bytes × ParsableString × σ
  | word, [], s => (word, ⟨none, none⟩, s)
  | word, c :: rest, s =>
      if !checker.isSeparator c then genericParse (word ++ [c]) rest s
      else if word.length > 0 then (word, ⟨some rest, some c⟩, s)
      else genericParse [] rest (checker.notifyPassedOnSeparator c s)

/-- (ParsableString.cc:240-251) -/
def readWord (p : ParsableString) (s : σ) : Bytes × ParsableString × σ :=
  match p.parsingPosition with
  | none => ([], p, s)
  | some target =>
      genericParse checker [] target
        (p.pendingNotifySeparator.elim s (checker.notifyPassedOnSeparator · s))

variable {checker}

theorem left_genericParse_le (word text : Bytes) (s : σ) :
    (genericParse checker word text s).2.1.left ≤ text.length := by
  induction text generalizing word s with
  | nil => exact Nat.le_refl 0
  | cons c rest ih =>
    rw [genericParse]
    split
    · exact Nat.le_succ_of_le (ih _ _)
    · split
      · exact Nat.le_refl _
      · exact Nat.le_succ_of_le (ih _ _)

theorem left_readWord_lt {p : ParsableString} (hfinished : p.finished = false) (s : σ) :
    (p.readWord checker s).2.1.left < p.left := by
  obtain ⟨position, pending⟩ := p
  cases position with
  | none => cases hfinished
  | some target => exact Nat.lt_succ_of_le (left_genericParse_le _ _ _)

end

end ParsableString

/-- `ActionExecArgMaker::Impl`, with the vector that it fills. -/
structure ActionExecArgMaker where
  inQuot : Bool
  byBackSlash : Bool
  currWord : Bytes
  argVect : List Bytes
  deriving DecidableEq, Repr

namespace ActionExecArgMaker

def space : UInt8 := 0x20

def quot : UInt8 := 0x27

def backSlash : UInt8 := 0x5c

def resetParser (argVect : List Bytes) : ActionExecArgMaker := ⟨false, false, [], argVect⟩

def pushbackCurrWord (m : ActionExecArgMaker) : ActionExecArgMaker :=
  if m.currWord = [] then m
  else { m with argVect := m.argVect ++ [m.currWord], currWord := [] }

/-- (ActionExecArgMaker.cc:107-126) -/
def separatorCallback (sep : UInt8) (m : ActionExecArgMaker) : ActionExecArgMaker :=
  if sep = space then
    { (if m.inQuot then { m with currWord := m.currWord ++ [space] } else m.pushbackCurrWord) with
      byBackSlash := false }
  else if sep = quot then
    { (if m.byBackSlash then { m with currWord := m.currWord ++ [quot] }
        else { m with inQuot := !m.inQuot }) with
      byBackSlash := false }
  else if sep = backSlash then
    { (if m.byBackSlash then { m with currWord := m.currWord ++ [backSlash] } else m) with
      byBackSlash := !m.byBackSlash }
  else m

def separator : SeparatorChecker ActionExecArgMaker where
  isSeparator c := [space, quot, backSlash].contains c
  notifyPassedOnSeparator := separatorCallback

/-- What the loop does with a word that has been read. -/
def addWord (m : ActionExecArgMaker) (word : Bytes) : ActionExecArgMaker :=
  { m with currWord := m.currWord ++ word, byBackSlash := false }

/-- The loop of `makeExecArg`. -/
def readWords (parsable : ParsableString) (m : ActionExecArgMaker) : ActionExecArgMaker :=
  if parsable.finished then m
  else
    let result := parsable.readWord separator m
    readWords result.2.1 (result.2.2.addWord result.1)
termination_by parsable.left
decreasing_by exact ParsableString.left_readWord_lt (Bool.eq_false_iff.mpr ‹_›) m

/-- (ActionExecArgMaker.cc:77-87) A maker may be used several times. -/
def makeExecArg (_ : ActionExecArgMaker) (argVect : List Bytes) (cmd : Bytes) :
    ActionExecArgMaker :=
  (readWords (.new cmd) (resetParser argVect)).pushbackCurrWord

end ActionExecArgMaker

end Hatohol
