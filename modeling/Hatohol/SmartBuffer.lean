import Mathlib.Algebra.Group.Int.Defs
import Hatohol.Buffers.Bytes

/-!
# SmartBuffer

A buffer with the place of the next byte (server/mlpl/src/SmartBuffer.cc). Besides bytes it holds
strings, each with a header somewhere else, which has the length and the way to the string. Numbers
are stored with the least byte first.
-/

namespace Hatohol

open Bytes

/-- Bytes with the place of the next one and the end of what has been stored. -/
structure SmartBuffer where
  buf : List UInt8
  index : Nat
  watermark : Nat
  deriving DecidableEq, Repr

namespace SmartBuffer

def empty : SmartBuffer := ⟨[], 0, 0⟩

def resetIndex (b : SmartBuffer) : SmartBuffer := { b with index := 0 }

def incIndex (b : SmartBuffer) (size : Nat) : SmartBuffer :=
  { b with index := b.index + size, watermark := max b.watermark (b.index + size) }

/-- What `realloc` gives is not initialised; `fresh` is what is found there. -/
def ensureRemainingSize (b : SmartBuffer) (size : Nat) (fresh : Nat → UInt8) : SmartBuffer :=
  if b.index + size > b.buf.length then
    { b with
      buf := b.buf ++ (List.range (b.index + size - b.buf.length)).map
        fun i => fresh (b.buf.length + i) }
  else b

/-- Bytes that are stored at the index, without moving it. -/
def store (b : SmartBuffer) (bytes : List UInt8) : SmartBuffer :=
  { b with buf := b.buf.take b.index ++ bytes ++ b.buf.drop (b.index + bytes.length) }

/-- The bytes up to the watermark. -/
def content (b : SmartBuffer) : List UInt8 := b.buf.take b.watermark

/-- Those of them from the index on. -/
def unsent (b : SmartBuffer) : List UInt8 := b.content.drop b.index

/-! ## Strings -/

/-- How `insertString` may end. Nothing is known after a write out of the buffer. -/
inductive InsertError where
  | rangeError (what : String)
  | outOfRange (what : String)
  | overrun
  deriving DecidableEq, Repr

def UINT32_MAX : Nat := 2 ^ 32 - 1

/-- The size of a `StringHeader`. -/
def sizeofStringHeader : Nat := 8

def stringHeader (size : Nat) (offset : Int) : Bytes :=
  littleEndian 4 size ++ littleEndian 4 (offset % 2 ^ 32).toNat

def size (b : SmartBuffer) : Nat := b.buf.length

def setIndex (b : SmartBuffer) (index : Nat) : SmartBuffer := { b with index }

/-- (SmartBuffer.cc:116-148) What `realloc` returns is an argument. -/
def alloc (b : SmartBuffer) (newBuffer : Bytes) (resetIndexDeep : Bool) : SmartBuffer :=
  if resetIndexDeep then ⟨newBuffer, 0, 0⟩ else { b with buf := newBuffer }

/-- What the copy constructor and the operator `=` make of a buffer (SmartBuffer.cc:51-73). The index
    and the watermark are copied before the call of `alloc`. -/
def copy (rhs : SmartBuffer) (newBuffer : Bytes) : SmartBuffer :=
  { (⟨[], rhs.index, rhs.watermark⟩ : SmartBuffer).alloc newBuffer true with buf := rhs.buf }

def setWatermarkIfNeeded (b : SmartBuffer) (index : Nat) : SmartBuffer :=
  { b with watermark := max b.watermark index }

/-- `memcpy` to a position in the buffer. -/
def memcpy (b : SmartBuffer) (pos : Nat) (src : Bytes) : Except InsertError SmartBuffer :=
  if pos + src.length ≤ b.size then .ok { b with buf := overwrite b.buf pos src }
  else .error .overrun

def add (b : SmartBuffer) (src : Bytes) : Except InsertError SmartBuffer := do
  return (← b.memcpy b.index src).incIndex src.length

/-- (SmartBuffer.cc:182-217) The arithmetic is that of `size_t`, and of `ssize_t` for the offset. -/
def insertString (b : SmartBuffer) (str : Bytes) (bodyIndex : Nat) :
    Except InsertError (Nat × SmartBuffer) := do
  let length := str.length
  if length > UINT32_MAX then
    throw (.rangeError ("Too long string length: " ++ toString length))
  let nextBodyIndex := (bodyIndex + length + 1) % 2 ^ 64
  if nextBodyIndex > b.size then
    throw (.outOfRange ("Invalid paramter: string length: " ++ toString length ++ ", body index: " ++
      toString bodyIndex ++ ", buff size: " ++ toString b.size))
  let offset := ((bodyIndex : Int) - b.index).bmod (2 ^ 64)
  if offset > 2 ^ 31 - 1 ∨ offset < -2 ^ 31 then
    throw (.outOfRange ("offset overflow: string length: " ++ toString length ++ ", body index: " ++
      toString bodyIndex ++ ", buff index: " ++ toString b.index))
  let b ← b.add (stringHeader length offset)
  let b ← b.memcpy bodyIndex (str ++ [0])
  return (nextBodyIndex, b.setWatermarkIfNeeded nextBodyIndex)

/-- (SmartBuffer.cc:278-283) The header is given by its position. -/
def extractString (b : SmartBuffer) (header : Nat) : Option Bytes := do
  let size ← slice b.buf header 4
  let offset ← slice b.buf (header + 4) 4
  let body := header + ((ofLittleEndian offset : Int).bmod (2 ^ 32))
  if body < 0 then none else slice b.buf body.toNat (ofLittleEndian size)

def extractStringAndIncIndex (b : SmartBuffer) : Option (Bytes × SmartBuffer) :=
  (b.extractString b.index).map (·, b.setIndex (b.index + sizeofStringHeader))

end SmartBuffer

end Hatohol
