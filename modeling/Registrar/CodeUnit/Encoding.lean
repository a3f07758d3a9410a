import Registrar.CodeUnit.Basic
import Registrar.CodeUnit.FormatError
import Registrar.OrderedSet

/-! The encoded form of a code unit: four magic bytes, a version, a pool of strings, and the unit
itself with each string given by its place in the pool. The pool grows while the unit is written, and
is put in front of it afterwards. Words are little-endian, and lists are preceded by their length. -/
namespace Registrar

/-- The letters `NFEU`. -/
def magic : List UInt8 := [0x4E, 0x46, 0x45, 0x55]

def formatVersion : UInt32 := 2

def halfBytes (w : UInt16) : List UInt8 := [w.toUInt8, (w >>> 8).toUInt8]

def wordBytes (w : UInt32) : List UInt8 :=
  [w.toUInt8, (w >>> 8).toUInt8, (w >>> 16).toUInt8, (w >>> 24).toUInt8]

@[simp] theorem halfBytes_length (w : UInt16) : (halfBytes w).length = 2 := rfl
@[simp] theorem wordBytes_length (w : UInt32) : (wordBytes w).length = 4 := rfl

/-- The UTF-8 bytes of a text. -/
def textBytes (s : String) : List UInt8 := s.toUTF8.toList

def countBytes (n : Nat) : List UInt8 := wordBytes n.toUInt32

/-- A length, unless it does not fit a word. -/
def countWord (what : String) (n : Nat) : Except FormatError (List UInt8) :=
  if n < UInt32.size then .ok (countBytes n) else .error (.tooLarge what n)

def ValueId.bytes (v : ValueId) : List UInt8 := wordBytes v.number

/-- An absent value is a zero byte, a present one follows a one. -/
def optionalValueBytes : Option ValueId → List UInt8
  | none => [0]
  | some v => 1 :: v.bytes

def InvokeKind.code : InvokeKind → UInt8
  | static => 0
  | virtual => 1
  | interface => 2

/-! ### The body -/

/-- What has been written so far, and the strings to which it refers. -/
structure Writing where
  pool : OrderedSet String := .empty
  bytes : Array UInt8 := #[]

abbrev Writer := StateT Writing (Except FormatError)

namespace Writer

def put (bytes : List UInt8) : Writer Unit := modify fun w => { w with bytes := w.bytes ++ bytes }

def count (what : String) (n : Nat) : Writer Unit := do put (← countWord what n)

/-- Refers to a string, for which the pool gets a place if it has none. -/
def string (s : String) : Writer Unit := do
  let (place, pool) := (← get).pool.intern s
  modify ({ · with pool })
  put (wordBytes place.toUInt32)

def stringList (ss : List String) : Writer Unit := do
  count "string list" ss.length
  ss.forM string

abbrev value (v : ValueId) : Writer Unit := put v.bytes

end Writer

open Writer

def MethodRef.write (m : MethodRef) : Writer Unit := do
  string m.owner
  string m.name
  stringList m.params
  string m.returns

mutual

/-- An opcode and the operands in their declared order. -/
def Instruction.write : Instruction → Writer Unit
  | .const d .null => do put [0x01]; value d
  | .const d (.bool b) => do put [0x02]; value d; put [if b then 1 else 0]
  | .const d (.int n) => do put [0x03]; value d; put (wordBytes n.toUInt32)
  | .const d (.str s) => do put [0x04]; value d; string s
  | .loadClass d c => do put [0x05]; value d; string c
  | .param d i => do put [0x06]; value d; put (halfBytes i)
  | .invoke d k m r as => do
    put [0x07]
    value d
    put [k.code]
    m.write
    put (optionalValueBytes r)
    count "argument" as.length
    as.forM value
  | .newInstance d c => do put [0x08]; value d; string c
  | .newArray d c n => do put [0x09]; value d; string c; put (wordBytes n)
  | .store a i v => do put [0x0A]; value a; put (wordBytes i); value v
  | .declare d t => do put [0x0B]; value d; string t
  | .assign t v => do put [0x0C]; value t; value v
  | .branch c a b => do
    put [0x0D]
    value c
    count "instruction" a.length
    Block.write a
    count "instruction" b.length
    Block.write b
  | .isolate b e v h => do
    put [0x0E]
    count "instruction" b.length
    Block.write b
    string e
    value v
    count "instruction" h.length
    Block.write h
  | .leave v => do put [0x0F]; put (optionalValueBytes v)

/-- The instructions one after the other, without their number. -/
def Block.write : List Instruction → Writer Unit
  | [] => pure ()
  | i :: is => do Instruction.write i; Block.write is

end

def Routine.write (r : Routine) : Writer Unit := do
  string r.name
  put (halfBytes r.modifiers.bits)
  stringList r.params
  string r.returns
  put (wordBytes r.valueCount)
  count "instruction" r.body.length
  Block.write r.body

/-- The unit without the pool. -/
def CodeUnit.write (u : CodeUnit) : Writer Unit := do
  string u.name
  string u.superClass
  stringList u.interfaces
  stringList u.annotations
  count "routine" u.routines.length
  u.routines.forM Routine.write

/-! ### The whole form -/

/-- A text of the pool. -/
def pooledText (s : String) : Except FormatError (List UInt8) := do
  return (← countWord "string byte" s.utf8ByteSize) ++ textBytes s

/-- Puts in front what is known only now: the pool, and what every form starts with. -/
def Writing.form (w : Writing) : Except FormatError (List UInt8) := do
  let count ← countWord "string pool" w.pool.toList.length
  let texts ← w.pool.toList.mapM pooledText
  return magic ++ wordBytes formatVersion ++ count ++ texts.flatten ++ w.bytes.toList

/-- Encodes a unit, or names the first length that does not fit a word. -/
def CodeUnit.encode (u : CodeUnit) : Except FormatError (List UInt8) := do
  let (_, w) ← u.write.run {}
  w.form

end Registrar
