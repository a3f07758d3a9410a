import Registrar.CodeUnit.Encoding

/-! The encoded form of a unit at a glance: its strings and its lengths in the order in which they are
written, and the bytes of its parts if the place of each string is known. -/
namespace Registrar

/-! ### Strings -/

mutual

/-- The strings of an instruction in the order in which they are written. -/
def Instruction.strings : Instruction → List String
  | .const _ (.str s) => [s]
  | .loadClass _ c => [c]
  | .invoke _ _ m _ _ => m.owner :: m.name :: m.params ++ [m.returns]
  | .newInstance _ c => [c]
  | .newArray _ c _ => [c]
  | .declare _ t => [t]
  | .branch _ a b => Block.strings a ++ Block.strings b
  | .isolate b e _ h => Block.strings b ++ e :: Block.strings h
  | _ => []

def Block.strings : List Instruction → List String
  | [] => []
  | i :: is => Instruction.strings i ++ Block.strings is

end

def Routine.strings (r : Routine) : List String :=
  r.name :: r.params ++ r.returns :: Block.strings r.body

def CodeUnit.strings (u : CodeUnit) : List String :=
  u.name :: u.superClass :: u.interfaces ++ u.annotations ++ u.routines.flatMap Routine.strings

/-- Each string once, where it is used first. -/
def CodeUnit.pool (u : CodeUnit) : List String := u.strings.eraseDups

/-! ### Bytes -/

section

variable (place : String → UInt32)

def stringBytes (s : String) : List UInt8 := wordBytes (place s)

def stringListBytes (ss : List String) : List UInt8 :=
  countBytes ss.length ++ ss.flatMap (stringBytes place)

def MethodRef.bytes (m : MethodRef) : List UInt8 :=
  stringBytes place m.owner ++ stringBytes place m.name ++ stringListBytes place m.params ++
    stringBytes place m.returns

mutual

/-- An opcode and the operands in their declared order. -/
def Instruction.bytes : Instruction → List UInt8
  | .const d .null => 0x01 :: d.bytes
  | .const d (.bool b) => 0x02 :: d.bytes ++ [if b then 1 else 0]
  | .const d (.int n) => 0x03 :: d.bytes ++ wordBytes n.toUInt32
  | .const d (.str s) => 0x04 :: d.bytes ++ stringBytes place s
  | .loadClass d c => 0x05 :: d.bytes ++ stringBytes place c
  | .param d i => 0x06 :: d.bytes ++ halfBytes i
  | .invoke d k m r as =>
    0x07 :: d.bytes ++ k.code :: m.bytes place ++ optionalValueBytes r ++
      countBytes as.length ++ as.flatMap ValueId.bytes
  | .newInstance d c => 0x08 :: d.bytes ++ stringBytes place c
  | .newArray d c n => 0x09 :: d.bytes ++ stringBytes place c ++ wordBytes n
  | .store a i v => 0x0A :: a.bytes ++ wordBytes i ++ v.bytes
  | .declare d t => 0x0B :: d.bytes ++ stringBytes place t
  | .assign t v => 0x0C :: t.bytes ++ v.bytes
  | .branch c a b =>
    0x0D :: c.bytes ++ (countBytes a.length ++ Block.bytes a) ++
      (countBytes b.length ++ Block.bytes b)
  | .isolate b e v h =>
    0x0E :: (countBytes b.length ++ Block.bytes b) ++ stringBytes place e ++ v.bytes ++
      (countBytes h.length ++ Block.bytes h)
  | .leave v => 0x0F :: optionalValueBytes v

/-- The instructions one after the other, without their number. -/
def Block.bytes : List Instruction → List UInt8
  | [] => []
  | i :: is => Instruction.bytes i ++ Block.bytes is

end

def Routine.bytes (r : Routine) : List UInt8 :=
  stringBytes place r.name ++ halfBytes r.modifiers.bits ++ stringListBytes place r.params ++
    stringBytes place r.returns ++ wordBytes r.valueCount ++ countBytes r.body.length ++
    Block.bytes place r.body

/-- The unit without the pool that its strings are places in. -/
def CodeUnit.bodyBytes (u : CodeUnit) : List UInt8 :=
  stringBytes place u.name ++ stringBytes place u.superClass ++
    stringListBytes place u.interfaces ++ stringListBytes place u.annotations ++
    countBytes u.routines.length ++ u.routines.flatMap (Routine.bytes place)

end

/-! ### Lengths -/

/-- A list whose length is written in front of it. -/
structure Extent where
  what : String
  count : Nat
  deriving DecidableEq

/-- The length fits a word. -/
def Extent.fits (e : Extent) : Bool := e.count < UInt32.size

mutual

/-- The lengths in the order in which they are written. -/
def Instruction.extents : Instruction → List Extent
  | .invoke _ _ m _ as => [⟨"string list", m.params.length⟩, ⟨"argument", as.length⟩]
  | .branch _ a b =>
    ⟨"instruction", a.length⟩ :: Block.extents a ++ ⟨"instruction", b.length⟩ :: Block.extents b
  | .isolate b _ _ h =>
    ⟨"instruction", b.length⟩ :: Block.extents b ++ ⟨"instruction", h.length⟩ :: Block.extents h
  | _ => []

def Block.extents : List Instruction → List Extent
  | [] => []
  | i :: is => Instruction.extents i ++ Block.extents is

end

def Routine.extents (r : Routine) : List Extent :=
  ⟨"string list", r.params.length⟩ :: ⟨"instruction", r.body.length⟩ :: Block.extents r.body

/-- The lengths within the unit come before those of the pool, which is complete only then. -/
def CodeUnit.extents (u : CodeUnit) : List Extent :=
  ⟨"string list", u.interfaces.length⟩ :: ⟨"string list", u.annotations.length⟩ ::
    ⟨"routine", u.routines.length⟩ :: u.routines.flatMap Routine.extents ++
    ⟨"string pool", u.pool.length⟩ :: u.pool.map fun s => ⟨"string byte", s.utf8ByteSize⟩

/-- The encoded form of a unit whose lengths all fit. -/
def CodeUnit.bytes (u : CodeUnit) : List UInt8 :=
  let pool := u.pool
  magic ++ wordBytes formatVersion ++ countBytes pool.length ++
    pool.flatMap (fun s => countBytes s.utf8ByteSize ++ textBytes s) ++
    u.bodyBytes fun s => (pool.idxOf s).toUInt32

end Registrar
