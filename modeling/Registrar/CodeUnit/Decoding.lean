import Registrar.CodeUnit.Encoding

/-! Reading a code unit from its encoded form. The whole input has to be used up; what is refused
is refused at the first byte that cannot be part of a unit. -/
namespace Registrar

/-- A reader takes bytes from the front of what is left. -/
abbrev Reader := StateT (List UInt8) (Except FormatError)

namespace Reader

def fail {α : Type} (e : FormatError) : Reader α := fun _ => .error e

def byte : Reader UInt8
  | [] => .error .endOfData
  | b :: rest => .ok (b, rest)

def half : Reader UInt16
  | a :: b :: rest => .ok (a.toUInt16 ||| b.toUInt16 <<< 8, rest)
  | _ => .error .endOfData

def word : Reader UInt32
  | a :: b :: c :: d :: rest =>
    .ok (a.toUInt32 ||| b.toUInt32 <<< 8 ||| c.toUInt32 <<< 16 ||| d.toUInt32 <<< 24, rest)
  | _ => .error .endOfData

/-- Reads the same thing a number of times. -/
def times {α : Type} (r : Reader α) : Nat → Reader (List α)
  | 0 => pure []
  | n + 1 => do
    let a ← r
    let as ← times r n
    return a :: as

/-- A list stands behind its length. -/
def counted {α : Type} (r : Reader α) : Reader (List α) := do
  let n ← word
  times r n.toNat

end Reader

open Reader

/-- The first bytes of a list and the rest, if there are that many. -/
def takeExactly {α : Type} : Nat → List α → Option (List α × List α)
  | 0, rest => some ([], rest)
  | _ + 1, [] => none
  | n + 1, a :: rest => (takeExactly n rest).map fun (front, rest) => (a :: front, rest)

/-- A pooled string: its length in bytes, and the bytes, which have to be UTF-8. -/
def readText : Reader String := do
  let len ← word
  fun left =>
    match takeExactly len.toNat left with
    | none => .error (.lengthOutOfBounds len left.length)
    | some (front, rest) =>
      match String.fromUTF8? ⟨front.toArray⟩ with
      | some s => .ok (s, rest)
      | none => .error .invalidText

def readValue : Reader ValueId := ValueId.mk <$> word

/-- Zero means absent, and any other byte that a value follows. -/
def readOptionalValue : Reader (Option ValueId) := do
  if (← byte) = 0 then return none else return some (← readValue)

def readInvokeKind : Reader InvokeKind := do
  match ← byte with
  | 0 => return .static
  | 1 => return .virtual
  | 2 => return .interface
  | k => fail (.invalidInvokeKind k)

section

variable (pool : Array String)

/-- A place in the pool stands for the string there. -/
def readString : Reader String := do
  let place ← word
  match pool[place.toNat]? with
  | some s => return s
  | none => fail (.invalidStringIndex place)

def readMethod : Reader MethodRef := do
  let owner ← readString pool
  let name ← readString pool
  let params ← counted (readString pool)
  let returns ← readString pool
  return { owner, name, params, returns }

/-- Reads one instruction whose blocks are nested at most `depth` levels. -/
def readInstruction : (depth : Nat) → Reader Instruction
  | 0 => fail .endOfData
  | depth + 1 => do
    let block := counted (readInstruction depth)
    match ← byte with
    | 0x01 => return .const (← readValue) .null
    | 0x02 => return .const (← readValue) (.bool ((← byte) != 0))
    | 0x03 => return .const (← readValue) (.int (← word).toInt32)
    | 0x04 => return .const (← readValue) (.str (← readString pool))
    | 0x05 => return .loadClass (← readValue) (← readString pool)
    | 0x06 => return .param (← readValue) (← half)
    | 0x07 =>
      return .invoke (← readValue) (← readInvokeKind) (← readMethod pool) (← readOptionalValue)
        (← counted readValue)
    | 0x08 => return .newInstance (← readValue) (← readString pool)
    | 0x09 => return .newArray (← readValue) (← readString pool) (← word)
    | 0x0A => return .store (← readValue) (← word) (← readValue)
    | 0x0B => return .declare (← readValue) (← readString pool)
    | 0x0C => return .assign (← readValue) (← readValue)
    | 0x0D => return .branch (← readValue) (← block) (← block)
    | 0x0E => return .isolate (← block) (← readString pool) (← readValue) (← block)
    | 0x0F => return .leave (← readOptionalValue)
    | op => fail (.invalidOpcode op)

def readRoutine (depth : Nat) : Reader Routine := do
  let name ← readString pool
  let modifiers ← Modifiers.ofBits <$> half
  let params ← counted (readString pool)
  let returns ← readString pool
  let valueCount ← word
  let body ← counted (readInstruction pool depth)
  return { name, modifiers, params, returns, valueCount, body }

def readBody (depth : Nat) : Reader CodeUnit := do
  let name ← readString pool
  let superClass ← readString pool
  let interfaces ← counted (readString pool)
  let annotations ← counted (readString pool)
  let routines ← counted (readRoutine pool depth)
  return { name, superClass, interfaces, annotations, routines }

end

/-- The magic bytes are compared only when all four of them are there. -/
def readMagic : Reader Unit := do
  let front := [← byte, ← byte, ← byte, ← byte]
  if front ≠ magic then fail .invalidMagic

def readVersion : Reader Unit := do
  let version ← word
  if version ≠ formatVersion then fail (.unsupportedVersion version)

def readUnit (depth : Nat) : Reader CodeUnit := do
  readMagic
  readVersion
  let pool ← counted readText
  readBody pool.toArray depth

/-- Decodes a unit. Each level of nesting takes a byte, so the number of bytes bounds the depth. -/
def CodeUnit.decode (bytes : List UInt8) : Except FormatError CodeUnit :=
  match readUnit (bytes.length + 1) bytes with
  | .error e => .error e
  | .ok (u, []) => .ok u
  | .ok (_, left) => .error (.trailingData left.length)

end Registrar
