import Registrar.Text.Quoted

/-! What can be wrong with the encoded form of a code unit. -/
namespace Registrar

inductive FormatError where
  | invalidMagic
  | unsupportedVersion (version : UInt32)
  | endOfData
  | invalidOpcode (opcode : UInt8)
  | invalidInvokeKind (kind : UInt8)
  | invalidStringIndex (index : UInt32)
  | invalidText
  | tooLarge (what : String) (count : Nat)
  | lengthOutOfBounds (length : UInt32) (remaining : Nat)
  | trailingData (count : Nat)
  deriving DecidableEq

namespace FormatError

/-- An opcode in two hexadecimal digits. -/
def opcodeText (opcode : UInt8) : String :=
  let digits := Text.hexDigits opcode.toNat
  "0x" ++ String.ofList (if opcode < 16 then '0' :: digits else digits)

def message : FormatError → String
  | invalidMagic => "invalid magic number"
  | unsupportedVersion v => s!"unsupported version: {v.toNat}"
  | endOfData => "unexpected end of data"
  | invalidOpcode op => s!"invalid opcode: {opcodeText op}"
  | invalidInvokeKind k => s!"invalid invoke kind: {k.toNat}"
  | invalidStringIndex i => s!"string index {i.toNat} out of range"
  | invalidText => "invalid UTF-8 string"
  | tooLarge what count => s!"{what} count {count} does not fit the format"
  | lengthOutOfBounds len remaining =>
    s!"length {len.toNat} exceeds the {remaining} bytes remaining"
  | trailingData n => s!"{n} unexpected bytes after the last routine"

end FormatError
end Registrar
