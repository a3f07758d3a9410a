import Registrar.Text.Extender
import Registrar.Text.Unprintable

/-! Text between double quotes, as listings and fault texts show it. What a reader could not see
or could mistake for part of a neighbour is written as an escape. -/
namespace Registrar.Text

/-- A code point in lowercase hexadecimal digits, without padding. -/
def hexDigits (n : Nat) : List Char := Nat.toDigits 16 n

/-- The five short escapes come first; marks that attach to the character before them and
characters without a picture are written by their code point. -/
def quoteChar (c : Char) : List Char :=
  if c = '\x00' then ['\\', '0']
  else if c = '\t' then ['\\', 't']
  else if c = '\r' then ['\\', 'r']
  else if c = '\n' then ['\\', 'n']
  else if c = '"' ∨ c = '\\' then ['\\', c]
  else if isExtender c || isUnprintable c then
    ['\\', 'u', '\x7b'] ++ hexDigits c.toNat ++ ['\x7d']
  else [c]

def quoteChars (cs : List Char) : List Char := '"' :: cs.flatMap quoteChar ++ ['"']

/-- The text in double quotes. -/
def quote (s : String) : String := String.ofList (quoteChars s.toList)

@[simp] theorem quoteChars_nil : quoteChars [] = ['"', '"'] := rfl

end Registrar.Text
