import Registrar.Json.Basic
import Registrar.Text.Quoted

/-! JSON text: over several lines, with two spaces for each level. -/
namespace Registrar.Json

def unicodeEscape (n : Nat) : List Char :=
  let digits := Text.hexDigits n
  ['\\', 'u'] ++ List.replicate (4 - digits.length) '0' ++ digits

/-- Quotes, backslashes and control characters are escaped, by a letter where there is one. -/
def escape (c : Char) : List Char :=
  if c = '"' ∨ c = '\\' then ['\\', c]
  else if c = '\x08' then ['\\', 'b']
  else if c = '\t' then ['\\', 't']
  else if c = '\n' then ['\\', 'n']
  else if c = '\x0c' then ['\\', 'f']
  else if c = '\r' then ['\\', 'r']
  else if c.toNat < 0x20 then unicodeEscape c.toNat
  else [c]

def quoted (s : String) : List Char := '"' :: s.toList.flatMap escape ++ ['"']

/-- A line break and the indentation of a line. -/
def lineStart (depth : Nat) : List Char := '\n' :: List.replicate (2 * depth) ' '

mutual

/-- A value whose own line is indented to a depth; empty lists and objects stay on one line. -/
def print (depth : Nat) : Json → List Char
  | null => ['n', 'u', 'l', 'l']
  | flag true => ['t', 'r', 'u', 'e']
  | flag false => ['f', 'a', 'l', 's', 'e']
  | text s => quoted s
  | list [] => ['[', ']']
  | list (item :: items) =>
    '[' :: lineStart (depth + 1) ++ print (depth + 1) item ++ printItems (depth + 1) items ++
      lineStart depth ++ [']']
  | object [] => ['\x7b', '\x7d']
  | object ((key, value) :: members) =>
    '\x7b' :: lineStart (depth + 1) ++ quoted key ++ ':' :: ' ' :: print (depth + 1) value ++
      printMembers (depth + 1) members ++ lineStart depth ++ ['\x7d']

/-- The items behind the first one. -/
def printItems (depth : Nat) : List Json → List Char
  | [] => []
  | item :: items => ',' :: lineStart depth ++ print depth item ++ printItems depth items

/-- The members behind the first one. -/
def printMembers (depth : Nat) : List (String × Json) → List Char
  | [] => []
  | (key, value) :: members =>
    ',' :: lineStart depth ++ quoted key ++ ':' :: ' ' :: print depth value ++
      printMembers depth members

end

/-- The text of a value. -/
def pretty (j : Json) : String := String.ofList (j.print 0)

end Registrar.Json
