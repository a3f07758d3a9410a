import Registrar.Json.Numeral

/-! The pieces of JSON text that have no parts: blanks, words and strings. -/
namespace Registrar.Json

def isBlank (c : Char) : Bool := c == ' ' || c == '\n' || c == '\t' || c == '\r'

def skipBlanks (cs : List Char) : List Char := cs.dropWhile isBlank

/-- Reads the rest of a word whose first letter has been seen. -/
def expectWord : List Char → List Char → Except Fault (List Char)
  | [], cs => .ok cs
  | _ :: _, [] => .error .truncated
  | w :: word, c :: cs => if c = w then expectWord word cs else .error .malformed

def hexValue? (c : Char) : Option Nat :=
  if c.isDigit then some (c.toNat - '0'.toNat)
  else if 'a' ≤ c ∧ c ≤ 'f' then some (c.toNat - 'a'.toNat + 10)
  else if 'A' ≤ c ∧ c ≤ 'F' then some (c.toNat - 'A'.toNat + 10)
  else none

/-- Four hexadecimal digits. The text counts as too short by its bytes. -/
def readHex : List Char → Except Fault (Nat × List Char)
  | a :: b :: c :: d :: rest =>
    match hexValue? a, hexValue? b, hexValue? c, hexValue? d with
    | some a, some b, some c, some d => .ok (((a * 16 + b) * 16 + c) * 16 + d, rest)
    | _, _, _, _ => .error .malformed
  | cs => .error (if (String.ofList cs).utf8ByteSize < 4 then .truncated else .malformed)

def isHighSurrogate (n : Nat) : Bool := 0xD800 ≤ n && n ≤ 0xDBFF
def isLowSurrogate (n : Nat) : Bool := 0xDC00 ≤ n && n ≤ 0xDFFF

/-- The character of a short escape. -/
def shortEscape? : Char → Option Char
  | '"' => some '"'
  | '\\' => some '\\'
  | '/' => some '/'
  | 'b' => some '\x08'
  | 'f' => some '\x0c'
  | 'n' => some '\n'
  | 'r' => some '\r'
  | 't' => some '\t'
  | _ => none

/-- The second half of a pair of surrogates. -/
def readLowSurrogate : List Char → Except Fault (Nat × List Char)
  | '\\' :: 'u' :: cs =>
    match readHex cs with
    | .ok (n, rest) => if isLowSurrogate n then .ok (n, rest) else .error .malformed
    | .error fault => .error fault
  | [] => .error .truncated
  | ['\\'] => .error .truncated
  | _ => .error .malformed

/-- What stands behind a backslash; surrogates have to come in pairs. -/
def readEscape : List Char → Except Fault (Char × List Char)
  | [] => .error .truncated
  | 'u' :: cs => do
    let (n, cs) ← readHex cs
    if isLowSurrogate n then .error .malformed
    else if isHighSurrogate n then
      let (m, cs) ← readLowSurrogate cs
      return (Char.ofNat (0x10000 + (n - 0xD800) * 0x400 + (m - 0xDC00)), cs)
    else return (Char.ofNat n, cs)
  | c :: cs =>
    match shortEscape? c with
    | some c => .ok (c, cs)
    | none => .error .malformed

/-- What stands behind a backslash in a string that is not kept; any code unit is taken. -/
def skipEscape : List Char → Except Fault (List Char)
  | [] => .error .truncated
  | 'u' :: cs => (readHex cs).map (·.2)
  | c :: cs => if (shortEscape? c).isSome then .ok cs else .error .malformed

/-- The rest of a string behind its opening quote, put behind the reversed start. -/
def readChars (start : List Char) : (fuel : Nat) → List Char → Except Fault (String × List Char)
  | 0, _ => .error .truncated
  | _ + 1, [] => .error .truncated
  | _ + 1, '"' :: cs => .ok (String.ofList start.reverse, cs)
  | fuel + 1, '\\' :: cs => do
    let (c, cs) ← readEscape cs
    readChars (c :: start) fuel cs
  | fuel + 1, c :: cs =>
    if c.toNat < 0x20 then .error .malformed else readChars (c :: start) fuel cs

/-- A string whose opening quote has been read. -/
def readString (cs : List Char) : Except Fault (String × List Char) :=
  readChars [] (cs.length + 1) cs

def skipChars : (fuel : Nat) → List Char → Except Fault (List Char)
  | 0, _ => .error .truncated
  | _ + 1, [] => .error .truncated
  | _ + 1, '"' :: cs => .ok cs
  | fuel + 1, '\\' :: cs => do
    let cs ← skipEscape cs
    skipChars fuel cs
  | fuel + 1, c :: cs => if c.toNat < 0x20 then .error .malformed else skipChars fuel cs

/-- A string that is not kept, behind its opening quote. -/
def skipString (cs : List Char) : Except Fault (List Char) := skipChars (cs.length + 1) cs

end Registrar.Json
