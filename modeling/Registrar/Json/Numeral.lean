import Registrar.Json.Fault

/-! Numbers in JSON text. No value holds one, but where one stands in the place of something else it
is read to its end, and one that no double can hold makes the text malformed. -/
namespace Registrar.Json

/-- The digits before and after the point, and the exponent. -/
structure Numeral where
  whole : List Char
  fraction : List Char
  exponent : Int
  deriving DecidableEq

namespace Numeral

def digitValue (c : Char) : Nat := c.toNat - '0'.toNat

/-- The digits at the front, and what follows them. -/
def span (cs : List Char) : List Char × List Char :=
  (cs.takeWhile Char.isDigit, cs.dropWhile Char.isDigit)

/-- At least one digit; `atEnd` is the fault of a text that ends instead. -/
def someDigits (atEnd : Fault) (cs : List Char) : Except Fault (List Char × List Char) :=
  match cs, span cs with
  | [], _ => .error atEnd
  | _, ([], _) => .error .malformed
  | _, digits => .ok digits

/-- A zero is not followed by another digit. -/
def readWhole (atEnd : Fault) (cs : List Char) : Except Fault (List Char × List Char) :=
  match someDigits atEnd cs with
  | .ok ('0' :: _ :: _, _) => .error .malformed
  | result => result

def readFraction (atEnd : Fault) : List Char → Except Fault (List Char × List Char)
  | '.' :: cs => someDigits atEnd cs
  | cs => .ok ([], cs)

def value (digits : List Char) : Nat := digits.foldl (fun n c => 10 * n + digitValue c) 0

def readExponent (atEnd : Fault) : List Char → Except Fault (Int × List Char)
  | c :: cs =>
    if c = 'e' ∨ c = 'E' then
      match cs with
      | '-' :: cs => (someDigits atEnd cs).map fun (ds, rest) => (-(value ds : Int), rest)
      | '+' :: cs => (someDigits atEnd cs).map fun (ds, rest) => ((value ds : Int), rest)
      | cs => (someDigits atEnd cs).map fun (ds, rest) => ((value ds : Int), rest)
    else .ok (0, c :: cs)
  | [] => .ok (0, [])

/-- A number without its sign. -/
def read (atEnd : Fault) (cs : List Char) : Except Fault (Numeral × List Char) := do
  let (whole, cs) ← readWhole atEnd cs
  let (fraction, cs) ← readFraction atEnd cs
  let (exponent, cs) ← readExponent atEnd cs
  return (⟨whole, fraction, exponent⟩, cs)

/-- Appends digits to a significand while it fits 64 bits, and counts them. -/
def absorb (significand : Nat) : List Char → Nat × Nat
  | [] => (significand, 0)
  | c :: cs =>
    let next := 10 * significand + digitValue c
    if next < UInt64.size then
      let (s, n) := absorb next cs
      (s, n + 1)
    else (significand, 0)

/-- The double nearest to a natural number, the even one of two. -/
def roundToDouble (n : Nat) : Nat :=
  let unit := Nat.pow 2 (n.log2 - 52)
  let q := n / unit
  let r := n % unit
  (if unit < 2 * r ∨ (2 * r = unit ∧ q % 2 = 1) then q + 1 else q) * unit

/-- The least number that is nearer to infinity than to any double. -/
def doubleLimit : Nat := Nat.pow 2 1024 - Nat.pow 2 970

/-- The number is a double. At most 64 bits of its digits are looked at, and the power of ten is
rounded before it is multiplied with them. -/
def inRange (n : Numeral) : Bool :=
  let (s, taken) := absorb 0 n.whole
  let (significand, fractionTaken) := absorb s n.fraction
  let exponent := (n.whole.length - taken : Nat) - (fractionTaken : Int) + n.exponent
  if significand = 0 ∨ exponent < 0 then true
  else if 308 < exponent then false
  else roundToDouble significand * roundToDouble (Nat.pow 10 exponent.toNat) < doubleLimit

end Numeral

/-- Reads a number that is in the wrong place; what is left of the text is of no interest. -/
def numeralFault (cs : List Char) : Fault :=
  match Numeral.read .truncated cs with
  | .error fault => fault
  | .ok (n, _) => if n.inRange then .mismatched else .malformed

end Registrar.Json
