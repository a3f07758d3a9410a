import Registrar.Json.Basic
import Registrar.Json.Skipping

/-! Reading JSON text as a value of an expected shape. The text is read from front to back, and the
first fault decides, whether the text is not JSON there or is JSON for something else. -/
namespace Registrar.Json

/-- A member of a record: its key, what it is where it is left out, and what is known of it. -/
structure Member (α : Type) where
  key : String
  preset : Json
  content : α

inductive Shape where
  | text
  | flag
  /-- A text or null. -/
  | optionalText
  /-- One of several names. -/
  | choice (names : List String)
  | list (item : Shape)
  /-- Members that may all be left out. Others are skipped. -/
  | record (members : List (Member Shape))

/-- Reads a value from the front of a text. -/
abbrev Scan := List Char → Except Fault (Json × List Char)

/-- The fault of a text that does not start with what is expected there. Numbers, words and strings
are read to their end first. -/
def mismatch : List Char → Fault
  | [] => .truncated
  | '[' :: _ => .mismatched
  | '\x7b' :: _ => .mismatched
  | 'n' :: cs => wordFault ['u', 'l', 'l'] cs
  | 't' :: cs => wordFault ['r', 'u', 'e'] cs
  | 'f' :: cs => wordFault ['a', 'l', 's', 'e'] cs
  | '-' :: cs => numeralFault cs
  | '"' :: cs =>
    match readString cs with
    | .error fault => fault
    | .ok _ => .mismatched
  | c :: cs => if c.isDigit then numeralFault (c :: cs) else .malformed
where
  wordFault (word cs : List Char) : Fault :=
    match expectWord word cs with
    | .error fault => fault
    | .ok _ => .mismatched

/-- A text, with its quotes. -/
def scanString (cs : List Char) : Except Fault (String × List Char) :=
  match skipBlanks cs with
  | '"' :: cs => readString cs
  | cs => .error (mismatch cs)

def scanText : Scan := fun cs => (scanString cs).map fun (s, cs) => (.text s, cs)

def scanFlag : Scan := fun cs =>
  match skipBlanks cs with
  | 't' :: cs => (expectWord ['r', 'u', 'e'] cs).map fun cs => (.flag true, cs)
  | 'f' :: cs => (expectWord ['a', 'l', 's', 'e'] cs).map fun cs => (.flag false, cs)
  | cs => .error (mismatch cs)

def scanNull : Scan := fun cs =>
  match skipBlanks cs with
  | 'n' :: cs => (expectWord ['u', 'l', 'l'] cs).map fun cs => (.null, cs)
  | cs => .error (mismatch cs)

def scanOptionalText : Scan := fun cs =>
  match skipBlanks cs with
  | 'n' :: cs => scanNull ('n' :: cs)
  | cs => scanText cs

/-- The colon behind a key. -/
def expectColon (cs : List Char) : Except Fault (List Char) :=
  match skipBlanks cs with
  | ':' :: cs => .ok cs
  | [] => .error .truncated
  | _ => .error .malformed

def scanName (names : List String) (cs : List Char) : Except Fault (String × List Char) := do
  let (s, cs) ← scanString cs
  if names.contains s then return (s, cs) else .error .mismatched

/-- A name stands alone, or it is the key of an object whose only value is null. -/
def scanChoice (names : List String) : Scan := fun cs =>
  match skipBlanks cs with
  | '"' :: cs => (scanName names ('"' :: cs)).map fun (s, cs) => (.text s, cs)
  | '\x7b' :: cs =>
    match skipBlanks cs with
    | '"' :: cs => do
      let (s, cs) ← scanName names ('"' :: cs)
      let cs ← expectColon cs
      let (_, cs) ← scanNull cs
      match skipBlanks cs with
      | '\x7d' :: cs => .ok (.text s, cs)
      | [] => .error .truncated
      | _ => .error .malformed
    | [] => .error .truncated
    | _ => .error .malformed
  | [] => .error .truncated
  | _ => .error .malformed

/-- The start of the next item of a list, if there is one; the closing bracket is left. -/
def nextItem (first : Bool) (cs : List Char) : Except Fault (Option (List Char)) :=
  match skipBlanks cs with
  | [] => .error .truncated
  | ']' :: _ => .ok none
  | c :: cs =>
    if first then .ok (some (c :: cs))
    else if c = ',' then
      match skipBlanks cs with
      | [] => .error .truncated
      | ']' :: _ => .error .malformed
      | cs => .ok (some cs)
    else .error .malformed

def closeList (cs : List Char) : Except Fault (List Char) :=
  match skipBlanks cs with
  | ']' :: cs => .ok cs
  | [] => .error .truncated
  | _ => .error .malformed

def scanItems (item : Scan) (first : Bool) :
    (fuel : Nat) → List Char → Except Fault (List Json × List Char)
  | 0, _ => .error .truncated
  | fuel + 1, cs => do
    match ← nextItem first cs with
    | none => return ([], cs)
    | some cs =>
      let (j, cs) ← item cs
      let (js, cs) ← scanItems item false fuel cs
      return (j :: js, cs)

def scanList (item : Scan) : Scan := fun cs =>
  match skipBlanks cs with
  | '[' :: cs => do
    let (js, cs) ← scanItems item true (cs.length + 1) cs
    let cs ← closeList cs
    return (.list js, cs)
  | cs => .error (mismatch cs)

/-- The members of a record that is written as a list, in their fixed order; it may end early. -/
def scanPositions (first : Bool) :
    List (Member Scan) → List Char → Except Fault (List (String × Json) × List Char)
  | [], cs => .ok ([], cs)
  | m :: members, cs => do
    match ← nextItem first cs with
    | none => return ([], cs)
    | some cs =>
      let (j, cs) ← m.content cs
      let (js, cs) ← scanPositions false members cs
      return ((m.key, j) :: js, cs)

/-- The text behind the opening quote of the next key, if there is one. -/
def nextKey (first : Bool) (cs : List Char) : Except Fault (Option (List Char)) :=
  match skipBlanks cs with
  | [] => .error .truncated
  | '\x7d' :: _ => .ok none
  | c :: cs =>
    if first then if c = '"' then .ok (some cs) else .error .malformed
    else if c = ',' then
      match skipBlanks cs with
      | '"' :: cs => .ok (some cs)
      | [] => .error .truncated
      | _ => .error .malformed
    else .error .malformed

/-- The members of an object. A known key that comes again is refused before its value is read. -/
def scanMembers (members : List (Member Scan)) (first : Bool) (seen : List (String × Json)) :
    (fuel : Nat) → List Char → Except Fault (List (String × Json) × List Char)
  | 0, _ => .error .truncated
  | fuel + 1, cs => do
    match ← nextKey first cs with
    | none => return (seen.reverse, cs)
    | some cs =>
      let (key, cs) ← readString cs
      match members.find? (·.key == key) with
      | some m =>
        if seen.any (·.1 == key) then .error .mismatched
        else
          let cs ← expectColon cs
          let (j, cs) ← m.content cs
          scanMembers members false ((key, j) :: seen) fuel cs
      | none =>
        let cs ← expectColon cs
        let cs ← skipValue cs
        scanMembers members false seen fuel cs

def closeObject (cs : List Char) : Except Fault (List Char) :=
  match skipBlanks cs with
  | '\x7d' :: cs => .ok cs
  | [] => .error .truncated
  | _ => .error .malformed

/-- All members of a record, in their order; those that are not given are left at their presets. -/
def fill {α : Type} (members : List (Member α)) (given : List (String × Json)) : Json :=
  .object (members.map fun m => (m.key, (given.lookup m.key).getD m.preset))

def scanRecord (members : List (Member Scan)) : Scan := fun cs =>
  match skipBlanks cs with
  | '[' :: cs => do
    let (js, cs) ← scanPositions true members cs
    let cs ← closeList cs
    return (fill members js, cs)
  | '\x7b' :: cs => do
    let (js, cs) ← scanMembers members true [] (cs.length + 1) cs
    let cs ← closeObject cs
    return (fill members js, cs)
  | cs => .error (mismatch cs)

mutual

/-- Reads a value of this shape from the front of a text. -/
def Shape.scan : Shape → Scan
  | .text => scanText
  | .flag => scanFlag
  | .optionalText => scanOptionalText
  | .choice names => scanChoice names
  | .list item => scanList item.scan
  | .record members => scanRecord (Shape.scans members)

def Shape.scans : List (Member Shape) → List (Member Scan)
  | [] => []
  | ⟨key, preset, shape⟩ :: members => ⟨key, preset, shape.scan⟩ :: Shape.scans members

end

/-- Reads a whole text as a value of this shape; only blanks may follow it. -/
def Shape.read (shape : Shape) (text : String) : Except Fault Json := do
  let (j, rest) ← shape.scan text.toList
  if (skipBlanks rest).isEmpty then return j else .error .malformed

end Registrar.Json
