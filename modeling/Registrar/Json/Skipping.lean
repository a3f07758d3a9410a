import Registrar.Json.Literal

/-! The values of unknown members. They may be nested to any depth and have to be well formed, but
nothing of them is kept. -/
namespace Registrar.Json

/-- What encloses the place that is read. -/
inductive Frame where
  | list
  | object
  deriving DecidableEq

def Frame.closing : Frame → Char
  | list => ']'
  | object => '\x7d'

/-- The key of a member and the colon behind it. -/
def skipKey (cs : List Char) : Except Fault (List Char) :=
  match skipBlanks cs with
  | '"' :: cs => do
    let cs ← skipString cs
    match skipBlanks cs with
    | ':' :: cs => .ok cs
    | [] => .error .truncated
    | _ => .error .malformed
  | [] => .error .truncated
  | _ => .error .malformed

/-- An item follows at once in a list, and behind a key in an object. -/
def Frame.enter (frame : Frame) (cs : List Char) : Except Fault (List Char) :=
  match frame with
  | list => .ok cs
  | object => skipKey cs

/-- Any value that has no parts. -/
def skipScalar : List Char → Except Fault (List Char)
  | 'n' :: cs => expectWord ['u', 'l', 'l'] cs
  | 't' :: cs => expectWord ['r', 'u', 'e'] cs
  | 'f' :: cs => expectWord ['a', 'l', 's', 'e'] cs
  | '"' :: cs => skipString cs
  | '-' :: cs => (Numeral.read .malformed cs).map (·.2)
  | [] => .error .truncated
  | c :: cs =>
    if c.isDigit then (Numeral.read .malformed (c :: cs)).map (·.2) else .error .malformed

mutual

/-- Skips a value and all that encloses it, innermost frame first. -/
def skipWithin (frames : List Frame) : (fuel : Nat) → List Char → Except Fault (List Char)
  | 0, _ => .error .truncated
  | fuel + 1, cs =>
    match skipBlanks cs with
    | '[' :: cs => skipOpened .list frames fuel cs
    | '\x7b' :: cs => skipOpened .object frames fuel cs
    | cs => do
      let cs ← skipScalar cs
      skipRest frames fuel cs

/-- Behind an opening bracket: the closing one or the first item. -/
def skipOpened (frame : Frame) (frames : List Frame) :
    (fuel : Nat) → List Char → Except Fault (List Char)
  | 0, _ => .error .truncated
  | fuel + 1, cs =>
    match skipBlanks cs with
    | [] => .error .truncated
    | c :: cs =>
      if c = frame.closing then skipRest frames fuel cs
      else do
        let cs ← frame.enter (c :: cs)
        skipWithin (frame :: frames) fuel cs

/-- Behind an item: a comma and the next one, or the closing bracket. -/
def skipRest : List Frame → (fuel : Nat) → List Char → Except Fault (List Char)
  | [], _, cs => .ok cs
  | _, 0, _ => .error .truncated
  | frame :: frames, fuel + 1, cs =>
    match skipBlanks cs with
    | [] => .error .truncated
    | c :: cs =>
      if c = ',' then do
        let cs ← frame.enter cs
        skipWithin (frame :: frames) fuel cs
      else if c = frame.closing then skipRest frames fuel cs
      else .error .malformed

end

/-- Skips one value. Each step but one for each scalar takes a character, so that twice their
number of steps is enough. -/
def skipValue (cs : List Char) : Except Fault (List Char) := skipWithin [] (2 * cs.length + 2) cs

end Registrar.Json
