/-! Patterns for file names. A star stands for any characters, a question mark for one, and brackets
for one of several; two stars in the place of a name stand for any directories. -/
namespace Registrar.Glob

inductive Token where
  | char (c : Char)
  | any
  /-- Any number of characters. -/
  | run
  | oneOf (ranges : List (Char × Char))
  | noneOf (ranges : List (Char × Char))
  deriving DecidableEq

/-- What stands between two slashes of a pattern. -/
inductive Part where
  /-- Any number of directories, one in the other. -/
  | deep
  | name (tokens : List Token)
  deriving DecidableEq

/-- The characters between brackets; a dash between two of them makes a range. -/
def ranges : List Char → List (Char × Char)
  | a :: '-' :: b :: cs => (a, b) :: ranges cs
  | c :: cs => (c, c) :: ranges cs
  | [] => []

/-- Brackets that are open: whether they exclude, and their reversed characters so far. -/
structure Brackets where
  excluding : Bool
  members : List Char

def Brackets.close (b : Brackets) : Token :=
  let rs := ranges b.members.reverse
  if b.excluding then .noneOf rs else .oneOf rs

/-- The tokens of a name. Brackets have to be closed and are never empty, so that a closing one in
front is a member; two stars cannot be a part of a name. -/
def tokens? : Option Brackets → List Char → Option (List Token)
  | none, [] => some []
  | some _, [] => none
  | some b, c :: cs =>
    if c = ']' ∧ b.members ≠ [] then (tokens? none cs).map (b.close :: ·)
    else tokens? (some { b with members := c :: b.members }) cs
  | none, '?' :: cs => (tokens? none cs).map (.any :: ·)
  | none, '*' :: '*' :: _ => none
  | none, '*' :: cs => (tokens? none cs).map (.run :: ·)
  | none, '[' :: '!' :: cs => tokens? (some ⟨true, []⟩) cs
  | none, '[' :: cs => tokens? (some ⟨false, []⟩) cs
  | none, c :: cs => (tokens? none cs).map (.char c :: ·)

namespace Part

def read? (cs : List Char) : Option Part :=
  if cs = ['*', '*'] then some .deep else (tokens? none cs).map .name

/-- The only name that fits, where a part is one without wildcards. -/
def literal? : Part → Option (List Char)
  | deep => none
  | name tokens => tokens.mapM fun
    | .char c => some c
    | _ => none

end Part

namespace Token

def within (rs : List (Char × Char)) (c : Char) : Bool := rs.any fun r => r.1 ≤ c && c ≤ r.2

/-- Whether a token that stands for one character stands for this one. -/
def admits : Token → Char → Bool
  | char d, c => c == d
  | any, _ => true
  | run, _ => false
  | oneOf rs, c => within rs c
  | noneOf rs, c => !within rs c

end Token

/-- Whether a token stands for a text together with others, and then for each end of the text, where
it is known for which of these ends the others stand. -/
def Token.before (t : Token) : List Char → List Bool → List Bool
  | c :: cs, b :: bs =>
    let later := t.before cs bs
    (if t = run then b || later.headD false else t.admits c && bs.headD false) :: later
  | _, bs => if t = run then bs else [false]

/-- Whether the tokens stand for the text, then for the text without its first character, and so on
down to the empty text. Each token takes one pass over these ends. -/
def fitsEnds : List Token → List Char → List Bool
  | [], cs => cs.map (fun _ => false) ++ [true]
  | t :: ts, cs => t.before cs (fitsEnds ts cs)

/-- The tokens stand for the whole text. -/
def fits (ts : List Token) (cs : List Char) : Bool := (fitsEnds ts cs).headD false

end Registrar.Glob
