import Registrar.Text.Letter
import Registrar.Text.Numeral

/-! Patterns for text, and whether one is found in a text. -/
namespace Registrar.Text

/-- What may stand between the brackets of a character class. -/
inductive ClassItem where
  /-- The general category L. -/
  | letter
  /-- The general category N. -/
  | numeral
  | char (c : Char)
  deriving DecidableEq

namespace ClassItem

def holds : ClassItem → Char → Bool
  | letter, c => isLetter c
  | numeral, c => isNumeral c
  | char d, c => c == d

def text : ClassItem → String
  | letter => "\\p\x7bL\x7d"
  | numeral => "\\p\x7bN\x7d"
  | char c => c.toString

end ClassItem

inductive Pattern where
  /-- The start of the text. -/
  | start
  /-- The end of the text. -/
  | stop
  | char (c : Char)
  | oneOf (items : List ClassItem)
  | seq (p q : Pattern)
  | alt (p q : Pattern)
  /-- Any number of times. -/
  | many (p : Pattern)
  /-- At least once. -/
  | some (p : Pattern)
  /-- Brackets that capture nothing. -/
  | group (p : Pattern)

/-- A place in a text: whether it is the start, and what stands behind it. -/
structure Place where
  atStart : Bool
  rest : List Char

namespace Place

/-- The start of a text. -/
def first (cs : List Char) : Place := ⟨true, cs⟩

/-- The place behind a character. -/
def step (good : Char → Bool) : Place → List Place
  | ⟨_, c :: cs⟩ => if good c then [⟨false, cs⟩] else []
  | ⟨_, []⟩ => []

/-- All places from here to the end. -/
def onwards (atStart : Bool) : List Char → List Place
  | [] => [⟨atStart, []⟩]
  | c :: cs => ⟨atStart, c :: cs⟩ :: onwards false cs

end Place

/-- The places that are reached by going on any number of times. A turn that comes to the same place
again leads nowhere new, so that no more turns are needed than there are characters left. -/
def repeated (next : Place → List Place) : (turns : Nat) → Place → List Place
  | 0, here => [here]
  | turns + 1, here =>
    let further := (next here).filter (·.rest.length < here.rest.length)
    here :: further.flatMap (repeated next turns)

namespace Pattern

instance : Append Pattern := ⟨seq⟩

/-- A character as it is written where it stands for itself. -/
def literal (c : Char) : String :=
  if ['.', '[', ']'].contains c then s!"\\{c}" else c.toString

/-- The pattern as it is written. -/
def text : Pattern → String
  | start => "^"
  | stop => "$"
  | char c => literal c
  | oneOf items => "[" ++ String.join (items.map ClassItem.text) ++ "]"
  | seq p q => p.text ++ q.text
  | alt p q => p.text ++ "|" ++ q.text
  | many p => p.text ++ "*"
  | some p => p.text ++ "+"
  | group p => "(?:" ++ p.text ++ ")"

/-- Where a match that starts at a place can end. -/
def ends : Pattern → Place → List Place
  | start, here => if here.atStart then [here] else []
  | stop, here => if here.rest.isEmpty then [here] else []
  | char c, here => here.step (· == c)
  | oneOf items, here => here.step fun c => items.any (·.holds c)
  | seq p q, here => (p.ends here).flatMap q.ends
  | alt p q, here => p.ends here ++ q.ends here
  | many p, here => repeated p.ends here.rest.length here
  | some p, here => (p.ends here).flatMap fun next => repeated p.ends next.rest.length next
  | group p, here => p.ends here

end Pattern

/-- Something that searches texts for patterns. -/
structure Matcher where
  isMatch : Pattern → String → Bool

/-- A search that follows all matches from all places of the text. -/
def Matcher.standard : Matcher where
  isMatch p s := (Place.onwards true s.toList).any fun here => !(p.ends here).isEmpty

end Registrar.Text
