/-! Text that is printed piece by piece into indented lines. -/
namespace Registrar.Text

structure Line where
  depth : Nat
  text : String
  deriving DecidableEq

namespace Line

/-- An empty line is not indented. -/
def render (l : Line) : String :=
  if l.text.isEmpty then "" else String.join (List.replicate l.depth "  ") ++ l.text

end Line

/-- The lines that are ended, the one that is being printed, and the depth of the next one. -/
structure Page where
  ended : Array Line
  current : Line
  depth : Nat
  deriving DecidableEq

namespace Page

/-- One empty line, not indented. -/
def blank : Page := ⟨#[], ⟨0, ""⟩, 0⟩

/-- Adds to the current line. -/
def print (p : Page) (text : String) : Page :=
  { p with current.text := p.current.text ++ text }

/-- Ends the current line. -/
def newline (p : Page) : Page :=
  { p with ended := p.ended.push p.current, current := ⟨p.depth, ""⟩ }

def println (p : Page) (text : String) : Page := (p.print text).newline

/-- Sets the depth of the lines to come, and of the current one while nothing is printed on it. -/
def setDepth (p : Page) (depth : Nat) : Page :=
  { p with
    depth
    current.depth := if p.current.text.isEmpty then depth else p.current.depth }

def indent (p : Page) : Page := p.setDepth (p.depth + 1)

/-- At the margin this leaves the depth as it is. -/
def dedent (p : Page) : Page := p.setDepth (p.depth - 1)

/-- The line breaks at the front of a text, reduced to one. -/
def reduceBreaks : List Char → List Char
  | '\n' :: '\n' :: rest => reduceBreaks ('\n' :: rest)
  | cs => cs

/-- The lines, of whose final line breaks at most one is kept. -/
def render (p : Page) : String :=
  let text := "\n".intercalate ((p.ended.push p.current).toList.map Line.render)
  String.ofList (reduceBreaks text.toList.reverse).reverse

end Page
end Registrar.Text
