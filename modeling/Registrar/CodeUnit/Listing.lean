import Registrar.CodeUnit.Basic
import Registrar.Text.Page
import Registrar.Text.Quoted

/-! The listing of a code unit: its annotations and header, then each routine with one line per
instruction, indented by the depth of the blocks around it. -/
namespace Registrar

open Text (Page)

def Constant.text : Constant → String
  | .null => "null"
  | .bool b => if b then "true" else "false"
  | .int n => toString n.toInt
  | .str s => Text.quote s

/-- The arguments stand in parentheses behind the method and the receiver. -/
def invocationText (kind : InvokeKind) (method : MethodRef) (receiver : Option ValueId)
    (args : List ValueId) : String :=
  "invoke " ++ kind.word ++ " " ++ method.text ++
    (match receiver with | some r => " on " ++ r.text | none => "") ++
    " (" ++ ", ".intercalate (args.map ValueId.text) ++ ")"

mutual

/-- Prints an instruction, with the lines of its blocks one level deeper than its own. -/
def Instruction.list (p : Page) : Instruction → Page
  | .const d v => p.println (d.text ++ " = const " ++ v.text)
  | .loadClass d c => p.println (d.text ++ " = class " ++ c)
  | .param d i => p.println (d.text ++ " = param " ++ toString i.toNat)
  | .invoke d k m r as =>
    let p := if m.returnsValue then p.print (d.text ++ " = ") else p
    p.println (invocationText k m r as)
  | .newInstance d c => p.println (d.text ++ " = new " ++ c ++ "()")
  | .newArray d c n => p.println (d.text ++ " = new " ++ c ++ "[" ++ toString n.toNat ++ "]")
  | .store a i v => p.println (a.text ++ "[" ++ toString i.toNat ++ "] = " ++ v.text)
  | .declare d t => p.println (d.text ++ " = var " ++ t)
  | .assign t v => p.println (t.text ++ " := " ++ v.text)
  | .branch c a b =>
    let p := Block.list (p.println ("if " ++ c.text ++ " \x7b")).indent a
    let p := Block.list (p.dedent.println "\x7d else \x7b").indent b
    p.dedent.println "\x7d"
  | .isolate b e v h =>
    let p := Block.list (p.println "try \x7b").indent b
    let p := Block.list (p.dedent.println ("\x7d catch " ++ e ++ " " ++ v.text ++ " \x7b")).indent h
    p.dedent.println "\x7d"
  | .leave (some v) => p.println ("return " ++ v.text)
  | .leave none => p.println "return"

def Block.list (p : Page) : List Instruction → Page
  | [] => p
  | i :: is => Block.list (Instruction.list p i) is

end

def Routine.signature (r : Routine) : String :=
  String.join (r.modifiers.keywords.map (· ++ " ")) ++ "routine " ++ r.name ++ "(" ++
    ", ".intercalate r.params ++ ") -> " ++ r.returns ++ " \x7b"

/-- A routine stands between its signature and a closing brace. -/
def Routine.list (p : Page) (r : Routine) : Page :=
  (Block.list (p.println r.signature).indent r.body).dedent.println "\x7d"

namespace CodeUnit

def header (u : CodeUnit) : String :=
  "unit " ++ u.binaryName ++ " extends " ++ u.superClass ++
    if u.interfaces.isEmpty then "" else " implements " ++ ", ".intercalate u.interfaces

/-- The page of a unit, with an empty line before each routine. -/
def page (u : CodeUnit) : Page :=
  let p := u.annotations.foldl (fun p a => p.println ("@" ++ a)) Page.blank
  u.routines.foldl (fun p r => r.list (p.println "")) (p.println u.header)

/-- The listing of a unit, a function of the unit alone. -/
def listing (u : CodeUnit) : String := u.page.render

end CodeUnit
end Registrar
