import Registrar.CodeUnit.Listing
import Mathlib.Data.List.Basic
import Mathlib.Data.List.DropRight

/-! The text of a listing without the page that it is printed on. Printing keeps a page at the start
of a line, and what it adds there is found by recursion on what is printed. -/
namespace Registrar

namespace Text

def indentation (depth : Nat) : List Char := List.replicate (2 * depth) ' '

theorem indentation_succ (depth : Nat) :
    indentation (depth + 1) = indentation depth ++ [' ', ' '] := by
  rw [indentation, indentation, Nat.mul_succ, ← List.replicate_append_replicate]
  rfl

/-- A line at a depth, with the break that ends it. -/
def lineAt (depth : Nat) (text : String) : List Char := indentation depth ++ (text.toList ++ ['\n'])

/-- Only an empty line would not be indented. -/
theorem render_line {depth : Nat} {text : String} (shown : text ≠ "" ∨ depth = 0) :
    (Line.render ⟨depth, text⟩).toList ++ ['\n'] = lineAt depth text := by
  have spaces (n : Nat) : (String.join (List.replicate n "  ")).toList = indentation n := by
    induction n with
    | zero => rfl
    | succ n ih =>
      rw [indentation_succ, ← ih]
      simp [List.replicate_succ']
  by_cases empty : text = ""
  · obtain rfl : depth = 0 := shown.resolve_left (by simp [empty])
    rw [empty]
    rfl
  · have filled : text.isEmpty = false := by simpa using empty
    rw [lineAt, Line.render, filled]
    simp [spaces]

namespace Page

theorem print_println (p : Page) (first second : String) :
    (p.print first).println second = p.println (first ++ second) := by
  simp [println, print, String.append_assoc]

theorem reduceBreaks_cons (cs : List Char) :
    reduceBreaks ('\n' :: cs) = '\n' :: cs.dropWhile (· == '\n') := by
  induction cs with
  | nil => rfl
  | cons c cs ih =>
    by_cases same : c = '\n'
    · rw [same, reduceBreaks, ih]
      rfl
    · have kept : (c :: cs).dropWhile (· == '\n') = c :: cs := by simp [same]
      rw [kept, reduceBreaks]
      rintro rest eq
      exact same (List.cons.inj (List.cons.inj eq).2).1

/-- The page is at the start of a line at this depth, behind this text. -/
structure Stands (p : Page) (depth : Nat) (text : List Char) : Prop where
  current : p.current = ⟨depth, ""⟩
  depth : p.depth = depth
  ended : (p.ended.toList.flatMap fun l => l.render.toList ++ ['\n']) = text

namespace Stands

variable {p : Page} {depth : Nat} {text : List Char}

theorem blank : Stands blank 0 [] := ⟨rfl, rfl, rfl⟩

theorem println (h : p.Stands depth text) (line : String) (shown : line ≠ "" ∨ depth = 0) :
    (p.println line).Stands depth (text ++ lineAt depth line) where
  current := by rw [← h.depth]; rfl
  depth := h.depth
  ended := by
    simp only [Page.println, Page.newline, Page.print, Array.toList_push, List.flatMap_append,
      List.flatMap_singleton, h.ended, h.current, String.empty_append, render_line shown]

theorem indent (h : p.Stands depth text) : p.indent.Stands (depth + 1) text where
  current := by simp [Page.indent, setDepth, h.current, h.depth]
  depth := by simp [Page.indent, setDepth, h.depth]
  ended := h.ended

theorem dedent (h : p.Stands (depth + 1) text) : p.dedent.Stands depth text where
  current := by simp [Page.dedent, setDepth, h.current, h.depth]
  depth := by simp [Page.dedent, setDepth, h.depth]
  ended := h.ended

/-- The breaks at the end of the text are all that a page leaves out. -/
theorem render (h : p.Stands depth text) :
    p.render = String.ofList (reduceBreaks text.reverse).reverse := by
  have join (lines : List (List Char)) (last : List Char) :
      ['\n'].intercalate (lines ++ [last]) = lines.flatMap (· ++ ['\n']) ++ last := by
    induction lines with
    | nil => simp
    | cons line lines ih =>
      rw [List.cons_append, List.intercalate_cons_of_ne_nil (by simp), ih]
      simp
  have whole :
      ("\n".intercalate ((p.ended.push p.current).toList.map Line.render)).toList = text := by
    have last : (Line.render p.current).toList = [] := by
      rw [h.current]
      rfl
    rw [String.toList_intercalate, Array.toList_push, List.map_append, List.map_append,
      List.map_singleton, List.map_singleton, last]
    refine (join _ _).trans ?_
    rw [List.append_nil, List.map_map, List.flatMap_map]
    exact h.ended
  rw [Page.render, whole]

/-- A text that ends with a single break is not changed. -/
theorem render_of_ends (h : p.Stands depth text) {front : List Char} {c : Char} (other : c ≠ '\n')
    (ends : text = front ++ [c, '\n']) : p.render = String.ofList text := by
  rw [h.render, ends]
  simp [reduceBreaks_cons, other]

end Stands
end Page
end Text

open Text (Page lineAt)

/-- The text of the first line of an instruction. -/
def Instruction.line : Instruction → String
  | .const d v => d.text ++ " = const " ++ v.text
  | .loadClass d c => d.text ++ " = class " ++ c
  | .param d i => d.text ++ " = param " ++ toString i.toNat
  | .invoke d k m r as =>
    (if m.returnsValue then d.text ++ " = " else "") ++ invocationText k m r as
  | .newInstance d c => d.text ++ " = new " ++ c ++ "()"
  | .newArray d c n => d.text ++ " = new " ++ c ++ "[" ++ toString n.toNat ++ "]"
  | .store a i v => a.text ++ "[" ++ toString i.toNat ++ "] = " ++ v.text
  | .declare d t => d.text ++ " = var " ++ t
  | .assign t v => t.text ++ " := " ++ v.text
  | .branch c _ _ => "if " ++ c.text ++ " \x7b"
  | .isolate _ _ _ _ => "try \x7b"
  | .leave (some v) => "return " ++ v.text
  | .leave none => "return"

theorem Instruction.line_ne (i : Instruction) : i.line ≠ "" := by
  cases i with
  | invoke d k m r as =>
    unfold line invocationText
    simp
  | leave v => cases v <;> simp [line]
  | _ => simp [line]

mutual

/-- The lines of an instruction, and between them those of its blocks. -/
def Instruction.rendering (depth : Nat) : Instruction → List Char
  | .branch c a b =>
    lineAt depth ("if " ++ c.text ++ " \x7b") ++ Block.rendering (depth + 1) a ++
      lineAt depth "\x7d else \x7b" ++ Block.rendering (depth + 1) b ++ lineAt depth "\x7d"
  | .isolate b e v h =>
    lineAt depth "try \x7b" ++ Block.rendering (depth + 1) b ++
      lineAt depth ("\x7d catch " ++ e ++ " " ++ v.text ++ " \x7b") ++
      Block.rendering (depth + 1) h ++ lineAt depth "\x7d"
  | i => lineAt depth i.line

def Block.rendering (depth : Nat) : List Instruction → List Char
  | [] => []
  | i :: is => Instruction.rendering depth i ++ Block.rendering depth is

end

mutual

theorem Instruction.list_stands {p : Page} {depth : Nat} {text : List Char}
    (h : p.Stands depth text) (i : Instruction) :
    (Instruction.list p i).Stands depth (text ++ i.rendering depth) := by
  have filled := i.line_ne
  cases i with
  | branch c a b =>
    have opened := h.println ("if " ++ c.text ++ " \x7b") (.inl (by simp))
    have first := Block.list_stands opened.indent a
    have between := first.dedent.println "\x7d else \x7b" (.inl (by simp))
    have second := Block.list_stands between.indent b
    have last := second.dedent.println "\x7d" (.inl (by simp))
    rw [Instruction.rendering]
    simpa only [Instruction.list, List.append_assoc] using last
  | isolate b e v handler =>
    have opened := h.println "try \x7b" (.inl (by simp))
    have first := Block.list_stands opened.indent b
    have between :=
      first.dedent.println ("\x7d catch " ++ e ++ " " ++ v.text ++ " \x7b") (.inl (by simp))
    have second := Block.list_stands between.indent handler
    have last := second.dedent.println "\x7d" (.inl (by simp))
    rw [Instruction.rendering]
    simpa only [Instruction.list, List.append_assoc] using last
  | invoke d k m r as =>
    have printed := h.println _ (.inl filled)
    rw [Instruction.line] at printed
    rw [Instruction.list, Instruction.rendering, Instruction.line]
    · cases value : m.returnsValue with
      | true =>
        rw [value] at printed
        simpa [Page.print_println] using printed
      | false =>
        rw [value] at printed
        simpa using printed
    all_goals nofun
  | leave v => cases v <;> exact h.println _ (.inl filled)
  | _ => exact h.println _ (.inl filled)

theorem Block.list_stands {p : Page} {depth : Nat} {text : List Char} (h : p.Stands depth text)
    (is : List Instruction) : (Block.list p is).Stands depth (text ++ Block.rendering depth is) := by
  cases is with
  | nil => simpa [Block.list, Block.rendering] using h
  | cons i is =>
    have rest := Block.list_stands (Instruction.list_stands h i) is
    simpa only [Block.list, Block.rendering, List.append_assoc] using rest

end

/-- The first line of a routine: its modifiers in their fixed order, the name with the types of the
parameters, and the type of the result, with single blanks between them. -/
def Routine.heading (r : Routine) : String :=
  let modifiers := [("public", r.modifiers.isPublic), ("private", r.modifiers.isPrivate),
    ("static", r.modifiers.isStatic)]
  " ".intercalate ((modifiers.filter (·.2)).map (·.1) ++
    ["routine", r.name ++ "(" ++ ", ".intercalate r.params ++ ")", "->", r.returns, "\x7b"])

theorem Routine.signature_eq (r : Routine) : r.signature = r.heading := by
  rcases modifiers : r.modifiers with ⟨isPublic, isPrivate, isStatic⟩
  rw [signature, heading, modifiers, ← String.toList_inj]
  cases isPublic <;> cases isPrivate <;> cases isStatic <;>
    simp [Modifiers.keywords, String.toList_intercalate]

/-- The lines of a routine. -/
def Routine.rendering (r : Routine) : List Char :=
  lineAt 0 r.heading ++ Block.rendering 1 r.body ++ lineAt 0 "\x7d"

theorem Routine.list_stands {p : Page} {text : List Char} (h : p.Stands 0 text) (r : Routine) :
    (r.list p).Stands 0 (text ++ r.rendering) := by
  have body := Block.list_stands (h.println r.signature (.inr rfl)).indent r.body
  have last := body.dedent.println "\x7d" (.inr rfl)
  rw [rendering, ← r.signature_eq]
  simpa only [Routine.list, List.append_assoc] using last

namespace CodeUnit

/-- The line of a unit in front of its routines: its name with dots in place of slashes, the class
that it extends, and the interfaces, if there are any. -/
def heading (u : CodeUnit) : String :=
  let name := String.ofList (u.name.toList.map fun c => if c = '/' then '.' else c)
  let interfaces := if u.interfaces = [] then [] else ["implements", ", ".intercalate u.interfaces]
  " ".intercalate (["unit", name, "extends", u.superClass] ++ interfaces)

theorem header_eq (u : CodeUnit) : u.header = u.heading := by
  rw [header, heading, ← String.toList_inj]
  cases u.interfaces <;>
    simp [binaryName, dotted, String.toList_intercalate]

/-- The lines of a unit. -/
def rendering (u : CodeUnit) : List Char :=
  u.annotations.flatMap (fun a => lineAt 0 ("@" ++ a)) ++ lineAt 0 u.heading ++
    u.routines.flatMap fun r => lineAt 0 "" ++ r.rendering

theorem page_stands (u : CodeUnit) : u.page.Stands 0 u.rendering := by
  have annotations (as : List String) {p : Page} {text : List Char} (h : p.Stands 0 text) :
      (as.foldl (fun p a => p.println ("@" ++ a)) p).Stands 0
        (text ++ as.flatMap fun a => lineAt 0 ("@" ++ a)) := by
    induction as generalizing p text with
    | nil => simpa using h
    | cons a as ih => simpa [List.append_assoc] using ih (h.println _ (.inr rfl))
  have routines (rs : List Routine) {p : Page} {text : List Char} (h : p.Stands 0 text) :
      (rs.foldl (fun p r => r.list (p.println "")) p).Stands 0
        (text ++ rs.flatMap fun r => lineAt 0 "" ++ r.rendering) := by
    induction rs generalizing p text with
    | nil => simpa using h
    | cons r rs ih =>
      have first := Routine.list_stands (h.println "" (.inr rfl)) r
      simpa [List.append_assoc] using ih first
  rw [rendering, ← u.header_eq]
  exact routines _ ((annotations _ .blank).println _ (.inr rfl))

/-! ### The end of a listing -/

/-- Every line is ended, so a text of lines ends with a break. -/
theorem getLast?_rendering (u : CodeUnit) : u.rendering.getLast? = some '\n' := by
  have line (depth : Nat) (text : String) : (lineAt depth text).getLast? = some '\n' := by
    simp [lineAt]
  have routine (r : Routine) : r.rendering.getLast? = some '\n' := by
    simp [Routine.rendering, List.getLast?_append, line]
  have routines (rs : List Routine) :
      (rs.flatMap fun r => lineAt 0 "" ++ r.rendering).getLast?.or (some '\n') = some '\n' := by
    induction rs with
    | nil => rfl
    | cons r rs ih => simp [List.getLast?_append, routine, ih]
  simpa [rendering, List.getLast?_append, line] using routines u.routines

/-- A listing is the lines of the unit, with a single break at the very end. -/
theorem listing_renders (u : CodeUnit) :
    u.listing.toList = u.rendering.rdropWhile (· == '\n') ++ ['\n'] := by
  obtain ⟨front, ends⟩ := List.getLast?_eq_some_iff.1 u.getLast?_rendering
  rw [listing, u.page_stands.render, ends]
  simp [Page.reduceBreaks_cons, List.rdropWhile]

end CodeUnit
end Registrar
