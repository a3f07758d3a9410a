import Registrar.Text.Quoted

/-! The values that a running unit computes with. Arrays and lists are cells of a store, so that all
who hold one see what is written to it. -/
namespace Registrar

/-- What the host throws. -/
structure Fault where
  exception : String
  message : String
  deriving DecidableEq

namespace Fault

def text (f : Fault) : String := f.exception ++ ": " ++ f.message

def classNotFound (name : String) : Fault := ⟨"java.lang.ClassNotFoundException", name⟩

def noSuchField (className field : String) : Fault :=
  ⟨"java.lang.NoSuchFieldException", className ++ "." ++ field⟩

def noSuchMethod (className method : String) : Fault :=
  ⟨"java.lang.NoSuchMethodException", className ++ "." ++ method⟩

def outOfBounds (index : UInt32) : Fault :=
  ⟨"java.lang.ArrayIndexOutOfBoundsException", toString index.toNat⟩

end Fault

/-- A member of a class, as reflection gives it. -/
inductive Member where
  | constructor (declaringClass : String) (params : List String)
  | method (declaringClass name : String) (params : List String)
  | field (declaringClass name : String)
  deriving DecidableEq

inductive Value where
  | null
  | bool (b : Bool)
  | int (n : Int32)
  | str (s : String)
  | classRef (name : String)
  | member (m : Member)
  | array (cell : Nat)
  | list (cell : Nat)
  /-- Something of which only the type is known. -/
  | object (typeName : String)
  | throwable (f : Fault)
  deriving DecidableEq

namespace Value

def asClass? : Value → Option String
  | classRef name => some name
  | _ => none

def asStr? : Value → Option String
  | str s => some s
  | _ => none

def asBool? : Value → Option Bool
  | bool b => some b
  | _ => none

def asMember? : Value → Option Member
  | member m => some m
  | _ => none

def asInt? : Value → Option Int32
  | int n => some n
  | _ => none

def asThrowable? : Value → Option Fault
  | throwable f => some f
  | _ => none

def asList? : Value → Option Nat
  | list cell => some cell
  | _ => none

/-- The class of a constructor. -/
def asConstructor? : Value → Option String
  | member (.constructor declaringClass _) => some declaringClass
  | _ => none

/-- The class and the name of a method. -/
def asMethod? : Value → Option (String × String)
  | member (.method declaringClass name _) => some (declaringClass, name)
  | _ => none

/-- The class and the name of a field. -/
def asField? : Value → Option (String × String)
  | member (.field declaringClass name) => some (declaringClass, name)
  | _ => none

end Value

/-- The contents of all arrays and lists. -/
structure Store where
  cells : Array (List Value) := #[]

namespace Store

/-- The elements of a cell; a cell that was never made has none. -/
def elements (s : Store) (cell : Nat) : List Value := s.cells[cell]?.getD []

/-- A new cell behind all others. -/
def alloc (s : Store) (values : List Value) : Nat × Store :=
  (s.cells.size, { cells := s.cells.push values })

/-- Gives an existing cell new elements. -/
def write (s : Store) (cell : Nat) (values : List Value) : Store :=
  { cells := s.cells.setIfInBounds cell values }

def append (s : Store) (cell : Nat) (value : Value) : Store :=
  s.write cell (s.elements cell ++ [value])

@[simp] theorem elements_alloc_self (s : Store) (vs : List Value) :
    (s.alloc vs).2.elements s.cells.size = vs := by simp [alloc, elements]

theorem elements_alloc_of_lt (s : Store) (vs : List Value) {cell : Nat} (h : cell < s.cells.size) :
    (s.alloc vs).2.elements cell = s.elements cell := by
  simp [alloc, elements, Array.getElem?_push, Nat.ne_of_lt h]

theorem elements_write_of_ne (s : Store) (vs : List Value) {cell other : Nat} (h : cell ≠ other) :
    (s.write cell vs).elements other = s.elements other := by
  simp [write, elements, h]

@[simp] theorem elements_write_self (s : Store) (vs : List Value) {cell : Nat}
    (h : cell < s.cells.size) : (s.write cell vs).elements cell = vs := by
  simp [write, elements, h]

@[simp] theorem size_write (s : Store) (cell : Nat) (vs : List Value) :
    (s.write cell vs).cells.size = s.cells.size := by simp [write]

@[simp] theorem write_write (s : Store) (cell : Nat) (vs us : List Value) :
    (s.write cell vs).write cell us = s.write cell us := by simp [write]

@[simp] theorem write_alloc (s : Store) (vs us : List Value) :
    (s.alloc vs).2.write s.cells.size us = (s.alloc us).2 := by
  simp only [write, alloc, Store.mk.injEq]
  apply Array.ext_getElem?
  intro i
  by_cases h : s.cells.size = i
  · subst h
    simp
  · simp [Array.getElem?_push, h, Ne.symm h]

theorem write_elements (s : Store) (cell : Nat) : s.write cell (s.elements cell) = s := by
  obtain ⟨cells⟩ := s
  simp only [write, elements, Store.mk.injEq]
  apply Array.ext_getElem?
  intro i
  by_cases h : cell = i
  · subst h
    by_cases lt : cell < cells.size <;> simp [lt]
  · simp [h]

/-- The elements of an array or of a list. -/
def elements? (s : Store) : Value → Option (List Value)
  | .array cell => some (s.elements cell)
  | .list cell => some (s.elements cell)
  | _ => none

end Store

/-! ### Values in fault texts -/

def describeTexts (ss : List String) : String :=
  "[" ++ ", ".intercalate (ss.map Text.quote) ++ "]"

namespace Member

def describe : Member → String
  | constructor c ps =>
    "Constructor \x7b declaring_class: " ++ Text.quote c ++ ", params: " ++ describeTexts ps ++
      " \x7d"
  | method c n ps =>
    "Method \x7b declaring_class: " ++ Text.quote c ++ ", name: " ++ Text.quote n ++ ", params: " ++
      describeTexts ps ++ " \x7d"
  | field c n =>
    "Field \x7b declaring_class: " ++ Text.quote c ++ ", name: " ++ Text.quote n ++ " \x7d"

end Member

def Fault.describe (f : Fault) : String :=
  "HostFault \x7b exception: " ++ Text.quote f.exception ++ ", message: " ++ Text.quote f.message ++
    " \x7d"

namespace Value

mutual

/-- The text of a value with its elements. Only these cells are shown. -/
def describeAmong (s : Store) (cells : List Nat) : Value → String
  | null => "Null"
  | bool b => "Bool(" ++ (if b then "true" else "false") ++ ")"
  | int n => "Int(" ++ toString n.toInt ++ ")"
  | str t => "Str(" ++ Text.quote t ++ ")"
  | classRef c => "Class(" ++ Text.quote c ++ ")"
  | member m => "Member(" ++ m.describe ++ ")"
  | array cell => "Array(" ++ describeCell s cells cell ++ ")"
  | list cell => "List(" ++ describeCell s cells cell ++ ")"
  | object t => "Object(" ++ Text.quote t ++ ")"
  | throwable f => "Throwable(" ++ f.describe ++ ")"
termination_by (cells.length, 1)

/-- A cell is not shown again inside itself, so that the text of every value ends. -/
def describeCell (s : Store) (cells : List Nat) (cell : Nat) : String :=
  if cell ∈ cells then
    "RefCell \x7b value: [" ++
      ", ".intercalate ((s.elements cell).map (describeAmong s (cells.filter (· ≠ cell)))) ++
      "] \x7d"
  else "..."
termination_by (cells.length, 0)
decreasing_by
  exact Prod.Lex.left _ _ (List.length_filter_lt_length_iff_exists.2 ⟨cell, ‹_›, by simp⟩)

end

/-- The text of a value, in which all cells are shown. -/
def describe (s : Store) (v : Value) : String := describeAmong s (List.range s.cells.size) v

end Value

/-- The text of a value that may be absent. -/
def describeOption (s : Store) : Option Value → String
  | none => "None"
  | some v => "Some(" ++ v.describe s ++ ")"

end Registrar
