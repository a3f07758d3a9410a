/-! A code unit is a named type with routines, the form in which generated initialization code is
kept. The body of a routine is a tree of blocks whose instructions fill numbered slots. -/
namespace Registrar

/-- The number of a slot that an instruction of a routine fills or reads. -/
structure ValueId where
  number : UInt32
  deriving DecidableEq

namespace ValueId

def text (v : ValueId) : String := "%" ++ toString v.number.toNat

end ValueId

/-- The root of everything that can be thrown; a region that names it handles every fault. -/
def throwable : String := "java.lang.Throwable"

/-- The return type of what returns nothing. -/
def void : String := "void"

inductive Constant where
  | null
  | bool (value : Bool)
  | int (value : Int32)
  | str (value : String)
  deriving DecidableEq

inductive InvokeKind where
  | static
  | virtual
  | interface
  deriving DecidableEq

namespace InvokeKind

def word : InvokeKind → String
  | static => "static"
  | virtual => "virtual"
  | interface => "interface"

end InvokeKind

/-- A method of some type, known by its owner, name and parameter types. -/
structure MethodRef where
  owner : String
  name : String
  params : List String
  returns : String
  deriving DecidableEq

namespace MethodRef

def returnsValue (m : MethodRef) : Bool := m.returns != void

/-- The method has this owner and name, whatever its parameters. -/
def named (m : MethodRef) (owner name : String) : Bool := m.owner == owner && m.name == name

def text (m : MethodRef) : String :=
  m.owner ++ "." ++ m.name ++ "(" ++ ", ".intercalate m.params ++ ") -> " ++ m.returns

end MethodRef

/-- The access modifiers of a routine. -/
structure Modifiers where
  isPublic : Bool := false
  isPrivate : Bool := false
  isStatic : Bool := false
  deriving DecidableEq

namespace Modifiers

/-- Bits 0, 1 and 3 are read, all others are dropped. -/
def ofBits (bits : UInt16) : Modifiers where
  isPublic := bits &&& 1 != 0
  isPrivate := bits &&& 2 != 0
  isStatic := bits &&& 8 != 0

def bits (m : Modifiers) : UInt16 :=
  (if m.isPublic then 1 else 0) ||| (if m.isPrivate then 2 else 0) ||| (if m.isStatic then 8 else 0)

def keywords (m : Modifiers) : List String :=
  (if m.isPublic then ["public"] else []) ++ (if m.isPrivate then ["private"] else []) ++
    (if m.isStatic then ["static"] else [])

@[simp] theorem ofBits_bits (m : Modifiers) : ofBits m.bits = m := by
  obtain ⟨a, b, c⟩ := m
  cases a <;> cases b <;> cases c <;> decide

end Modifiers

/-- One step of a routine. Two of the steps hold blocks of further steps: a branch, and an isolated
region whose faults of one type are caught and handled behind it. -/
inductive Instruction where
  | const (dest : ValueId) (value : Constant)
  | loadClass (dest : ValueId) (className : String)
  | param (dest : ValueId) (index : UInt16)
  | invoke (dest : ValueId) (kind : InvokeKind) (method : MethodRef) (receiver : Option ValueId)
      (args : List ValueId)
  | newInstance (dest : ValueId) (className : String)
  | newArray (dest : ValueId) (component : String) (length : UInt32)
  | store (array : ValueId) (index : UInt32) (value : ValueId)
  | declare (dest : ValueId) (typeName : String)
  | assign (target value : ValueId)
  | branch (condition : ValueId) (onTrue onFalse : List Instruction)
  | isolate (body : List Instruction) (exceptionType : String) (caught : ValueId)
      (handler : List Instruction)
  | leave (value : Option ValueId)

/-- Instructions in the order in which they run. -/
abbrev Block := List Instruction

structure Routine where
  name : String
  modifiers : Modifiers
  params : List String
  returns : String
  /-- How many slots the body fills; advice to whoever lays out the frame. -/
  valueCount : UInt32
  body : Block

/-- An internal name with dots in place of its slashes. -/
def dotted (name : String) : String :=
  String.ofList (name.toList.map fun c => if c = '/' then '.' else c)

structure CodeUnit where
  /-- Internal name, with `/` between its parts. -/
  name : String
  superClass : String
  interfaces : List String
  annotations : List String
  routines : List Routine

namespace CodeUnit

/-- The name by which the unit is loaded. -/
def binaryName (u : CodeUnit) : String := dotted u.name

def routine? (u : CodeUnit) (name : String) : Option Routine :=
  u.routines.find? (·.name == name)

def routineNames (u : CodeUnit) : List String := u.routines.map (·.name)

end CodeUnit
end Registrar
