import Registrar.CodeUnit.Basic
import Registrar.Synthesis.Error

/-! Putting a unit together. A routine may be reserved by name first and defined later; the unit
keeps its routines in the order in which their names were claimed. -/
namespace Registrar

/-- A unit whose routines need not be defined yet. -/
structure Assembly where
  name : String
  superClass : String
  interfaces : List String := []
  annotations : List String := []
  /-- The claimed names, each with its routine once there is one. -/
  slots : List (String × Option Routine) := []

namespace Assembly

def binaryName (a : Assembly) : String := dotted a.name

def annotate (a : Assembly) (typeName : String) : Assembly :=
  { a with annotations := a.annotations ++ [typeName] }

/-- The name is claimed, by a reservation or by a routine. -/
def claims (a : Assembly) (name : String) : Bool := a.slots.any (·.1 == name)

/-- Claims a name that nobody has claimed. -/
def reserve (a : Assembly) (name : String) : Except SynthesisError Assembly :=
  if a.claims name then .error (.duplicateRoutine name a.name)
  else .ok { a with slots := a.slots ++ [(name, none)] }

/-- Puts a routine where its name was claimed, or at the end. -/
def define (a : Assembly) (r : Routine) : Except SynthesisError Assembly :=
  match a.slots.lookup r.name with
  | some (some _) => .error (.duplicateRoutine r.name a.name)
  | some none =>
    .ok { a with slots := a.slots.map fun s => if s.1 = r.name then (s.1, some r) else s }
  | none => .ok { a with slots := a.slots ++ [(r.name, some r)] }

/-- The routines in order, or the first name without one. -/
def routines : List (String × Option Routine) → Except SynthesisError (List Routine)
  | [] => .ok []
  | (name, none) :: _ => .error (.undefinedRoutine name)
  | (_, some r) :: rest => (routines rest).map (r :: ·)

/-- The unit, in which every claimed routine has to be defined. -/
def finish (a : Assembly) : Except SynthesisError CodeUnit :=
  (routines a.slots).map fun routines =>
    { name := a.name, superClass := a.superClass, interfaces := a.interfaces
      annotations := a.annotations, routines }

end Assembly
end Registrar
