import Registrar.CodeUnit.Emit
import Registrar.Platform

/-! The parts of generated code that are common to its routines. -/
namespace Registrar

open Platform

/-- Emissions that do not fail. -/
abbrev Emission := Emit Empty

/-- What an isolated region does with a fault before the code behind it goes on. -/
inductive OnFault where
  | report
  | drop
  deriving DecidableEq

namespace Emission

/-- What is done with a fault that was caught. -/
def handler (onFault : OnFault) (caught : ValueId) : Emission Unit :=
  match onFault with
  | .report => discard (Emit.invokeVirtual printStackTrace caught [])
  | .drop => pure ()

/-- A region that handles every fault. -/
def isolated (onFault : OnFault) (body : Emission Unit) : Emission Unit :=
  Emit.isolate throwable body (handler onFault)

/-- The class of a name, found through a loader and not initialized. -/
def findClass (name : String) (loader : ValueId) : Emission ValueId := do
  let name ← Emit.str name
  let early ← Emit.bool false
  Emit.invokeStatic forNameWithLoader [name, early, loader]

/-- The class of a name and the loader of the thread, through which it is found. -/
def resolveClass (name : String) : Emission (ValueId × ValueId) := do
  let thread ← Emit.invokeStatic currentThread []
  let loader ← Emit.invokeVirtual getContextClassLoader thread []
  let class_ ← findClass name loader
  return (class_, loader)

/-- The loader of the unit itself. -/
def unitLoader (unitName : String) : Emission ValueId := do
  let unitClass ← Emit.loadClass (dotted unitName)
  Emit.invokeVirtual getClassLoader unitClass []

/-- The instance that the image builder keeps of a type. -/
def singleton (typeName : String) : Emission ValueId := do
  let type ← Emit.loadClass typeName
  Emit.invokeStatic imageSingletonsLookup [type]

end Emission

/-- The members of a class. They are fetched before anything is registered, so that a fault here
leaves nothing registered. -/
structure Members where
  constructors : ValueId
  methods : ValueId
  fields : ValueId

namespace Members

def fetch (class_ : ValueId) : Emission Members := do
  let constructors ← Emit.invokeVirtual getDeclaredConstructors class_ []
  let methods ← Emit.invokeVirtual getDeclaredMethods class_ []
  let fields ← Emit.invokeVirtual getDeclaredFields class_ []
  return { constructors, methods, fields }

end Members
end Registrar
