import Registrar.Proofs.Recording.Walk
import Registrar.Recording.Argument

/-! What a unit finds on a host: what the catalogue of the host has, and the single steps of the walks
over a plan, which note what is registered and end at what is not found. -/
namespace Registrar

open Platform Walk

/-! ### What a catalogue has -/

namespace Catalogue

variable (c : Catalogue)

def hasConstructor (className : String) (params : List String) : Bool :=
  (c.class? className).any (·.constructors.contains params)

/-- Platform classes have every method that is asked for. -/
def hasMethod (className name : String) (params : List String) : Bool :=
  match c.class? className with
  | some h => h.methods.contains (name, params)
  | none => isPlatformClass className

/-- Platform classes have every field that is asked for. -/
def hasField (className name : String) : Bool :=
  match c.class? className with
  | some h => h.fields.contains name
  | none => isPlatformClass className

/-- The members of a class; platform classes do not list any. -/
def constructors (className : String) : List Member :=
  ((c.class? className).map HostedClass.constructorMembers).getD []

def methods (className : String) : List Member :=
  ((c.class? className).map HostedClass.methodMembers).getD []

def fields (className : String) : List Member :=
  ((c.class? className).map HostedClass.fieldMembers).getD []

def isAbstractClass (className : String) : Bool := (c.class? className).any (·.isAbstract)

end Catalogue

def Fault.noSingleton (typeName : String) : Fault :=
  ⟨"java.lang.IllegalStateException", "no singleton registered for " ++ typeName⟩

/-- What a unit of this name finds on a host with this catalogue. -/
structure Scene where
  catalogue : Catalogue
  self : String

namespace Scene

variable (s : Scene)

/-! ### Single steps -/

def knows (className : String) : Walk Unit :=
  demand (s.catalogue.knows className) (.classNotFound className)

/-- The unit knows itself even if the host does not. -/
def loads (className : String) : Bool := className == s.self || s.catalogue.knows className

def load (className : String) : Walk Unit := demand (s.loads className) (.classNotFound className)

def find (className : String) : Walk Unit := do
  call forName
  s.knows className

def findClass (className : String) : Walk Unit := do
  call forNameWithLoader
  s.knows className

def resolveClass (className : String) : Walk Unit := do
  call currentThread
  s.findClass className

def lookup (typeName : String) : Walk Unit := do
  call imageSingletonsLookup
  demand (!s.catalogue.missingSingletons.contains typeName) (.noSingleton typeName)

def singleton (typeName : String) : Walk Unit := do
  s.load typeName
  s.lookup typeName

/-- One registration. -/
def register (m : MethodRef) (e : Event)
    (platform : m ∈ methods := by rw [methods]; simp) : Walk Unit := do
  call m platform
  note e

/-- Instances of abstract classes are made with the constructor of a stub. -/
def constructorClass (className : String) : String :=
  if s.catalogue.isAbstractClass className then stubForAbstractClassType else className

end Scene

theorem Scene.result_findClass (scene : Scene) (name : String) :
    (scene.findClass name).result =
      if scene.catalogue.knows name then .ok () else .error (.classNotFound name) := by
  simp only [Scene.findClass, Scene.knows, Walk.result_bind, Walk.result_call, Except.bind,
    Walk.demand]
  cases scene.catalogue.knows name <;> rfl

end Registrar
