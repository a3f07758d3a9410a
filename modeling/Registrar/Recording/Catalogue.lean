import Registrar.Evaluation.Value
import Registrar.Platform

/-! What a recording host knows: the classes of the application with their members, and the platform
that it runs on. -/
namespace Registrar

/-- A class of the application. -/
structure HostedClass where
  name : String
  isAbstract : Bool := false
  constructors : List (List String) := []
  methods : List (String × List String) := []
  fields : List String := []
  deriving DecidableEq

namespace HostedClass

def constructorMembers (c : HostedClass) : List Member :=
  c.constructors.map fun params => .constructor c.name params

def methodMembers (c : HostedClass) : List Member :=
  c.methods.map fun (name, params) => .method c.name name params

def fieldMembers (c : HostedClass) : List Member := c.fields.map fun name => .field c.name name

/-- A modifier word: public, and abstract if the class is. -/
def modifiers (class_ : Option HostedClass) : Int32 :=
  if class_.any (·.isAbstract) then 0x0401 else 0x0001

end HostedClass

structure Catalogue where
  classes : List HostedClass := []
  bundles : List String := []
  ciphers : List String := []
  /-- The types of which the image builder keeps no instance. -/
  missingSingletons : List String := []

namespace Catalogue

/-- Adds a class; one of the same name is replaced. -/
def addClass (c : Catalogue) (added : HostedClass) : Catalogue :=
  { c with
    classes :=
      if c.classes.any (·.name == added.name) then
        c.classes.map fun old => if old.name = added.name then added else old
      else c.classes ++ [added] }

def class? (c : Catalogue) (name : String) : Option HostedClass :=
  c.classes.find? (·.name == name)

def primitives : List String :=
  ["boolean", "byte", "char", "short", "int", "long", "float", "double", "void"]

/-- How the names of platform classes start. -/
def platformRoots : List String :=
  ["java.", "javax.", "jdk.", "sun.", "org.graalvm.", "com.oracle.svm.", "io.quarkus.runner.",
    "io.quarkus.runtime."]

/-- A name without the array dimensions at its end. -/
def component (name : String) : String := String.ofList (strip name.toList.reverse).reverse
where
  strip : List Char → List Char
    | ']' :: '[' :: rest => strip rest
    | cs => cs

/-- A primitive type, a class of the platform, or an array of either. -/
def isPlatformClass (name : String) : Bool :=
  let name := component name
  primitives.contains name ||
    platformRoots.any fun root => root.toList.isPrefixOf name.toList

def signatureText (name : String) (params : List String) : String :=
  name ++ "(" ++ ", ".intercalate params ++ ")"

/-- A class of the application or the platform, or an array of either. -/
def knows (c : Catalogue) (name : String) : Bool :=
  (c.class? (component name)).isSome || isPlatformClass name

end Catalogue
end Registrar
