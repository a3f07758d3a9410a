import Registrar.OrderedSet

/-! What the parts of a build declare for the image that is built from them: classes and members
that are reached by reflection or from native code, resources, services, proxies, and what is
initialized only when the image runs. -/
namespace Registrar

/-- The method name that stands for a constructor. -/
def constructorName : String := "<init>"

/-- Classes to be reached by reflection, with the capabilities that all of them get. -/
structure ReflectiveClass where
  classNames : List String := []
  constructors : Bool := false
  methods : Bool := false
  fields : Bool := false
  finalFieldsWritable : Bool := false
  weak : Bool := false
  serialization : Bool := false
  deriving DecidableEq

structure ReflectiveField where
  declaringClass : String := ""
  name : String := ""
  deriving DecidableEq

/-- A single method, or a single constructor. -/
structure ReflectiveMethod where
  declaringClass : String := ""
  name : String := ""
  params : List String := []
  deriving DecidableEq

namespace ReflectiveMethod

/-- The constructor of a class with these parameter types. -/
def constructor (declaringClass : String) (params : List String) : ReflectiveMethod :=
  { declaringClass, name := constructorName, params }

def isConstructor (m : ReflectiveMethod) : Bool := m.name == constructorName

@[simp] theorem isConstructor_constructor (c : String) (ps : List String) :
    (constructor c ps).isConstructor = true := by simp [constructor, isConstructor]

end ReflectiveMethod

/-- Classes to be reached from native code. -/
structure JniAccess where
  classNames : List String := []
  constructors : Bool := false
  methods : Bool := false
  fields : Bool := false
  finalFieldsWritable : Bool := false
  deriving DecidableEq

/-- Resources that the image keeps. -/
structure ResourceList where
  resources : List String := []
  deriving DecidableEq

/-- Patterns of resources that the image keeps or leaves out. -/
structure ResourcePatterns where
  includes : List String := []
  excludes : List String := []
  deriving DecidableEq

namespace ResourcePatterns

/-- Adds a pattern behind the included ones. -/
def keeping (p : ResourcePatterns) (pattern : String) : ResourcePatterns :=
  { p with includes := p.includes ++ [pattern] }

/-- Adds a pattern behind the excluded ones. -/
def leavingOut (p : ResourcePatterns) (pattern : String) : ResourcePatterns :=
  { p with excludes := p.excludes ++ [pattern] }

end ResourcePatterns

structure ResourceBundle where
  bundleName : String := ""
  deriving DecidableEq

/-- The classes that provide a service. -/
structure ServiceProvider where
  serviceInterface : String := ""
  providers : List String := []
  deriving DecidableEq

/-- The resource in which the providers of a service are listed. -/
def ServiceProvider.descriptorFile (s : ServiceProvider) : String :=
  "META-INF/services/" ++ s.serviceInterface

/-- The interfaces of one dynamic proxy, whose order counts. -/
structure ProxyDefinition where
  interfaces : List String := []
  deriving DecidableEq

structure RuntimeInitializedClass where
  className : String := ""
  deriving DecidableEq

structure RuntimeInitializedPackage where
  packageName : String := ""
  deriving DecidableEq

structure RuntimeReinitializedClass where
  className : String := ""
  deriving DecidableEq

structure UnsafeAccessedField where
  declaringClass : String := ""
  fieldName : String := ""
  deriving DecidableEq

/-- Cipher transformations that are asked for when the image runs. -/
structure CipherRequest where
  transformations : OrderedSet String := .empty
  deriving DecidableEq

/-- Everything that is declared for one build, with one list for each category. -/
structure Declarations where
  reflectiveClasses : List ReflectiveClass := []
  reflectiveFields : List ReflectiveField := []
  reflectiveMethods : List ReflectiveMethod := []
  jniAccess : List JniAccess := []
  resources : List ResourceList := []
  resourcePatterns : List ResourcePatterns := []
  resourceBundles : List ResourceBundle := []
  serviceProviders : List ServiceProvider := []
  proxyDefinitions : List ProxyDefinition := []
  runtimeInitializedClasses : List RuntimeInitializedClass := []
  runtimeInitializedPackages : List RuntimeInitializedPackage := []
  runtimeReinitializedClasses : List RuntimeReinitializedClass := []
  unsafeAccessedFields : List UnsafeAccessedField := []
  cipherRequests : List CipherRequest := []
  deriving DecidableEq

namespace Declarations

/-- Puts each category of the second behind that of the first. -/
def append (a b : Declarations) : Declarations where
  reflectiveClasses := a.reflectiveClasses ++ b.reflectiveClasses
  reflectiveFields := a.reflectiveFields ++ b.reflectiveFields
  reflectiveMethods := a.reflectiveMethods ++ b.reflectiveMethods
  jniAccess := a.jniAccess ++ b.jniAccess
  resources := a.resources ++ b.resources
  resourcePatterns := a.resourcePatterns ++ b.resourcePatterns
  resourceBundles := a.resourceBundles ++ b.resourceBundles
  serviceProviders := a.serviceProviders ++ b.serviceProviders
  proxyDefinitions := a.proxyDefinitions ++ b.proxyDefinitions
  runtimeInitializedClasses := a.runtimeInitializedClasses ++ b.runtimeInitializedClasses
  runtimeInitializedPackages := a.runtimeInitializedPackages ++ b.runtimeInitializedPackages
  runtimeReinitializedClasses := a.runtimeReinitializedClasses ++ b.runtimeReinitializedClasses
  unsafeAccessedFields := a.unsafeAccessedFields ++ b.unsafeAccessedFields
  cipherRequests := a.cipherRequests ++ b.cipherRequests

instance : Append Declarations := ⟨append⟩

/-- The number of items in all categories. -/
def itemCount (d : Declarations) : Nat :=
  d.reflectiveClasses.length + d.reflectiveFields.length + d.reflectiveMethods.length +
    d.jniAccess.length + d.resources.length + d.resourcePatterns.length +
    d.resourceBundles.length + d.serviceProviders.length + d.proxyDefinitions.length +
    d.runtimeInitializedClasses.length + d.runtimeInitializedPackages.length +
    d.runtimeReinitializedClasses.length + d.unsafeAccessedFields.length +
    d.cipherRequests.length

def isEmpty (d : Declarations) : Bool := d.itemCount == 0

@[simp] theorem itemCount_append (a b : Declarations) :
    (a ++ b).itemCount = a.itemCount + b.itemCount := by
  change (append a b).itemCount = _
  simp only [itemCount, append, List.length_append]
  omega

end Declarations
end Registrar
