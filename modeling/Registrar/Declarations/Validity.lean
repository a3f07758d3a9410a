import Registrar.ClassName
import Registrar.Declarations.Basic

/-! What declarations have to satisfy before code is generated for them. -/
namespace Registrar

/-- What a checked name or value is declared as. -/
inductive Subject where
  | reflectiveClass
  | reflectiveField
  | reflectiveMethod
  | reflectiveMethodParameter
  | jniClass
  | resource
  | resourcePattern
  | resourceBundle
  | serviceInterface
  | serviceProvider
  | proxyInterface
  | runtimeInitializedClass
  | runtimeReinitializedClass
  | unsafeAccessedField
  | cipherTransformation
  deriving DecidableEq

def Subject.label : Subject → String
  | reflectiveClass => "reflective class"
  | reflectiveField => "reflective field"
  | reflectiveMethod => "reflective method"
  | reflectiveMethodParameter => "reflective method parameter"
  | jniClass => "JNI class"
  | resource => "resource"
  | resourcePattern => "resource pattern"
  | resourceBundle => "resource bundle"
  | serviceInterface => "service interface"
  | serviceProvider => "service provider"
  | proxyInterface => "proxy interface"
  | runtimeInitializedClass => "runtime-initialized class"
  | runtimeReinitializedClass => "runtime-reinitialized class"
  | unsafeAccessedField => "unsafe-accessed field"
  | cipherTransformation => "cipher transformation"

inductive Violation where
  | invalidClassName (subject : Subject) (name : String)
  | invalidPackageName (name : String)
  | emptyMemberName (subject : Subject) (className : String)
  /-- The proxy definition at this place names no interface. -/
  | emptyProxyDefinition (index : Nat)
  | emptyValue (subject : Subject)
  deriving DecidableEq

namespace Violation

def message : Violation → String
  | invalidClassName subject name => s!"{subject.label}: `{name}` is not a valid class name"
  | invalidPackageName name =>
    s!"runtime-initialized package `{name}` is not a valid package name"
  | emptyMemberName subject className =>
    s!"{subject.label}: empty member name on `{className}`"
  | emptyProxyDefinition index => s!"proxy definition #{index} names no interfaces"
  | emptyValue subject => s!"{subject.label}: empty value"

end Violation

/-! Each check gives the violations of one item, in the order in which they are looked for. -/

def checkClassName (subject : Subject) (name : String) : List Violation :=
  if ClassName.isBinary name then [] else [.invalidClassName subject name]

def checkMemberName (subject : Subject) (owner name : String) : List Violation :=
  if name.isEmpty then [.emptyMemberName subject owner] else []

def checkValue (subject : Subject) (value : String) : List Violation :=
  if value.isEmpty then [.emptyValue subject] else []

def checkPackageName (name : String) : List Violation :=
  if ClassName.isPackage name then [] else [.invalidPackageName name]

namespace ReflectiveMethod

def violations (m : ReflectiveMethod) : List Violation :=
  checkClassName .reflectiveMethod m.declaringClass ++
    checkMemberName .reflectiveMethod m.declaringClass m.name ++
    m.params.flatMap (checkClassName .reflectiveMethodParameter)

end ReflectiveMethod

/-- A proxy needs an interface, and each of its interfaces a valid name. -/
def ProxyDefinition.violations (p : ProxyDefinition) (index : Nat) : List Violation :=
  if p.interfaces.isEmpty then [.emptyProxyDefinition index]
  else p.interfaces.flatMap (checkClassName .proxyInterface)

namespace Declarations

/-- All that is wrong, category by category in a fixed order. -/
def violations (d : Declarations) : List Violation :=
  (d.reflectiveClasses.flatMap fun c => c.classNames.flatMap (checkClassName .reflectiveClass)) ++
  (d.reflectiveFields.flatMap fun f =>
    checkClassName .reflectiveField f.declaringClass ++
      checkMemberName .reflectiveField f.declaringClass f.name) ++
  d.reflectiveMethods.flatMap ReflectiveMethod.violations ++
  (d.jniAccess.flatMap fun c => c.classNames.flatMap (checkClassName .jniClass)) ++
  (d.resources.flatMap fun r => r.resources.flatMap (checkValue .resource)) ++
  (d.resourcePatterns.flatMap fun p =>
    (p.includes ++ p.excludes).flatMap (checkValue .resourcePattern)) ++
  (d.resourceBundles.flatMap fun b => checkValue .resourceBundle b.bundleName) ++
  (d.serviceProviders.flatMap fun s =>
    checkClassName .serviceInterface s.serviceInterface ++
      s.providers.flatMap (checkClassName .serviceProvider)) ++
  (d.proxyDefinitions.zipIdx.flatMap fun (p, index) => p.violations index) ++
  (d.runtimeInitializedClasses.flatMap fun c =>
    checkClassName .runtimeInitializedClass c.className) ++
  (d.runtimeInitializedPackages.flatMap fun p => checkPackageName p.packageName) ++
  (d.runtimeReinitializedClasses.flatMap fun c =>
    checkClassName .runtimeReinitializedClass c.className) ++
  (d.unsafeAccessedFields.flatMap fun f =>
    checkClassName .unsafeAccessedField f.declaringClass ++
      checkMemberName .unsafeAccessedField f.declaringClass f.fieldName) ++
  (d.cipherRequests.flatMap fun c =>
    c.transformations.toList.flatMap (checkValue .cipherTransformation))

/-- Declarations are valid if nothing is wrong with them; otherwise the first violation counts. -/
def validate (d : Declarations) : Except Violation Unit :=
  match d.violations with
  | [] => .ok ()
  | v :: _ => .error v

theorem validate_eq_ok_iff (d : Declarations) : d.validate = .ok () ↔ d.violations = [] := by
  unfold validate; split <;> simp_all

end Declarations
end Registrar
