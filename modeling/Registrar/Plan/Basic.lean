import Registrar.Plan.ClassTable

/-! The registration plan: what the generated code has to register, in the order in which it does
so. -/
namespace Registrar

structure Plan where
  classes : ClassTable
  jniClasses : List JniRecord
  unsafeAccessedFields : List UnsafeAccessedField
  runtimeInitializedClasses : List RuntimeInitializedClass
  runtimeInitializedPackages : List RuntimeInitializedPackage
  runtimeReinitializedClasses : List RuntimeReinitializedClass
  proxyDefinitions : List ProxyDefinition
  resources : List String
  serviceDescriptors : List String
  resourcePatterns : List ResourcePatterns
  resourceBundles : List ResourceBundle
  cipherTransformations : OrderedSet String
  deriving DecidableEq

/-- One record for each class of each declaration; classes are not brought together here. -/
def JniAccess.records (a : JniAccess) : List JniRecord :=
  a.classNames.map fun className =>
    { className, constructors := a.constructors, methods := a.methods, fields := a.fields,
      finalFieldsWritable := a.finalFieldsWritable }

namespace Plan

/-- The plan of declarations, valid or not. -/
def ofDeclarations (d : Declarations) : Plan where
  classes := .ofDeclarations d
  jniClasses := d.jniAccess.flatMap JniAccess.records
  unsafeAccessedFields := d.unsafeAccessedFields
  runtimeInitializedClasses := d.runtimeInitializedClasses
  runtimeInitializedPackages := d.runtimeInitializedPackages
  runtimeReinitializedClasses := d.runtimeReinitializedClasses
  proxyDefinitions := d.proxyDefinitions
  resources := d.resources.flatMap (·.resources)
  serviceDescriptors := d.serviceProviders.map ServiceProvider.descriptorFile
  resourcePatterns := d.resourcePatterns
  resourceBundles := d.resourceBundles
  cipherTransformations := .ofList (d.cipherRequests.flatMap (·.transformations.toList))

/-- Some class is to be serialized. -/
def requiresSerialization (p : Plan) : Bool :=
  p.classes.records.any (·.capabilities.serialization)

end Plan
end Registrar
