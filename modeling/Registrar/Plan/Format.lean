import Registrar.Declarations.Format
import Registrar.Plan.Basic

/-! The JSON form of a plan, in which it is shown. -/
namespace Registrar

open Json (ofFields)

def Signature.toJson (s : Signature) : Json :=
  ofFields [("name", .text s.name), ("params", .texts s.params)]

def ClassRecord.toJson (r : ClassRecord) : Json := ofFields [
  ("class_name", .text r.className),
  ("flags", .text r.capabilities.text),
  ("explicit_constructors", .list (r.constructors.toList.map Signature.toJson)),
  ("explicit_methods", .list (r.methods.toList.map Signature.toJson)),
  ("explicit_fields", .texts r.fields.toList)]

def JniRecord.toJson (r : JniRecord) : Json := ofFields [
  ("class_name", .text r.className), ("constructors", .flag r.constructors),
  ("methods", .flag r.methods), ("fields", .flag r.fields),
  ("final_fields_writable", .flag r.finalFieldsWritable)]

/-- An object with one member for each class. -/
def ClassTable.toJson (t : ClassTable) : Json :=
  .object (t.records.map fun r => (r.className, r.toJson))

def Plan.toJson (p : Plan) : Json := ofFields [
  ("classes", p.classes.toJson),
  ("jni_classes", .list (p.jniClasses.map (·.toJson))),
  ("unsafe_accessed_fields", .list (p.unsafeAccessedFields.map UnsafeAccessedField.codec.toJson)),
  ("runtime_initialized_classes",
    .list (p.runtimeInitializedClasses.map RuntimeInitializedClass.codec.toJson)),
  ("runtime_initialized_packages",
    .list (p.runtimeInitializedPackages.map RuntimeInitializedPackage.codec.toJson)),
  ("runtime_reinitialized_classes",
    .list (p.runtimeReinitializedClasses.map RuntimeReinitializedClass.codec.toJson)),
  ("proxy_definitions", .list (p.proxyDefinitions.map ProxyDefinition.codec.toJson)),
  ("resources", .texts p.resources),
  ("service_descriptors", .texts p.serviceDescriptors),
  ("resource_patterns", .list (p.resourcePatterns.map ResourcePatterns.codec.toJson)),
  ("resource_bundles", .list (p.resourceBundles.map ResourceBundle.codec.toJson)),
  ("cipher_transformations", .texts p.cipherTransformations.toList)]

end Registrar
