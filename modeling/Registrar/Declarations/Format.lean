import Registrar.Declarations.Basic
import Registrar.Json.Codec

/-! The JSON form of declarations: one struct for each kind of items, and one for all of them. All
that is left out is empty or false. -/
namespace Registrar

open Json (Codec)

def ReflectiveClass.codec : Codec ReflectiveClass := .struct {} [
  .of "class_names" .texts (·.classNames) fun c v => { c with classNames := v },
  .of "constructors" .flag (·.constructors) fun c v => { c with constructors := v },
  .of "methods" .flag (·.methods) fun c v => { c with methods := v },
  .of "fields" .flag (·.fields) fun c v => { c with fields := v },
  .of "final_fields_writable" .flag (·.finalFieldsWritable)
    fun c v => { c with finalFieldsWritable := v },
  .of "weak" .flag (·.weak) fun c v => { c with weak := v },
  .of "serialization" .flag (·.serialization) fun c v => { c with serialization := v }]

def ReflectiveField.codec : Codec ReflectiveField := .struct {} [
  .of "declaring_class" .text (·.declaringClass) fun f v => { f with declaringClass := v },
  .of "name" .text (·.name) fun f v => { f with name := v }]

def ReflectiveMethod.codec : Codec ReflectiveMethod := .struct {} [
  .of "declaring_class" .text (·.declaringClass) fun m v => { m with declaringClass := v },
  .of "name" .text (·.name) fun m v => { m with name := v },
  .of "params" .texts (·.params) fun m v => { m with params := v }]

def JniAccess.codec : Codec JniAccess := .struct {} [
  .of "class_names" .texts (·.classNames) fun a v => { a with classNames := v },
  .of "constructors" .flag (·.constructors) fun a v => { a with constructors := v },
  .of "methods" .flag (·.methods) fun a v => { a with methods := v },
  .of "fields" .flag (·.fields) fun a v => { a with fields := v },
  .of "final_fields_writable" .flag (·.finalFieldsWritable)
    fun a v => { a with finalFieldsWritable := v }]

def ResourceList.codec : Codec ResourceList := .struct {} [
  .of "resources" .texts (·.resources) fun r v => { r with resources := v }]

def ResourcePatterns.codec : Codec ResourcePatterns := .struct {} [
  .of "include_patterns" .texts (·.includes) fun p v => { p with includes := v },
  .of "exclude_patterns" .texts (·.excludes) fun p v => { p with excludes := v }]

def ResourceBundle.codec : Codec ResourceBundle := .struct {} [
  .of "bundle_name" .text (·.bundleName) fun b v => { b with bundleName := v }]

def ServiceProvider.codec : Codec ServiceProvider := .struct {} [
  .of "service_interface" .text (·.serviceInterface) fun s v => { s with serviceInterface := v },
  .of "providers" .texts (·.providers) fun s v => { s with providers := v }]

def ProxyDefinition.codec : Codec ProxyDefinition := .struct {} [
  .of "classes" .texts (·.interfaces) fun p v => { p with interfaces := v }]

def RuntimeInitializedClass.codec : Codec RuntimeInitializedClass := .struct {} [
  .of "class_name" .text (·.className) fun c v => { c with className := v }]

def RuntimeInitializedPackage.codec : Codec RuntimeInitializedPackage := .struct {} [
  .of "package_name" .text (·.packageName) fun p v => { p with packageName := v }]

def RuntimeReinitializedClass.codec : Codec RuntimeReinitializedClass := .struct {} [
  .of "class_name" .text (·.className) fun c v => { c with className := v }]

def UnsafeAccessedField.codec : Codec UnsafeAccessedField := .struct {} [
  .of "declaring_class" .text (·.declaringClass) fun f v => { f with declaringClass := v },
  .of "field_name" .text (·.fieldName) fun f v => { f with fieldName := v }]

/-- A text that comes again is dropped. -/
def OrderedSet.codec : Codec (OrderedSet String) :=
  ⟨Codec.texts.shape, fun s => Codec.texts.toJson s.toList, fun j => .ofList (Codec.texts.ofJson j)⟩

def CipherRequest.codec : Codec CipherRequest := .struct {} [
  .of "cipher_transformations" OrderedSet.codec (·.transformations)
    fun c v => { c with transformations := v }]

def Declarations.codec : Codec Declarations := .struct {} [
  .of "reflective_classes" (.list ReflectiveClass.codec) (·.reflectiveClasses)
    fun d v => { d with reflectiveClasses := v },
  .of "reflective_fields" (.list ReflectiveField.codec) (·.reflectiveFields)
    fun d v => { d with reflectiveFields := v },
  .of "reflective_methods" (.list ReflectiveMethod.codec) (·.reflectiveMethods)
    fun d v => { d with reflectiveMethods := v },
  .of "jni_runtime_access" (.list JniAccess.codec) (·.jniAccess)
    fun d v => { d with jniAccess := v },
  .of "resources" (.list ResourceList.codec) (·.resources) fun d v => { d with resources := v },
  .of "resource_patterns" (.list ResourcePatterns.codec) (·.resourcePatterns)
    fun d v => { d with resourcePatterns := v },
  .of "resource_bundles" (.list ResourceBundle.codec) (·.resourceBundles)
    fun d v => { d with resourceBundles := v },
  .of "service_providers" (.list ServiceProvider.codec) (·.serviceProviders)
    fun d v => { d with serviceProviders := v },
  .of "proxy_definitions" (.list ProxyDefinition.codec) (·.proxyDefinitions)
    fun d v => { d with proxyDefinitions := v },
  .of "runtime_initialized_classes" (.list RuntimeInitializedClass.codec)
    (·.runtimeInitializedClasses) fun d v => { d with runtimeInitializedClasses := v },
  .of "runtime_initialized_packages" (.list RuntimeInitializedPackage.codec)
    (·.runtimeInitializedPackages) fun d v => { d with runtimeInitializedPackages := v },
  .of "runtime_reinitialized_classes" (.list RuntimeReinitializedClass.codec)
    (·.runtimeReinitializedClasses) fun d v => { d with runtimeReinitializedClasses := v },
  .of "unsafe_accessed_fields" (.list UnsafeAccessedField.codec) (·.unsafeAccessedFields)
    fun d v => { d with unsafeAccessedFields := v },
  .of "cipher_transformations" (.list CipherRequest.codec) (·.cipherRequests)
    fun d v => { d with cipherRequests := v }]

end Registrar
