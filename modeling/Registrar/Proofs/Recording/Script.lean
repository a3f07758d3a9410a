import Registrar.Proofs.Recording.Scene
import Registrar.Synthesis.EntryPoint

/-! Scripts: what a plan comes to on a host, written down step by step. A step is an event to be noted,
or the fault at which the steps end. The script of a plan is put together from the plan and the
catalogue alone. -/
namespace Registrar

open Platform

abbrev Script := List (Except Fault Event)

namespace Script

/-- What is noted in front of the first fault. -/
def events : Script → List Event
  | [] => []
  | .ok e :: rest => e :: events rest
  | .error _ :: _ => []

/-- The first fault, if there is one. -/
def result : Script → Except Fault Unit
  | [] => .ok ()
  | .ok _ :: rest => result rest
  | .error f :: _ => .error f

/-- A script in which nothing goes wrong. -/
def sure (es : List Event) : Script := es.map .ok

/-- What is noted if a region catches the fault at which a script ends. -/
def isolated (onFault : OnFault) (s : Script) : List Event :=
  s.events ++ match s.result with
    | .ok () => []
    | .error f => Walk.caught onFault f

@[simp] theorem events_sure (es : List Event) : (sure es).events = es := by
  induction es with
  | nil => rfl
  | cons e es ih => exact congrArg (e :: ·) ih

@[simp] theorem result_sure (es : List Event) : (sure es).result = .ok () := by
  induction es with
  | nil => rfl
  | cons e es ih => exact ih

theorem result_append (s t : Script) : (s ++ t).result = s.result.bind fun _ => t.result := by
  induction s with
  | nil => rfl
  | cons step s ih =>
    cases step with
    | ok e => exact ih
    | error f => rfl

/-- The second script is only come to if the first one is gone through. -/
theorem events_append (s t : Script) : (s ++ t).events = s.events ++ match s.result with
    | .ok _ => t.events
    | .error _ => [] := by
  induction s with
  | nil => rfl
  | cons step s ih =>
    cases step with
    | ok e => exact congrArg (e :: ·) ih
    | error f => rfl

end Script

namespace Scene

variable (s : Scene)

/-! ### Classes that are reached by reflection -/

/-- A member whose parameter types have to be loaded in order before it is looked for. -/
def memberStep (params : List String) (found : Bool) (missing : Fault) (e : Event) :
    Except Fault Event :=
  match params.find? (!s.loads ·) with
  | some param => .error (.classNotFound param)
  | none => if found then .ok e else .error missing

def constructorStep (className : String) (sig : Signature) : Except Fault Event :=
  s.memberStep sig.params (s.catalogue.hasConstructor className sig.params)
    (.noSuchMethod className (Catalogue.signatureText constructorName sig.params))
    (.registerExecutables .reflection [.constructor className sig.params])

def methodStep (className : String) (sig : Signature) : Except Fault Event :=
  s.memberStep sig.params (s.catalogue.hasMethod className sig.name sig.params)
    (.noSuchMethod className (Catalogue.signatureText sig.name sig.params))
    (.registerExecutables .reflection [.method className sig.name sig.params])

def fieldStep (className name : String) : Except Fault Event :=
  if s.catalogue.hasField className name then
    .ok (.registerFields .reflection [.field className name] false false)
  else .error (.noSuchField className name)

/-- All constructors at once, or else those that were named, one by one. -/
def constructorScript (r : ClassRecord) : Script :=
  if r.capabilities.constructors then
    [.ok (.registerExecutables .reflection (s.catalogue.constructors r.className))]
  else r.constructors.toList.map (s.constructorStep r.className)

def methodScript (r : ClassRecord) : Script :=
  if r.capabilities.methods then
    [.ok (.registerExecutables .reflection (s.catalogue.methods r.className))]
  else r.methods.toList.map (s.methodStep r.className)

/-- The two flags of a record count only where all fields are registered at once. -/
def fieldScript (r : ClassRecord) : Script :=
  if r.capabilities.fields then
    [.ok (.registerFields .reflection (s.catalogue.fields r.className)
      r.capabilities.finalFieldsWritable r.capabilities.serialization)]
  else r.fields.toList.map (s.fieldStep r.className)

/-- What needs the one instance that the image builder keeps of a type. -/
def withSingleton (typeName : String) (script : Script) : Script :=
  if s.catalogue.missingSingletons.contains typeName then [.error (.noSingleton typeName)]
  else script

def accessorScript (className : String) : Script :=
  s.withSingleton serializationRegistryType
    [.ok (.constructorAccessor className (s.constructorClass className)),
      .ok (.serializationReflections className objectType)]

def classScript (r : ClassRecord) : Script :=
  if s.catalogue.knows r.className then
    (if r.capabilities.weak then [] else [.ok (.registerClasses .reflection [r.className])]) ++
      (s.constructorScript r ++ (s.methodScript r ++ (s.fieldScript r ++
        if r.capabilities.serialization then s.accessorScript r.className else [])))
  else [.error (.classNotFound r.className)]

/-! ### Classes that are reached from native code -/

def jniScript (r : JniRecord) : Script :=
  if s.catalogue.knows r.className then
    .ok (.registerClasses .jni [r.className]) ::
      ((if r.constructors then
        [.ok (.registerExecutables .jni (s.catalogue.constructors r.className))] else []) ++
      ((if r.methods then
        [.ok (.registerExecutables .jni (s.catalogue.methods r.className))] else []) ++
      if r.fields then
        [.ok (.registerFields .jni (s.catalogue.fields r.className) r.finalFieldsWritable false)]
      else []))
  else [.error (.classNotFound r.className)]

/-! ### The general registrations -/

def unsafeScript (f : UnsafeAccessedField) : Script :=
  if s.catalogue.knows f.declaringClass then
    [if s.catalogue.hasField f.declaringClass f.fieldName then
      .ok (.unsafeAccessed f.declaringClass f.fieldName)
    else .error (.noSuchField f.declaringClass f.fieldName)]
  else [.error (.classNotFound f.declaringClass)]

/-- The classes that are not found are reported first. -/
def runtimeClassEvents (classes : List RuntimeInitializedClass) : List Event :=
  let names := classes.map (·.className)
  if classes.isEmpty then []
  else (names.filter (!s.catalogue.knows ·)).map (.failureReported <| .classNotFound ·) ++
    [.initializeAtRunTime (names.filter s.catalogue.knows)]

def runtimePackageEvents (packages : List RuntimeInitializedPackage) : List Event :=
  if packages.isEmpty then [] else [.initializePackagesAtRunTime (packages.map (·.packageName))]

def reinitializedEvents (classes : List RuntimeReinitializedClass) (originator : String) :
    List Event :=
  if classes.isEmpty then []
  else Script.isolated .report (s.withSingleton runtimeClassInitializationSupportType
    (.sure (classes.map fun c =>
      if s.catalogue.knows c.className then .rerunInitialization c.className originator
      else .failureReported (.classNotFound c.className))))

def proxyStep (d : ProxyDefinition) : Except Fault Event :=
  match d.interfaces.find? (!s.catalogue.knows ·) with
  | some name => .error (.classNotFound name)
  | none => .ok (.proxyClass d.interfaces)

/-- A definition that is broken ends all registrations. -/
def proxyScript (definitions : List ProxyDefinition) : Script :=
  if definitions.isEmpty then []
  else s.withSingleton dynamicProxyRegistryType (definitions.map s.proxyStep)

def patternEvents (patterns : List ResourcePatterns) : List Event :=
  if patterns.isEmpty then []
  else Script.isolated .report (s.withSingleton resourcesRegistryType
    (.sure ((patterns.flatMap (·.excludes)).map .resourcePatternExcluded ++
      (patterns.flatMap (·.includes)).map .resourcePatternIncluded)))

/-- Bundles that are not found are left out. -/
def bundleEvents (bundles : List ResourceBundle) : List Event :=
  if bundles.isEmpty then []
  else Script.isolated .report
    (if s.catalogue.hasMethod localizationFeatureType addBundleToCache [stringType] then
      s.withSingleton localizationFeatureType (.sure
        ((bundles.filter (s.catalogue.bundles.contains ·.bundleName)).map
          (.resourceBundle ·.bundleName)))
    else [.error (.noSuchMethod localizationFeatureType
      (Catalogue.signatureText addBundleToCache [stringType]))])

def cipherEvents (transformations : List String) : List Event :=
  (transformations.filter s.catalogue.ciphers.contains).map .cipherRequested

def workerEvents (p : Plan) (o : Options) : List Event :=
  p.classes.records.flatMap (fun r => (s.classScript r).isolated o.workerOnFault) ++
    p.jniClasses.flatMap fun r => (s.jniScript r).isolated o.workerOnFault

/-! ### The plan -/

/-- Only what is registered for proxies can end the script of a plan. -/
def planScript (p : Plan) (o : Options) : Script :=
  .sure (p.unsafeAccessedFields.flatMap fun f => (s.unsafeScript f).isolated .report) ++
    (.sure (s.runtimeClassEvents p.runtimeInitializedClasses) ++
    (.sure (runtimePackageEvents p.runtimeInitializedPackages) ++
    (.sure (s.reinitializedEvents p.runtimeReinitializedClasses o.originator) ++
    (s.proxyScript p.proxyDefinitions ++
    (.sure ((p.resources ++ p.serviceDescriptors).map .resource) ++
    (.sure (s.patternEvents p.resourcePatterns) ++
    (.sure (s.bundleEvents p.resourceBundles) ++
    (.sure (s.cipherEvents p.cipherTransformations.toList) ++
    .sure (s.workerEvents p o)))))))))

/-- All that is noted when the plan is carried out. -/
def planEvents (p : Plan) (o : Options) : List Event := (s.planScript p o).isolated .report

end Scene
end Registrar
