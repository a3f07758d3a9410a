import Registrar.Declarations.Basic
import Registrar.Evaluation.Basic
import Registrar.Recording.Argument
import Registrar.Recording.Event
import Registrar.Synthesis.EntryPoint

/-! A host that plays the part of the image builder. It answers from a catalogue and notes every
registration. -/
namespace Registrar

open Platform

structure Recorder where
  catalogue : Catalogue
  events : List Event := []

/-- A step that reads and changes the world as it goes. What it has done before a fault stays done. -/
abbrev HostStep := ExceptT Fault (StateM (World Recorder))

namespace HostStep

/-! ### Single steps -/

def catalogue : HostStep Catalogue := return (← get).host.catalogue

/-- Looks at arguments with what is in the arrays and lists now. -/
def decode {α : Type} (view : Store → Except Fault α) : HostStep α := do
  match view (← get).store with
  | .ok a => return a
  | .error f => throw f

def record (event : Event) : HostStep Value := do
  modify fun w => { w with host.events := w.host.events ++ [event] }
  return .null

/-- A cell that no one holds yet. -/
def alloc (values : List Value) : HostStep Nat := do
  let (cell, store) := (← get).store.alloc values
  modify ({ · with store })
  return cell

def makeArray (values : List Value) : HostStep Value := return .array (← alloc values)

def makeList (values : List Value) : HostStep Value := return .list (← alloc values)

def makeMembers (ms : List Member) : HostStep Value := makeArray (ms.map .member)

/-! ### Receivers and arguments -/

section

variable (args : List Value) (index : Nat)

def anyAt : HostStep Value := decode fun s => argument s args index
def stringAt : HostStep String := decode fun s => stringArgument s args index
def boolAt : HostStep Bool := decode fun s => boolArgument s args index
def classAt : HostStep String := decode fun s => classArgument s args index
def elementsAt : HostStep (List Value) := decode fun s => elementsArgument s args index
def classesAt : HostStep (List String) := decode fun s => classesArgument s args index
def membersAt : HostStep (List Member) := decode fun s => membersArgument s args index

/-- An argument of some other kind. -/
def viewAt {α : Type} (expected : String) (view : Value → Option α) : HostStep α :=
  decode fun s => argument s args index >>= expect s expected view

end

def receiverIs {α : Type} (expected : String) (view : Value → Option α)
    (receiver : Option Value) : HostStep α :=
  decode fun s => receiverAs s expected view receiver

/-- The class of the application that receives a call; no such class if it is one of the
platform. -/
def hosted (receiver : Option Value) : HostStep (Option HostedClass) := do
  let name ← receiverIs "a class receiver" Value.asClass? receiver
  return (← catalogue).class? name

/-! ### Calls -/

def loadClass (name : String) : HostStep Value := do
  if (← catalogue).knows name then return .classRef name else throw (.classNotFound name)

/-- A new list, or something of a known type. -/
def newInstance (name : String) : HostStep Value := do
  if name = arrayListType then makeList []
  else if (← catalogue).knows name then return .object name
  else throw (.classNotFound name)

/-- Calls of the methods of classes. Platform classes have whatever methods and fields are asked
for by name, but no members are listed for them. -/
def invokeClass (m : MethodRef) (receiver : Option Value) (args : List Value) : HostStep Value := do
  let name := (receiver.bind Value.asClass?).getD ""
  match m.name with
  | "forName" => loadClass (← stringAt args 0)
  | "getClassLoader" => return .object classLoaderType
  | "getDeclaredConstructors" =>
    makeMembers (((← hosted receiver).map HostedClass.constructorMembers).getD [])
  | "getDeclaredMethods" =>
    makeMembers (((← hosted receiver).map HostedClass.methodMembers).getD [])
  | "getDeclaredFields" =>
    makeMembers (((← hosted receiver).map HostedClass.fieldMembers).getD [])
  | "getDeclaredConstructor" =>
    let params ← classesAt args 0
    if (← hosted receiver).any (·.constructors.contains params) then
      return .member (.constructor name params)
    else throw (.noSuchMethod name (Catalogue.signatureText constructorName params))
  | "getDeclaredMethod" =>
    let sought ← stringAt args 0
    let params ← classesAt args 1
    let found := match ← hosted receiver with
      | some h => h.methods.contains (sought, params)
      | none => Catalogue.isPlatformClass name
    if found then return .member (.method name sought params)
    else throw (.noSuchMethod name (Catalogue.signatureText sought params))
  | "getDeclaredField" =>
    let sought ← stringAt args 0
    let found := match ← hosted receiver with
      | some h => h.fields.contains sought
      | none => Catalogue.isPlatformClass name
    if found then return .member (.field name sought) else throw (.noSuchField name sought)
  | "getModifiers" => return .int (HostedClass.modifiers (← hosted receiver))
  | _ => throw (unsupported m)

/-- Registrations, whose form the parameter types tell. -/
def invokeRegistry (registry : Registry) (m : MethodRef) (args : List Value) : HostStep Value := do
  if m.params = [classArrayType] then
    let classes ← classesAt args 0
    record (.registerClasses registry classes)
  else if m.params = [executableArrayType] then
    let members ← membersAt args 0
    record (.registerExecutables registry members)
  else if m.params = [booleanType, booleanType, fieldArrayType] then
    let writable ← boolAt args 0
    let serialization ← boolAt args 1
    let fields ← membersAt args 2
    record (.registerFields registry fields writable serialization)
  else if m.params = [booleanType, fieldArrayType] then
    let writable ← boolAt args 0
    let fields ← membersAt args 1
    record (.registerFields registry fields writable false)
  else if m.params = [fieldArrayType] then
    let fields ← membersAt args 0
    record (.registerFields registry fields false false)
  else throw (unsupported m)

/-- Calls of methods that were found by reflection. -/
def invokeFound (receiver : Option Value) (args : List Value) : HostStep Value := do
  let found ← receiverIs "a method receiver" Value.asMethod? receiver
  if found = (localizationFeatureType, addBundleToCache) then
    let passed ← elementsAt args 1
    let bundle ← decode fun s => bundleName s passed
    if (← catalogue).bundles.contains bundle then record (.resourceBundle bundle)
    else throw ⟨"java.util.MissingResourceException", "Can't find bundle for base name " ++ bundle⟩
  else if found = (constructorType, getConstructorAccessor) then
    return .object "jdk.internal.reflect.ConstructorAccessor"
  else return .null

/-- The instance that is kept of a type. -/
def lookup (args : List Value) : HostStep Value := do
  let type ← classAt args 0
  if (← catalogue).missingSingletons.contains type then
    throw ⟨"java.lang.IllegalStateException", "no singleton registered for " ++ type⟩
  else return .object type

/-- Classes or packages, as the first parameter type tells; elements of another kind are left
out. -/
def initializeAtRunTime (m : MethodRef) (args : List Value) : HostStep Value := do
  let values ← elementsAt args 0
  if m.params.head? = some stringArrayType then
    record (.initializePackagesAtRunTime (values.filterMap Value.asStr?))
  else record (.initializeAtRunTime (values.filterMap Value.asClass?))

def getCipher (args : List Value) : HostStep Value := do
  let transformation ← stringAt args 0
  if (← catalogue).ciphers.contains transformation then
    let _ ← record (.cipherRequested transformation)
    return .object cipherType
  else throw ⟨"java.security.NoSuchAlgorithmException", transformation⟩

/-- A call of a method, which is told by its owner and name. -/
def invoke (m : MethodRef) (receiver : Option Value) (args : List Value) : HostStep Value :=
  let isMethod (api : MethodRef) : Bool := m.named api.owner api.name
  if m.owner = classType then invokeClass m receiver args
  else if isMethod currentThread then return .object threadType
  else if isMethod getContextClassLoader then return .object classLoaderType
  else if isMethod isAbstract then do
    let word ← viewAt args 0 "int modifiers" Value.asInt?
    return .bool (word &&& 0x0400 != 0)
  else if isMethod printStackTrace then do
    let fault ← receiverIs "a throwable receiver" Value.asThrowable? receiver
    record (.failureReported fault)
  else if isMethod imageSingletonsLookup then lookup args
  else if isMethod registerAsUnsafeAccessed then do
    let (declaringClass, name) ← viewAt args 0 "a field" Value.asField?
    record (.unsafeAccessed declaringClass name)
  else if isMethod initializeClassesAtRunTime then initializeAtRunTime m args
  else if isMethod rerunInitialization then do
    let class_ ← classAt args 0
    let originator ← stringAt args 1
    record (.rerunInitialization class_ originator)
  else if isMethod listAdd then do
    let cell ← receiverIs "a list receiver" Value.asList? receiver
    let value ← anyAt args 0
    modify fun w => { w with store := w.store.append cell value }
    return .bool true
  else if isMethod listToArray then do
    let cell ← receiverIs "a list receiver" Value.asList? receiver
    makeArray ((← get).store.elements cell)
  else if isMethod addProxyClass then do
    let interfaces ← classesAt args 0
    record (.proxyClass interfaces)
  else if isMethod registerResources then do
    let path ← stringAt args 0
    record (.resource path)
  else if isMethod ignoreResources then do
    let pattern ← stringAt args 0
    record (.resourcePatternExcluded pattern)
  else if isMethod addResources then do
    let pattern ← stringAt args 0
    record (.resourcePatternIncluded pattern)
  else if isMethod setAccessible then return .null
  else if isMethod methodInvoke then invokeFound receiver args
  else if isMethod cipherGetInstance then getCipher args
  else if isMethod reflectionRegisterClasses then invokeRegistry .reflection m args
  else if isMethod jniRegisterClasses then invokeRegistry .jni m args
  else if isMethod singletonList then do
    let value ← anyAt args 0
    makeList [value]
  else if isMethod getReflectionFactory then return .object reflectionFactoryType
  else if isMethod newConstructorForSerialization then do
    let declaringClass ← classAt args 0
    return .member (.constructor declaringClass [])
  else if isMethod getDeclaringClass then do
    let declaringClass ← receiverIs "a constructor receiver" Value.asConstructor? receiver
    return .classRef declaringClass
  else if isMethod lookupMethod then do
    let declaringClass ← classAt args 0
    let name ← stringAt args 1
    let params ← classesAt args 2
    return .member (.method declaringClass name params)
  else if isMethod addConstructorAccessor then do
    let class_ ← classAt args 0
    let constructorClass ← classAt args 1
    record (.constructorAccessor class_ constructorClass)
  else if isMethod addReflections then do
    let class_ ← classAt args 0
    let objectClass ← classAt args 1
    record (.serializationReflections class_ objectClass)
  else throw (unsupported m)

/-- The answer of a step, and the world as it is then. -/
def reply (step : HostStep Value) (w : World Recorder) : Reply Recorder := step.run.run w

end HostStep

/-- The recording host; the kind of a call makes no difference to it. -/
def Recorder.host : Host Recorder where
  loadClass name := (HostStep.loadClass name).reply
  newInstance name := (HostStep.newInstance name).reply
  invoke _ m receiver args := (HostStep.invoke m receiver args).reply

/-- How deep the own routines of a unit may call each other. -/
def callDepth : Nat := 10000

/-- Runs the entry point of a unit, with an object that stands in for the builder's access. -/
def CodeUnit.runEntryPoint (u : CodeUnit) (w : World Recorder) : Outcome × World Recorder :=
  u.run Recorder.host callDepth entryPointHead.name [.object Platform.beforeAnalysisAccessType] w

end Registrar
