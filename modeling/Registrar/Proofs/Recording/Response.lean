import Registrar.Recording.Host

/-! What a call of a recording host comes to: a fault, which changes nothing, or the one effect that
the call has. -/
namespace Registrar

open Platform

/-- What a call that succeeds does. -/
inductive Effect where
  | answer (value : Value)
  /-- Notes an event and answers. -/
  | record (event : Event) (value : Value)
  | makeArray (values : List Value)
  | makeList (values : List Value)
  /-- Adds to a list and answers true. -/
  | append (cell : Nat) (value : Value)
  deriving DecidableEq

/-- The answer to a call. -/
abbrev Response := Except Fault Effect

namespace Response

def answer (value : Value) : Response := .ok (.answer value)
def record (event : Event) : Response := .ok (.record event .null)
def members (ms : List Member) : Response := .ok (.makeArray (ms.map .member))

end Response

namespace Catalogue

variable (c : Catalogue) (s : Store)

def loadClass (name : String) : Response :=
  if c.knows name then Response.answer (.classRef name) else .error (.classNotFound name)

/-- A new list, or something of a known type. -/
def newInstance (name : String) : Response :=
  if name = arrayListType then .ok (.makeList [])
  else if c.knows name then Response.answer (.object name)
  else .error (.classNotFound name)

/-- The class of the application that receives a call; no such class if it is one of the
platform. -/
def hosted (receiver : Option Value) : Except Fault (Option HostedClass) := do
  return c.class? (← receiverAs s "a class receiver" Value.asClass? receiver)

/-- Calls of the methods of classes. Platform classes have whatever methods and fields are asked
for by name, but no members are listed for them. -/
def invokeClass (m : MethodRef) (receiver : Option Value) (args : List Value) : Response := do
  let name := ((receiver.bind Value.asClass?).getD "")
  match m.name with
  | "forName" => c.loadClass (← stringArgument s args 0)
  | "getClassLoader" => Response.answer (.object classLoaderType)
  | "getDeclaredConstructors" =>
    Response.members (((← c.hosted s receiver).map HostedClass.constructorMembers).getD [])
  | "getDeclaredMethods" =>
    Response.members (((← c.hosted s receiver).map HostedClass.methodMembers).getD [])
  | "getDeclaredFields" =>
    Response.members (((← c.hosted s receiver).map HostedClass.fieldMembers).getD [])
  | "getDeclaredConstructor" =>
    let params ← classesArgument s args 0
    if (← c.hosted s receiver).any (·.constructors.contains params) then
      Response.answer (.member (.constructor name params))
    else .error (.noSuchMethod name (signatureText constructorName params))
  | "getDeclaredMethod" =>
    let sought ← stringArgument s args 0
    let params ← classesArgument s args 1
    let found := match ← c.hosted s receiver with
      | some h => h.methods.contains (sought, params)
      | none => isPlatformClass name
    if found then Response.answer (.member (.method name sought params))
    else .error (.noSuchMethod name (signatureText sought params))
  | "getDeclaredField" =>
    let sought ← stringArgument s args 0
    let found := match ← c.hosted s receiver with
      | some h => h.fields.contains sought
      | none => isPlatformClass name
    if found then Response.answer (.member (.field name sought))
    else .error (.noSuchField name sought)
  | "getModifiers" => Response.answer (.int (HostedClass.modifiers (← c.hosted s receiver)))
  | _ => .error (unsupported m)

/-- Registrations, whose form the parameter types tell. -/
def invokeRegistry (registry : Registry) (m : MethodRef) (args : List Value) : Response := do
  if m.params = [classArrayType] then
    Response.record (.registerClasses registry (← classesArgument s args 0))
  else if m.params = [executableArrayType] then
    Response.record (.registerExecutables registry (← membersArgument s args 0))
  else if m.params = [booleanType, booleanType, fieldArrayType] then
    let writable ← boolArgument s args 0
    let serialization ← boolArgument s args 1
    let fields ← membersArgument s args 2
    Response.record (.registerFields registry fields writable serialization)
  else if m.params = [booleanType, fieldArrayType] then
    let writable ← boolArgument s args 0
    let fields ← membersArgument s args 1
    Response.record (.registerFields registry fields writable false)
  else if m.params = [fieldArrayType] then
    Response.record (.registerFields registry (← membersArgument s args 0) false false)
  else .error (unsupported m)

/-- Calls of methods that were found by reflection. -/
def invokeFound (receiver : Option Value) (args : List Value) : Response := do
  let found ← receiverAs s "a method receiver" Value.asMethod? receiver
  if found = (localizationFeatureType, addBundleToCache) then
    let passed ← elementsArgument s args 1
    let bundle ← bundleName s passed
    if c.bundles.contains bundle then Response.record (.resourceBundle bundle)
    else .error ⟨"java.util.MissingResourceException",
      "Can't find bundle for base name " ++ bundle⟩
  else if found = (constructorType, getConstructorAccessor) then
    Response.answer (.object "jdk.internal.reflect.ConstructorAccessor")
  else Response.answer .null

/-- The instance that is kept of a type. -/
def lookup (args : List Value) : Response := do
  let type ← classArgument s args 0
  if c.missingSingletons.contains type then
    .error ⟨"java.lang.IllegalStateException", "no singleton registered for " ++ type⟩
  else Response.answer (.object type)

/-- Classes or packages, as the first parameter type tells; elements of another kind are left
out. -/
def initializeAtRunTime (m : MethodRef) (args : List Value) : Response := do
  let values ← elementsArgument s args 0
  if m.params.head? = some stringArrayType then
    Response.record (.initializePackagesAtRunTime (values.filterMap Value.asStr?))
  else Response.record (.initializeAtRunTime (values.filterMap Value.asClass?))

def getCipher (args : List Value) : Response := do
  let transformation ← stringArgument s args 0
  if c.ciphers.contains transformation then
    .ok (.record (.cipherRequested transformation) (.object cipherType))
  else .error ⟨"java.security.NoSuchAlgorithmException", transformation⟩

def isAbstract (args : List Value) : Response := do
  let word ← argument s args 0 >>= expect s "int modifiers" Value.asInt?
  Response.answer (.bool (word &&& 0x0400 != 0))

/-- Answers a call of a method, which is told by its owner and name. -/
def respond (m : MethodRef) (receiver : Option Value) (args : List Value) : Response :=
  let isMethod (api : MethodRef) : Bool := m.named api.owner api.name
  if m.owner = classType then c.invokeClass s m receiver args
  else if isMethod currentThread then Response.answer (.object threadType)
  else if isMethod getContextClassLoader then Response.answer (.object classLoaderType)
  else if isMethod Platform.isAbstract then isAbstract s args
  else if isMethod printStackTrace then do
    let f ← receiverAs s "a throwable receiver" Value.asThrowable? receiver
    Response.record (.failureReported f)
  else if isMethod imageSingletonsLookup then c.lookup s args
  else if isMethod registerAsUnsafeAccessed then do
    let (declaringClass, name) ← argument s args 0 >>= expect s "a field" Value.asField?
    Response.record (.unsafeAccessed declaringClass name)
  else if isMethod initializeClassesAtRunTime then initializeAtRunTime s m args
  else if isMethod rerunInitialization then do
    let class_ ← classArgument s args 0
    let originator ← stringArgument s args 1
    Response.record (.rerunInitialization class_ originator)
  else if isMethod listAdd then do
    let cell ← receiverAs s "a list receiver" Value.asList? receiver
    return .append cell (← argument s args 0)
  else if isMethod listToArray then do
    let cell ← receiverAs s "a list receiver" Value.asList? receiver
    return .makeArray (s.elements cell)
  else if isMethod addProxyClass then do Response.record (.proxyClass (← classesArgument s args 0))
  else if isMethod registerResources then do Response.record (.resource (← stringArgument s args 0))
  else if isMethod ignoreResources then do
    Response.record (.resourcePatternExcluded (← stringArgument s args 0))
  else if isMethod addResources then do
    Response.record (.resourcePatternIncluded (← stringArgument s args 0))
  else if isMethod setAccessible then Response.answer .null
  else if isMethod methodInvoke then c.invokeFound s receiver args
  else if isMethod cipherGetInstance then c.getCipher s args
  else if isMethod reflectionRegisterClasses then invokeRegistry s .reflection m args
  else if isMethod jniRegisterClasses then invokeRegistry s .jni m args
  else if isMethod singletonList then do return .makeList [← argument s args 0]
  else if isMethod getReflectionFactory then Response.answer (.object reflectionFactoryType)
  else if isMethod newConstructorForSerialization then do
    Response.answer (.member (.constructor (← classArgument s args 0) []))
  else if isMethod getDeclaringClass then do
    let declaringClass ← receiverAs s "a constructor receiver" Value.asConstructor? receiver
    Response.answer (.classRef declaringClass)
  else if isMethod lookupMethod then do
    let declaringClass ← classArgument s args 0
    let name ← stringArgument s args 1
    let params ← classesArgument s args 2
    Response.answer (.member (.method declaringClass name params))
  else if isMethod addConstructorAccessor then do
    let class_ ← classArgument s args 0
    let constructorClass ← classArgument s args 1
    Response.record (.constructorAccessor class_ constructorClass)
  else if isMethod addReflections then do
    let class_ ← classArgument s args 0
    let objectClass ← classArgument s args 1
    Response.record (.serializationReflections class_ objectClass)
  else .error (unsupported m)

end Catalogue

namespace Recorder

/-- Carries out what a call does. -/
def apply (w : World Recorder) : Effect → Value × World Recorder
  | .answer value => (value, w)
  | .record event value => (value, { w with host.events := w.host.events ++ [event] })
  | .makeArray values =>
    let (cell, store) := w.store.alloc values
    (.array cell, { w with store })
  | .makeList values =>
    let (cell, store) := w.store.alloc values
    (.list cell, { w with store })
  | .append cell value => (.bool true, { w with store := w.store.append cell value })

def reply (response : Response) (w : World Recorder) : Reply Recorder :=
  match response with
  | .error f => (.error f, w)
  | .ok effect =>
    let (value, w) := apply w effect
    (.ok value, w)

end Recorder

end Registrar
