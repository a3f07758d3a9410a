import Registrar.Proofs.Recording.Following

/-! What the recording host answers to the requests of generated code. -/
namespace Registrar

open Platform

/-! ### Arguments that are arrays -/

/-- A view that gives back what a value was made from. -/
theorem mapM_expect {α : Type} {s : Store} {expected : String} {view : Value → Option α}
    (make : α → Value) (back : ∀ a, view (make a) = some a) (as : List α) :
    (as.map make).mapM (expect s expected view) = .ok as := by
  induction as with
  | nil => rfl
  | cons a as ih =>
    have first : expect s expected view (make a) = .ok a := by rw [expect, back]
    rw [List.map_cons, List.mapM_cons, first]
    simp only [bind, Except.bind, ih]
    rfl

section

variable {α : Type} {s : Store} {args : List Value} {index : Nat} {a : Value}
variable (passed : args[index]? = some a)

include passed

theorem elementsArgument_of_holds {xs : List Value} (held : s.Holds a xs) :
    elementsArgument s args index = .ok xs := by
  simp only [elementsArgument, argument, passed, bind, Except.bind, expect, held.elements?]

/-! A call that asks for such an argument goes on with what the array holds. -/

theorem elementsArgument_bind {xs : List Value} (held : s.Holds a xs)
    (next : List Value → Except Fault α) : elementsArgument s args index >>= next = next xs := by
  rw [elementsArgument_of_holds passed held]
  rfl

theorem classesArgument_bind {names : List String} (held : s.Holds a (names.map .classRef))
    (next : List String → Except Fault α) : classesArgument s args index >>= next = next names := by
  have decoded : classesArgument s args index = .ok names := by
    rw [classesArgument, elementsArgument_of_holds passed held]
    exact mapM_expect Value.classRef (fun _ => rfl) names
  rw [decoded]
  rfl

theorem membersArgument_bind {ms : List Member} (held : s.Holds a (ms.map .member))
    (next : List Member → Except Fault α) : membersArgument s args index >>= next = next ms := by
  have decoded : membersArgument s args index = .ok ms := by
    rw [membersArgument, elementsArgument_of_holds passed held]
    exact mapM_expect Value.member (fun _ => rfl) ms
  rw [decoded]
  rfl

end

/-! ### What the host answers -/

/-- The type whose methods register something there. -/
def Registry.type : Registry → String
  | .reflection => runtimeReflectionType
  | .jni => jniRuntimeAccessType

namespace Catalogue

variable (c : Catalogue) {s : Store} {a : Value}

/-- The owner of a method tells the registry, and its parameters what is registered. -/
theorem respond_register (registry : Registry) (params : List String) (args : List Value) :
    c.respond s ⟨registry.type, "register", params, void⟩ none args =
      invokeRegistry s registry ⟨registry.type, "register", params, void⟩ args := by
  cases registry <;> rfl

section

variable (registry : Registry) (ms : List Member) (held : s.Holds a (ms.map .member))

include held

theorem respond_registerExecutables :
    c.respond s ⟨registry.type, "register", [executableArrayType], void⟩ none [a] =
      Response.record (.registerExecutables registry ms) :=
  (respond_register ..).trans (membersArgument_bind rfl held _)

theorem respond_registerFields :
    c.respond s ⟨registry.type, "register", [fieldArrayType], void⟩ none [a] =
      Response.record (.registerFields registry ms false false) :=
  (respond_register ..).trans (membersArgument_bind rfl held _)

theorem respond_registerFieldsWithFlag (writable : Bool) :
    c.respond s ⟨registry.type, "register", [booleanType, fieldArrayType], void⟩ none
        [.bool writable, a] =
      Response.record (.registerFields registry ms writable false) :=
  (respond_register ..).trans (membersArgument_bind rfl held _)

theorem respond_registerFieldsWithFlags (writable serialization : Bool) :
    c.respond s ⟨registry.type, "register", [booleanType, booleanType, fieldArrayType], void⟩ none
        [.bool writable, .bool serialization, a] =
      Response.record (.registerFields registry ms writable serialization) :=
  (respond_register ..).trans (membersArgument_bind rfl held _)

end

section

variable (registry : Registry) (names : List String) (held : s.Holds a (names.map .classRef))

include held

theorem respond_registerClasses :
    c.respond s ⟨registry.type, "register", [classArrayType], void⟩ none [a] =
      Response.record (.registerClasses registry names) :=
  (respond_register ..).trans (classesArgument_bind rfl held _)

theorem respond_getDeclaredConstructor (className : String) :
    c.respond s getDeclaredConstructor (some (.classRef className)) [a] =
      if c.hasConstructor className names then
        Response.answer (.member (.constructor className names))
      else .error (.noSuchMethod className (signatureText constructorName names)) :=
  classesArgument_bind rfl held _

theorem respond_getDeclaredMethod (className name : String) :
    c.respond s getDeclaredMethod (some (.classRef className)) [.str name, a] =
      if c.hasMethod className name names then
        Response.answer (.member (.method className name names))
      else .error (.noSuchMethod className (signatureText name names)) :=
  classesArgument_bind rfl held _

end

theorem respond_lookupMethod (names : List String) (held : s.Holds a (names.map .classRef))
    (className name : String) :
    c.respond s lookupMethod none [.classRef className, .str name, a] =
      Response.answer (.member (.method className name names)) :=
  classesArgument_bind rfl held _

theorem respond_getDeclaredField (className name : String) :
    c.respond s getDeclaredField (some (.classRef className)) [.str name] =
      if c.hasField className name then Response.answer (.member (.field className name))
      else .error (.noSuchField className name) := rfl

/-- The host answers with a modifier word, whose bit for abstract classes is tested. -/
theorem respond_isAbstract (s : Store) (name : String) :
    c.respond s Platform.isAbstract none [.int (HostedClass.modifiers (c.class? name))] =
      Response.answer (.bool (c.isAbstractClass name)) := by
  have bit : (HostedClass.modifiers (c.class? name) &&& 0x0400 != 0) = c.isAbstractClass name := by
    unfold HostedClass.modifiers Catalogue.isAbstractClass
    cases (c.class? name).any (·.isAbstract) <;> decide
  exact congrArg (fun abstract_ => Response.answer (.bool abstract_)) bit

section

variable (names : List String)

theorem respond_initializeClasses (held : s.Holds a (names.map .classRef)) :
    c.respond s initializeClassesAtRunTime none [a] =
      Response.record (.initializeAtRunTime names) := by
  have views : (names.map Value.classRef).filterMap Value.asClass? = names := by
    rw [List.filterMap_map]
    exact List.filterMap_some
  refine (elementsArgument_bind rfl held _).trans ?_
  exact congrArg (Response.record ∘ .initializeAtRunTime) views

theorem respond_initializePackages (held : s.Holds a (names.map .str)) :
    c.respond s initializePackagesAtRunTime none [a] =
      Response.record (.initializePackagesAtRunTime names) := by
  have views : (names.map Value.str).filterMap Value.asStr? = names := by
    rw [List.filterMap_map]
    exact List.filterMap_some
  refine (elementsArgument_bind rfl held _).trans ?_
  exact congrArg (Response.record ∘ .initializePackagesAtRunTime) views

theorem respond_addProxyClass (held : s.Holds a (names.map .classRef)) (registry : Value) :
    c.respond s addProxyClass (some registry) [a] = Response.record (.proxyClass names) :=
  classesArgument_bind rfl held _

theorem respond_addBundle {name : String} (held : s.Holds a [.str name]) (support : Value) :
    c.respond s methodInvoke
      (some (.member (.method localizationFeatureType addBundleToCache [stringType])))
      [support, a] =
      if c.bundles.contains name then Response.record (.resourceBundle name)
      else .error ⟨"java.util.MissingResourceException",
        "Can't find bundle for base name " ++ name⟩ :=
  elementsArgument_bind rfl held _

theorem respond_cipherGetInstance (s : Store) (transformation : String) :
    c.respond s cipherGetInstance none [.str transformation] =
      if c.ciphers.contains transformation then
        .ok (.record (.cipherRequested transformation) (.object cipherType))
      else .error ⟨"java.security.NoSuchAlgorithmException", transformation⟩ := rfl

end

end Catalogue
end Registrar
