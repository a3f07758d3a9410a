import Registrar.Proofs.Running.Safety
import Registrar.Proofs.Tracing.Trace

/-! Inquiries: questions that are asked one after the other, where each may depend on the answers
before it. A fault ends an inquiry. Every worker begins with one, by which it gets to know its class,
and none of these questions registers anything. -/
namespace Registrar

open Platform

variable {σ : Type} {α : Type}

/-- What is to be asked, and what to ask next when it is answered. -/
inductive Inquiry where
  | done
  | ask (question : Question) (next : Value → Inquiry)

namespace Inquiry

/-- The steps in which an inquiry is made, and what comes of it. -/
inductive Goes : Inquiry → List Step → Except Fault Unit → Prop
  | done : Goes done [] (.ok ())
  | answered {question : Question} {next : Value → Inquiry} {v : Value} {steps : List Step}
      {outcome : Except Fault Unit} (rest : Goes (next v) steps outcome) :
      Goes (ask question next) (.asked question (.ok v) :: steps) outcome
  | broken {question : Question} {next : Value → Inquiry} (f : Fault) :
      Goes (ask question next) [.asked question (.error f)] (.error f)

/-- None of the questions is of this kind, whatever is answered. -/
def Avoids (kind : Question → Prop) : Inquiry → Prop
  | done => True
  | ask question next => ¬kind question ∧ ∀ v, Avoids kind (next v)

theorem Goes.avoids {kind : Question → Prop} {i : Inquiry} {steps : List Step}
    {outcome : Except Fault Unit} (h : i.Goes steps outcome) (avoids : i.Avoids kind)
    {question : Question} {answer : Except Fault Value} (asked : .asked question answer ∈ steps) :
    ¬kind question := by
  induction h with
  | done => cases asked
  | answered _ ih =>
    rcases List.mem_cons.1 asked with first | later
    · cases first
      exact avoids.1
    · exact ih (avoids.2 _) later
  | broken f =>
    cases List.mem_singleton.1 asked
    exact avoids.1

end Inquiry

/-! ### Actions that inquire -/

namespace Action

/-- The action is this inquiry, and stops only with a fault that comes of it. -/
def Inquires (i : Inquiry) (d : Action (Watched σ) α) : Prop :=
  ∀ w, ∃ steps, (d w).2.host.steps = w.host.steps ++ steps ∧
    match (d w).1 with
    | .ok _ => i.Goes steps (.ok ())
    | .error (.fault f) => i.Goes steps (.error f)
    | .error .stuck => False

namespace Inquires

theorem done (a : α) : Inquires .done (pure a : Action (Watched σ) α) :=
  fun _ => ⟨[], (List.append_nil _).symm, .done⟩

theorem ask {question : Question} {ask : World σ → Reply σ} {next : Value → Inquiry}
    {g : Value → Action (Watched σ) α} (rest : ∀ v, Inquires (next v) (g v)) :
    Inquires (.ask question next) (Action.ask (Host.watch question ask) >>= g) := by
  intro w
  rcases answered : ask w.unwatched with ⟨f | v, x⟩
  · have first : Action.ask (Host.watch question ask) w = (.error (.fault f),
        x.watched (w.host.steps ++ [.asked question (.error f)])) := by
      simp only [Action.ask, Host.watch, answered]
    rw [bind_apply_of_error first]
    exact ⟨_, rfl, .broken f⟩
  · have first : Action.ask (Host.watch question ask) w = (.ok v,
        x.watched (w.host.steps ++ [.asked question (.ok v)])) := by
      simp only [Action.ask, Host.watch, answered]
    obtain ⟨steps, seen, outcome⟩ := rest v (x.watched (w.host.steps ++ [.asked question (.ok v)]))
    rw [bind_apply_of_ok first]
    refine ⟨.asked question (.ok v) :: steps, ?_, ?_⟩
    · rw [seen]
      exact List.append_assoc ..
    · split at outcome
      · exact .answered outcome
      · exact .answered outcome
      · exact outcome

end Inquires
end Action

/-! ### Getting to know a class -/

/-- The class is found through the loader of the thread, then its members are listed. Who wants to
serialize it looks for the root class as well. -/
def introspection (className : String) (serialized : Bool) : Inquiry :=
  .ask (.invoke .static currentThread none []) fun thread =>
  .ask (.invoke .virtual getContextClassLoader (some thread) []) fun loader =>
  .ask (.invoke .static forNameWithLoader none [.str className, .bool false, loader]) fun class_ =>
  .ask (.invoke .virtual getDeclaredConstructors (some class_) []) fun _ =>
  .ask (.invoke .virtual getDeclaredMethods (some class_) []) fun _ =>
  .ask (.invoke .virtual getDeclaredFields (some class_) []) fun _ =>
  if serialized then
    .ask (.invoke .static forNameWithLoader none [.str objectType, .bool false, loader]) fun _ =>
    .done
  else .done

/-- The methods that register something for reflection, for native code or for serialization. -/
def MethodRef.registers (m : MethodRef) : Bool :=
  m.named runtimeReflectionType "register" || m.named jniRuntimeAccessType "register" ||
    m.named serializationSupportType "addConstructorAccessor" ||
    m.named serializationFeatureType "addReflections"

/-- The host is to register something. -/
def Question.Registers : Question → Prop
  | .invoke _ m _ _ => m.registers = true
  | _ => False

theorem introspection_avoids_registering (className : String) (serialized : Bool) :
    (introspection className serialized).Avoids Question.Registers := by
  have harmless : ∀ m ∈ [currentThread, getContextClassLoader, forNameWithLoader,
      getDeclaredConstructors, getDeclaredMethods, getDeclaredFields], ¬m.registers = true := by
    decide
  simp only [List.forall_mem_cons] at harmless
  obtain ⟨thread, loader, find, constructors, methods, fields, -⟩ := harmless
  refine ⟨thread, fun _ => ⟨loader, fun _ => ⟨find, fun _ => ⟨constructors, fun _ => ⟨methods,
    fun _ => ⟨fields, fun _ => ?_⟩⟩⟩⟩⟩⟩
  cases serialized
  · trivial
  · exact ⟨find, fun _ => trivial⟩

/-- What a class worker and a JNI worker begin with: the class, its members, and the root class if
it is wanted. -/
def Emission.introspect (className : String) (serialized : Bool) :
    Emission (ValueId × Members × Option ValueId) := do
  let (class_, loader) ← Emission.resolveClass className
  let members ← Members.fetch class_
  if serialized then
    let objectClass ← Emission.findClass objectType loader
    return (class_, members, some objectClass)
  else return (class_, members, none)

namespace Setting

/-- The same in direct style; what is found is not handed on. -/
def introspect (e : Setting σ) (className : String) (serialized : Bool) : Action σ Unit := do
  let (class_, loader) ← e.resolveClass className
  let _ ← e.fetchMembers class_
  if serialized then discard (e.findClass objectType loader) else pure ()

theorem introspect_inquires {host : Host σ} {self : String}
    (unowned : self ∉ methods.map (·.owner)) (className : String) (serialized : Bool) :
    ((⟨host.watched, self⟩ : Setting (Watched σ)).introspect className serialized).Inquires
      (introspection className serialized) := by
  have static := fun {m} (platform : m ∈ methods) (args : List Value) =>
    callStatic_eq (e := (⟨host.watched, self⟩ : Setting (Watched σ))) unowned platform args
  unfold introspect resolveClass fetchMembers findClass
  simp only [bind_assoc, pure_bind, static (by simp [methods] : currentThread ∈ methods),
    static (by simp [methods] : forNameWithLoader ∈ methods)]
  refine .ask fun thread => .ask fun loader => .ask fun class_ => .ask fun _ => .ask fun _ =>
    .ask fun _ => ?_
  cases serialized
  · exact .done ()
  · exact .ask fun _ => .done ()

end Setting

namespace Emission

theorem consists_introspect (className : String) (serialized : Bool) :
    Consists (Operation.Usual fun _ => True) 11 (introspect className serialized) := by
  refine .bind (k := 6) (.resolveClass className) fun found => ?_
  refine .bind (k := 3) (.fetchMembers found.1) fun members => ?_
  cases serialized
  · exact (Consists.done _).atMost (by decide)
  · exact .bind (.findClass _ _) fun _ => .done _

theorem performs_introspect {env : Context σ} (hidden : env.Hides) {s : Site} (className : String)
    (serialized : Bool) :
    Performs env s (introspect className serialized)
      (env.setting.introspect className serialized) s unrelated := by
  refine .bind le_rfl (.resolveClass hidden className) fun t found x keep held => ?_
  refine .bind keep (.fetchMembers held.1) fun u _ _ keep' _ => ?_
  cases serialized
  · exact .done (keep.trans keep') trivial
  · refine .bind (keep.trans keep') (.findClass hidden objectType (held.2.mono keep'))
      fun r _ _ keep'' _ => .done (keep.trans (keep'.trans keep'')) trivial

end Emission

/-! ### What workers begin with -/

theorem ClassRecord.register_introspects (r : ClassRecord) :
    ∃ rest, r.register =
      Emission.introspect r.className r.capabilities.serialization >>= rest := by
  refine ⟨fun found => do
    register.registerMembers r found.1 found.2.1
    found.2.2.elim (pure ()) (addAccessor found.1), ?_⟩
  unfold register Emission.introspect
  cases r.capabilities.serialization <;> simp [bind_assoc]

theorem JniRecord.register_introspects (r : JniRecord) :
    ∃ rest, r.register = Emission.introspect r.className false >>= rest := by
  refine ⟨fun found => do
    registerOne jniRegisterClasses classType found.1
    if r.constructors then
      discard (Emit.invokeStatic jniRegisterExecutables [found.2.1.constructors])
    if r.methods then discard (Emit.invokeStatic jniRegisterExecutables [found.2.1.methods])
    if r.fields then
      let writable ← Emit.bool r.finalFieldsWritable
      discard (Emit.invokeStatic jniRegisterFields [writable, found.2.1.fields]), ?_⟩
  simp [register, Emission.introspect, bind_assoc]

end Registrar
