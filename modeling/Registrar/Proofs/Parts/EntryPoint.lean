import Registrar.Proofs.Parts.Access
import Registrar.Proofs.Parts.Initialization
import Registrar.Proofs.Parts.Resources
import Registrar.Proofs.Parts.Worker

/-! The entry point of a unit: all categories one after the other, the workers, and the application
class. -/
namespace Registrar

open Platform

variable {σ : Type}

/-! ### In direct style -/

namespace Setting

open Registrar.Action

variable (e : Setting σ)

/-- What the workers do, in the order in which they are called. -/
def workers (p : Plan) (o : Options) : List (Action σ Unit) :=
  p.classes.records.map (fun r => e.isolated o.workerOnFault (e.registerClass r)) ++
    p.jniClasses.map fun r => e.isolated o.workerOnFault (e.registerJniClass r)

/-- All registrations, in the order of the categories. -/
def registerAll (p : Plan) (o : Options) (access : Value) : Action σ Unit := do
  p.unsafeAccessedFields.forM (e.registerUnsafe access)
  e.initializeClasses p.runtimeInitializedClasses
  e.initializePackages p.runtimeInitializedPackages
  e.reinitializeClasses p.runtimeReinitializedClasses o.originator
  e.addProxies p.proxyDefinitions
  (p.resources ++ p.serviceDescriptors).forM e.registerResource
  e.addResourcePatterns p.resourcePatterns
  e.addResourceBundles p.resourceBundles
  p.cipherTransformations.toList.forM e.requestCipher
  (e.workers p o).forM id

def enter (p : Plan) (o : Options) (access : Value) : Action σ Unit := do
  e.isolated .report (e.registerAll p o access)
  discard (e.loadClass o.applicationClass)

/-- The registrations that need no worker, in the order of the categories. -/
def registerGeneral (p : Plan) (o : Options) (access : Value) : Action σ Unit := do
  p.unsafeAccessedFields.forM (e.registerUnsafe access)
  e.initializeClasses p.runtimeInitializedClasses
  e.initializePackages p.runtimeInitializedPackages
  e.reinitializeClasses p.runtimeReinitializedClasses o.originator
  e.addProxies p.proxyDefinitions
  (p.resources ++ p.serviceDescriptors).forM e.registerResource
  e.addResourcePatterns p.resourcePatterns
  e.addResourceBundles p.resourceBundles
  p.cipherTransformations.toList.forM e.requestCipher

/-- The entry point when calling a worker is one of these. -/
def enterCalling (p : Plan) (o : Options) (access : Value) (calls : List (Action σ Value)) :
    Action σ Unit := do
  e.isolated .report do
    e.registerGeneral p o access
    calls.forM fun call => discard call
  discard (e.loadClass o.applicationClass)

end Setting

/-- What an own routine gives back is not used. -/
theorem discard_then (d : Action σ Unit) : discard (do d; return Value.null) = d := by
  simp [discard, Functor.discard, LawfulFunctor.map_const]

namespace Setting

variable (e : Setting σ)

/-- Calling a worker is doing what it does. -/
theorem enter_eq (p : Plan) (o : Options) (access : Value) :
    e.enter p o access =
      e.enterCalling p o access ((e.workers p o).map fun d => do d; return .null) := by
  simp only [enter, registerAll, enterCalling, registerGeneral, List.forM_eq_forM, bind_assoc,
    List.forM_map, discard_then]
  rfl

namespace Composes

variable {e}

theorem registerGeneral (p : Plan) (o : Options) (access : Value) :
    e.Composes (e.registerGeneral p o access) :=
  bind (forM _ fun f => registerUnsafe access f) fun _ => bind (initializeClasses _) fun _ =>
    bind (initializePackages _) fun _ => bind (reinitializeClasses _ _) fun _ =>
    bind (addProxies _) fun _ => bind (forM _ fun path => registerResource path) fun _ =>
    bind (addResourcePatterns _) fun _ => bind (addResourceBundles _) fun _ =>
    forM _ fun transformation => requestCipher transformation

/-- The entry point is put together from the same parts if calling a worker is. -/
theorem enterCalling (p : Plan) (o : Options) (access : Value) {calls : List (Action σ Value)}
    (h : ∀ call ∈ calls, e.Composes call) : e.Composes (e.enterCalling p o access calls) := by
  have called : e.Composes (calls.forM fun call => discard call) := by
    induction calls with
    | nil => exact done ()
    | cons call calls ih =>
      exact bind (forget (h call (List.mem_cons_self ..))) fun _ =>
        ih fun other listed => h other (List.mem_cons_of_mem _ listed)
  exact bind (isolated .report (bind (registerGeneral p o access) fun _ => called)) fun _ =>
    forget (loadClass _)

theorem enter (p : Plan) (o : Options) (access : Value) : e.Composes (e.enter p o access) := by
  rw [enter_eq]
  refine enterCalling p o access fun call listed => ?_
  obtain ⟨d, worker, rfl⟩ := List.mem_map.1 listed
  refine bind ?_ fun _ => done _
  rcases List.mem_append.1 worker with class_ | jni
  · obtain ⟨r, -, rfl⟩ := List.mem_map.1 class_
    exact isolated _ (registerClass r)
  · obtain ⟨r, -, rfl⟩ := List.mem_map.1 jni
    exact isolated _ (registerJniClass r)

end Composes
end Setting

/-! ### What the code consists of -/

/-- The number of names in a plan, to which each proxy definition adds one. -/
def Plan.size (p : Plan) : Nat :=
  p.classes.size + (p.classes.records.flatMap (·.memberNames)).length + p.jniClasses.length +
    p.unsafeAccessedFields.length + p.runtimeInitializedClasses.length +
    p.runtimeInitializedPackages.length + p.runtimeReinitializedClasses.length +
    p.proxyDefinitions.length + (p.proxyDefinitions.flatMap ProxyDefinition.interfaces).length +
    p.resources.length + p.serviceDescriptors.length +
    (p.resourcePatterns.flatMap (·.excludes)).length +
    (p.resourcePatterns.flatMap (·.includes)).length + p.resourceBundles.length +
    p.cipherTransformations.toList.length

namespace Emission.Consists

variable {named : String → Prop}

theorem registerAll (types : ∀ t ∈ namedTypes, named t) (p : Plan) {o : Options}
    (own : named (dotted o.unitName)) (access : ValueId) :
    Consists (Operation.Entering named (p.workers o)) (7 * p.size + 31) (p.registerAll o access) := by
  have usual {k : Nat} {x : Emission Unit} (h : Consists (Operation.Usual named) k x) :
      Consists (Operation.Entering named (p.workers o)) k x := h.mono fun _ => .usual
  have called : Consists (Operation.Entering named (p.workers o)) (1 * (p.workers o).length)
      ((p.workers o).forM fun worker => discard (Emit.invokeStatic worker [])) :=
    loop _ fun m listed => forget (operation (Operation.Entering.call listed))
  refine (bind (usual (loop _ fun f _ => registerUnsafe f access)) fun _ =>
    bind (usual (initializeClasses types p own)) fun _ =>
    bind (usual (initializePackages types p)) fun _ =>
    bind (usual (reinitializeClasses types p own)) fun _ =>
    bind (usual (addProxies types p)) fun _ => bind (usual (registerResources p)) fun _ =>
    bind (usual (addResourcePatterns types p)) fun _ =>
    bind (usual (addResourceBundles types p)) fun _ => bind (usual (requestCiphers p)) fun _ =>
    called).atMost ?_
  simp only [Plan.size, Plan.workers, List.length_append, List.length_map, List.length_range]
  omega

theorem enter (types : ∀ t ∈ namedTypes, named t) (p : Plan) {o : Options}
    (own : named (dotted o.unitName)) (application : named o.applicationClass) :
    Consists (Operation.Entering named (p.workers o)) (7 * p.size + 35) (p.enter o) := by
  have usual {α : Type} {k : Nat} {x : Emission α} (h : Consists (Operation.Usual named) k x) :
      Consists (Operation.Entering named (p.workers o)) k x := h.mono fun _ => .usual
  refine (bind (usual (param 0)) fun access =>
    bind (isolate (registerAll types p own access) fun _ => usual (handler .report _)) fun _ =>
    usual (forget (loadClass application))).atMost ?_
  omega

end Emission.Consists

/-! ### What the code does -/

namespace Emission.Performs

variable {env : Context σ} {s : Site} (hidden : env.Hides)

include hidden in
theorem registerAll {p : Plan} {o : Options} {access : ValueId} {a : Value}
    {calls : List (Action σ Value)} (own : dotted o.unitName = env.self) (held : s.Holds access a)
    (workers : List.Forall₂ (fun m d => m.owner = env.self ∧ env.Answers m.name [] d)
      (p.workers o) calls) :
    Performs env s (p.registerAll o access) (do
      env.setting.registerGeneral p o a
      calls.forM fun call => discard call) s unrelated := by
  unfold Setting.registerGeneral
  simp only [bind_assoc]
  refine bind le_rfl (forM _ fun f _ t le => registerUnsafe hidden f (held.mono le))
    fun s₁ _ _ l₁ _ => ?_
  refine bind l₁ (initializeClasses hidden p o own) fun s₂ _ _ k₂ _ => ?_
  have l₂ := l₁.trans k₂
  refine bind l₂ (initializePackages hidden p) fun s₃ _ _ k₃ _ => ?_
  have l₃ := l₂.trans k₃
  refine bind l₃ (reinitializeClasses hidden p o own) fun s₄ _ _ k₄ _ => ?_
  have l₄ := l₃.trans k₄
  refine bind l₄ (addProxies hidden p) fun s₅ _ _ k₅ _ => ?_
  have l₅ := l₄.trans k₅
  refine bind l₅ (forM _ fun path _ t _ => registerResource hidden path) fun s₆ _ _ k₆ _ => ?_
  have l₆ := l₅.trans k₆
  refine bind l₆ (addResourcePatterns hidden p) fun s₇ _ _ k₇ _ => ?_
  have l₇ := l₆.trans k₇
  refine bind l₇ (addResourceBundles hidden p) fun s₈ _ _ k₈ _ => ?_
  have l₈ := l₇.trans k₈
  refine bind l₈ (forM _ fun c _ t _ => requestCipher hidden c) fun s₉ _ _ k₉ _ => ?_
  refine (forM₂ (workers.imp fun m d h t _ => ?_) le_rfl).last (l₈.trans k₉)
  exact (callOwn h.1 h.2 .nil).forget

include hidden in
/-- The entry point, whatever calling a worker is. -/
theorem enterCalling {p : Plan} {o : Options} {a : Value} {calls : List (Action σ Value)}
    (own : dotted o.unitName = env.self) (passed : s.frame.args[0]? = some a)
    (workers : List.Forall₂ (fun m d => m.owner = env.self ∧ env.Answers m.name [] d)
      (p.workers o) calls) :
    Performs env s (p.enter o) (env.setting.enterCalling p o a calls) s unrelated := by
  have entered : Performs env s (Emit.param 0) (pure a) s holding := param passed
  refine silent le_rfl entered fun t access k held => ?_
  refine bind k (isolated .report (registerAll hidden own held workers)) fun u _ _ k' _ => ?_
  exact ((loadClass o.applicationClass).last (k.trans k')).forget

include hidden in
theorem enter {p : Plan} {o : Options} {a : Value} (own : dotted o.unitName = env.self)
    (passed : s.frame.args[0]? = some a)
    (workers : List.Forall₂ (fun m d => m.owner = env.self ∧
      env.Answers m.name [] (do d; return .null)) (p.workers o) (env.setting.workers p o)) :
    Performs env s (p.enter o) (env.setting.enter p o a) s unrelated := by
  rw [Setting.enter_eq]
  exact enterCalling hidden own passed (List.forall₂_map_right_iff.2 workers)

end Emission.Performs

/-! ### What the recording host notes -/

namespace Scene

open Walk

variable (s : Scene)

def workers (p : Plan) (o : Options) : List (Walk Unit) :=
  p.classes.records.map (fun r => isolated o.workerOnFault (s.registerClass r)) ++
    p.jniClasses.map fun r => isolated o.workerOnFault (s.registerJniClass r)

def registerAll (p : Plan) (o : Options) : Walk Unit := do
  p.unsafeAccessedFields.forM s.registerUnsafe
  s.initializeClasses p.runtimeInitializedClasses
  initializePackages p.runtimeInitializedPackages
  s.reinitializeClasses p.runtimeReinitializedClasses o.originator
  s.addProxies p.proxyDefinitions
  (p.resources ++ p.serviceDescriptors).forM registerResource
  s.addResourcePatterns p.resourcePatterns
  s.addResourceBundles p.resourceBundles
  p.cipherTransformations.toList.forM s.requestCipher
  (s.workers p o).forM id

/-- All registrations, and then the application class. -/
def enter (p : Plan) (o : Options) : Walk Unit := do
  isolated .report (s.registerAll p o)
  s.load o.applicationClass

end Scene

namespace Follows

variable {scene : Scene} {s : Store}

/-- The workers follow their walks one by one. -/
theorem workers (p : Plan) (o : Options) :
    List.Forall₂ (fun d x => ∀ t, Follows scene t d x t unrelated) (scene.setting.workers p o)
      (scene.workers p o) := by
  refine List.rel_append ?_ ?_
  · rw [List.forall₂_map_left_iff, List.forall₂_map_right_iff]
    exact List.forall₂_same.2 fun r _ t => isolated _ (registerClass r)
  · rw [List.forall₂_map_left_iff, List.forall₂_map_right_iff]
    exact List.forall₂_same.2 fun r _ t => isolated _ (registerJniClass r)

theorem registerAll (p : Plan) (o : Options) (access : Value) :
    Follows scene s (scene.setting.registerAll p o access) (scene.registerAll p o) s
      unrelated := by
  refine bind le_rfl (forM _ fun f _ t _ => registerUnsafe access f) fun s₁ _ _ l₁ _ => ?_
  refine bind l₁ (initializeClasses _) fun s₂ _ _ k₂ _ => ?_
  have l₂ := l₁.trans k₂
  refine bind l₂ (initializePackages _) fun s₃ _ _ k₃ _ => ?_
  have l₃ := l₂.trans k₃
  refine bind l₃ (reinitializeClasses _ _) fun s₄ _ _ k₄ _ => ?_
  have l₄ := l₃.trans k₄
  refine bind l₄ (addProxies _) fun s₅ _ _ k₅ _ => ?_
  have l₅ := l₄.trans k₅
  refine bind l₅ (forM _ fun path _ t _ => registerResource path) fun s₆ _ _ k₆ _ => ?_
  have l₆ := l₅.trans k₆
  refine bind l₆ (addResourcePatterns _) fun s₇ _ _ k₇ _ => ?_
  have l₇ := l₆.trans k₇
  refine bind l₇ (addResourceBundles _) fun s₈ _ _ k₈ _ => ?_
  have l₈ := l₇.trans k₈
  refine bind l₈ (forM _ fun c _ t _ => requestCipher c) fun s₉ _ _ k₉ _ => ?_
  exact (forM₂ ((workers p o).imp fun _ _ h t _ => h t) le_rfl).last (l₈.trans k₉)

theorem enter (p : Plan) (o : Options) (access : Value) :
    Follows scene s (scene.setting.enter p o access) (scene.enter p o) s unrelated := by
  refine bind le_rfl (isolated .report (registerAll p o access)) fun t _ _ k _ => ?_
  exact (loadClass o.applicationClass).forget.last k

end Follows

namespace Walk.Tells

variable (scene : Scene)

/-- Each worker is a region of its own. -/
theorem workers (p : Plan) (o : Options) :
    ((scene.workers p o).forM id).Tells (.sure (scene.workerEvents p o)) := by
  let told : List Script :=
    p.classes.records.map (fun r => .sure ((scene.classScript r).isolated o.workerOnFault)) ++
      p.jniClasses.map fun r => .sure ((scene.jniScript r).isolated o.workerOnFault)
  have each : List.Forall₂ Tells (scene.workers p o) told := by
    refine List.rel_append ?_ ?_
    · rw [List.forall₂_map_left_iff, List.forall₂_map_right_iff]
      exact List.forall₂_same.2 fun r _ => isolated _ (registerClass scene r)
    · rw [List.forall₂_map_left_iff, List.forall₂_map_right_iff]
      exact List.forall₂_same.2 fun r _ => isolated _ (registerJniClass scene r)
  have whole : told.flatten = Script.sure (scene.workerEvents p o) := by
    simp only [told, Script.sure, Scene.workerEvents, List.flatten_append, List.map_append,
      List.flatMap_def, List.map_flatten, List.map_map, Function.comp_def]
  rw [← whole]
  exact forM₂ each

/-- The walk of a plan tells its script, category by category. -/
theorem registerAll (p : Plan) (o : Options) :
    (scene.registerAll p o).Tells (scene.planScript p o) := by
  refine bind (forM_sure (registerUnsafe scene) _) ?_
  refine bind (initializeClasses scene _) (bind (initializePackages _) ?_)
  refine bind (reinitializeClasses scene _ _) (bind (addProxies scene _) ?_)
  refine bind (registerResources _) (bind (addResourcePatterns scene _) ?_)
  refine bind (addResourceBundles scene _) (bind (forM_filter (requestCipher scene) _) ?_)
  exact workers scene p o

/-- The application class is looked for outside the region, so that it can end the walk. -/
theorem enter (p : Plan) (o : Options) : (scene.enter p o).Tells
    (Script.sure (scene.planEvents p o) ++ if scene.loads o.applicationClass then []
      else [.error (.classNotFound o.applicationClass)]) :=
  bind (isolated .report (registerAll scene p o)) (demand _ _)

end Walk.Tells

namespace Scene

variable (s : Scene) (p : Plan) (o : Options)

theorem events_enter : (s.enter p o).events = s.planEvents p o := by
  have told := (Walk.Tells.enter s p o).1
  rw [Script.events_append, Script.events_sure, Script.result_sure] at told
  rw [told]
  cases s.loads o.applicationClass <;> exact List.append_nil _

theorem result_enter : (s.enter p o).result =
    if s.loads o.applicationClass then .ok () else .error (.classNotFound o.applicationClass) := by
  have told := (Walk.Tells.enter s p o).2
  rw [Script.result_append, Script.result_sure] at told
  rw [told]
  cases s.loads o.applicationClass <;> rfl

end Scene
end Registrar
