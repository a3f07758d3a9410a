import Registrar.Proofs.Assembly.Calls
import Registrar.Proofs.Assembly.Unit
import Registrar.Proofs.Parts.EntryPoint

/-! How the routines of a unit hang together. Valid declarations always give a unit; its routines
stand in the order of the records, each worker is the one of its record, and the entry point calls the
workers in this order, which are all calls of own routines that there are. -/
namespace Registrar

open Platform

/-! ### The class of a worker -/

/-- The code starts with the resolution of a class: the loader of the thread is asked for its name,
without initializing it. -/
def Block.Resolves (name : String) (is : Block) : Prop :=
  ∃ thread loader text early found rest, is =
    .invoke thread .static currentThread none [] ::
    .invoke loader .virtual getContextClassLoader (some thread) [] ::
    .const text (.str name) :: .const early (.bool false) ::
    .invoke found .static forNameWithLoader none [text, early, loader] :: rest

/-- The routine is a region with such code, and a return behind it. -/
def Routine.Resolves (name : String) (r : Routine) : Prop :=
  ∃ body caught handler,
    r.body = [.isolate body throwable caught handler, .leave none] ∧ Block.Resolves name body

theorem Emission.resolves (name : String) (f : ValueId × ValueId → Emission Unit) (n : Nat) :
    Block.Resolves name ((resolveClass name >>= f) n).block := by
  rw [Emit.block_bind]
  exact ⟨_, _, _, _, _, _, rfl⟩

theorem RoutineHead.resolves (head : RoutineHead) (onFault : OnFault) (name : String)
    (f : ValueId × ValueId → Emission Unit) :
    (head.routine do
      Emission.isolated onFault (Emission.resolveClass name >>= f)
      Emit.leave none).Resolves name := by
  rw [Routine.Resolves, routine_eq, Emission.isolated]
  simp only [Emit.block_bind, Emit.block_isolate, List.singleton_append]
  exact ⟨_, _, _, rfl, Emission.resolves name f 0⟩

theorem ClassRecord.worker_resolves (r : ClassRecord) (o : Options) (index : Nat) :
    (r.worker o index).Resolves r.className := RoutineHead.resolves ..

theorem JniRecord.worker_resolves (r : JniRecord) (o : Options) (index : Nat) :
    (r.worker o index).Resolves r.className := RoutineHead.resolves ..

/-! ### The routines of a plan -/

namespace Plan

variable (p : Plan) (o : Options)

theorem apart_unit : (p.unit o).Apart := fun _ platform => p.platform_not_found o platform

/-- The workers in the order of their records. -/
def classWorkerNames : List String :=
  (List.range p.classes.size).map fun i => "registerClass" ++ toString i

def jniWorkerNames : List String :=
  (List.range p.jniClasses.length).map fun i => "registerJniAccessibleClass" ++ toString i

/-- The workers of classes come before the others. -/
def workerNames : List String := p.classWorkerNames ++ p.jniWorkerNames

theorem names_workers : (p.workers o).map (·.name) = p.workerNames := by
  simp only [workerNames, classWorkerNames, jniWorkerNames, workers, List.map_append, List.map_map]
  rfl

/-- The workers that the entry point calls are routines of the unit. -/
theorem workers_own {m : MethodRef} (h : m ∈ p.workers o) :
    m.owner = (p.unit o).binaryName ∧ ((p.unit o).routine? m.name).isSome := by
  rcases List.mem_append.1 h with class_ | jni
  · obtain ⟨i, lt, rfl⟩ := List.mem_map.1 class_
    have found := p.classWorker_found o (List.getElem?_eq_getElem (List.mem_range.1 lt))
    exact ⟨rfl, Option.isSome_of_eq_some found⟩
  · obtain ⟨i, lt, rfl⟩ := List.mem_map.1 jni
    have found := p.jniWorker_found o (List.getElem?_eq_getElem (List.mem_range.1 lt))
    exact ⟨rfl, Option.isSome_of_eq_some found⟩

open Emission in
theorem calls_enter : Calls (p.unit o) (p.enter o) (p.workerNames.map (.static, ·)) := by
  have apart := p.apart_unit o
  have types : ∀ t ∈ namedTypes, True := fun _ _ => trivial
  rw [← p.names_workers o, List.map_map]
  have all (access : ValueId) :
      Calls (p.unit o) (p.registerAll o access) ((p.workers o).map (.static, ·.name)) :=
    .after apart (.loop _ fun f _ => .registerUnsafe f access) fun _ =>
    .after apart (.initializeClasses types p trivial) fun _ =>
    .after apart (.initializePackages types p) fun _ =>
    .after apart (.reinitializeClasses types p trivial) fun _ =>
    .after apart (.addProxies types p) fun _ => .after apart (.registerResources p) fun _ =>
    .after apart (.addResourcePatterns types p) fun _ =>
    .after apart (.addResourceBundles types p) fun _ => .after apart (.requestCiphers p) fun _ =>
    calls_forM fun _ listed => p.workers_own o listed
  have load : Consists (Operation.Usual fun _ => True) 1
      (discard (Emit.loadClass o.applicationClass)) := .forget (.loadClass trivial)
  have entered : Calls (p.unit o) (p.enter o) ((p.workers o).map (.static, ·.name) ++ []) :=
    .after apart (.param 0) fun access =>
    (Calls.isolated apart .report (all access)).bind fun _ => load.plain.calls apart
  rwa [List.append_nil] at entered

end Plan

theorem Plan.calls_entryPoint (p : Plan) (o : Options) :
    (p.unit o).ownCalls (p.entryPoint o).body = p.workerNames.map (.static, ·) := by
  have left : Emission.Plain (Emit.leave none) := .push trivial
  have entered := (p.calls_enter o).bind fun _ => left.calls (p.apart_unit o)
  rw [List.append_nil] at entered
  exact entered.routine entryPointHead

theorem eq_of_mem_classRoutines {o : Options} {r : Routine} {declared : Bool} {index : Nat}
    {records : List ClassRecord} (h : r ∈ classRoutines o declared index records) :
    (∃ c ∈ records, ∃ i, r = ClassRecord.worker c o i) ∨ r = requiredFeatures := by
  induction records generalizing declared index with
  | nil => cases h
  | cons c records ih =>
    rw [classRoutines, ClassRecord.routines, List.cons_append, List.mem_cons, List.mem_append] at h
    rcases h with rfl | wired | later
    · exact .inl ⟨c, List.mem_cons_self, index, rfl⟩
    · split at wired
      · exact .inr (List.mem_singleton.1 wired)
      · cases wired
    · refine (ih later).imp_left ?_
      rintro ⟨c', listed, i, rfl⟩
      exact ⟨c', List.mem_cons_of_mem _ listed, i, rfl⟩

theorem eq_of_mem_jniRoutines {o : Options} {r : Routine} {index : Nat} {records : List JniRecord}
    (h : r ∈ jniRoutines o index records) : ∃ c i, r = JniRecord.worker c o i := by
  induction records generalizing index with
  | nil => cases h
  | cons c records ih =>
    rcases List.mem_cons.1 h with rfl | later
    · exact ⟨c, index, rfl⟩
    · exact ih later

/-- The routines that generated units have. -/
inductive RoutineHead.Generated : RoutineHead → Prop
  | entryPoint : Generated entryPointHead
  | requiredFeatures : Generated requiredFeaturesHead
  | classWorker (index : Nat) : Generated (classWorkerHead index)
  | jniWorker (index : Nat) : Generated (jniWorkerHead index)

section

variable {o : Options} {r : Routine} {declared : Bool} {index index' : Nat}
  {records : List ClassRecord} {jniRecords : List JniRecord}

/-- All code but that of the entry point is usual code. -/
theorem usual_of_mem {named : String → Prop} (types : ∀ t ∈ namedTypes, named t)
    (params : ∀ c ∈ records, ∀ s, s ∈ c.constructors.toList ∨ s ∈ c.methods.toList →
      ∀ t ∈ s.params, named t)
    (h : r ∈ classRoutines o declared index records ∨ r ∈ jniRoutines o index' jniRecords) :
    ∃ head x k, head.Generated ∧ head ≠ entryPointHead ∧
      Emission.Consists (Operation.Usual named) k x ∧ r = head.routine x := by
  have other {head : RoutineHead} (ne : head.name ≠ entryPointHead.name) : head ≠ entryPointHead :=
    fun same => ne (congrArg (·.name) same)
  rcases h with class_ | jni
  · rcases eq_of_mem_classRoutines class_ with ⟨c, recorded, i, rfl⟩ | rfl
    · have body := Emission.Consists.isolated o.workerOnFault
        (.registerClass types (params c recorded))
      exact ⟨_, _, _, .classWorker i, other (classWorker_name_ne_fixed i).1,
        .bind body fun _ => .leave none, rfl⟩
    · have feature : named serializationFeatureType := types _ (by simp [namedTypes])
      exact ⟨_, _, _, .requiredFeatures, by decide,
        .bind (.loadClass feature) fun _ => .bind (.pass (by simp [methods])) fun _ => .leave _, rfl⟩
  · obtain ⟨c, i, rfl⟩ := eq_of_mem_jniRoutines jni
    have body := Emission.Consists.isolated o.workerOnFault (.registerJniClass types c)
    exact ⟨_, _, _, .jniWorker i, other (jniWorker_name_ne_fixed i).1,
      .bind body fun _ => .leave none, rfl⟩

/-- The routines that are not the entry point call none of their unit. -/
theorem calls_of_mem {u : CodeUnit} (apart : u.Apart)
    (h : r ∈ classRoutines o declared index records ∨ r ∈ jniRoutines o index' jniRecords) :
    u.ownCalls r.body = [] := by
  have types : ∀ t ∈ namedTypes, True := fun _ _ => trivial
  obtain ⟨head, x, k, -, -, usual, rfl⟩ := usual_of_mem types (fun _ _ _ _ _ _ => trivial) h
  exact (usual.plain.calls apart).routine head

end

/-! ### Names -/

/-- Once the dependency is declared, classes bring nothing but their workers. -/
theorem names_classRoutines_of_declared (o : Options) (index : Nat) (records : List ClassRecord) :
    (classRoutines o true index records).map (·.name) =
      (List.range' index records.length).map fun i => (classWorkerHead i).name := by
  induction records generalizing index with
  | nil => rfl
  | cons r records ih =>
    rw [classRoutines, ClassRecord.routines, Bool.true_or, Bool.not_true, Bool.and_false,
      List.map_append, ih, List.length_cons, List.range'_succ, List.map_cons, List.map_cons,
      r.worker_name]
    rfl

/-- Directly behind the worker of the first class that is serialized comes the routine that names the
required features. -/
theorem names_classRoutines (o : Options) (index : Nat) (records : List ClassRecord) :
    (classRoutines o false index records).map (·.name) =
      match records.findIdx? (·.capabilities.serialization) with
      | some k => ((List.range' index records.length).map fun i =>
          (classWorkerHead i).name).insertIdx (k + 1) requiredFeaturesHead.name
      | none => (List.range' index records.length).map fun i => (classWorkerHead i).name := by
  induction records generalizing index with
  | nil => rfl
  | cons r records ih =>
    rw [classRoutines, ClassRecord.routines, List.findIdx?_cons, List.length_cons,
      List.range'_succ, List.map_cons]
    cases serialized : r.capabilities.serialization with
    | true =>
      simp [names_classRoutines_of_declared, r.worker_name, requiredFeatures_name]
    | false =>
      have rest := ih (index + 1)
      cases found : records.findIdx? (·.capabilities.serialization) with
      | none | some k =>
        rw [found] at rest
        simp [rest, r.worker_name]

theorem names_jniRoutines (o : Options) (index : Nat) (records : List JniRecord) :
    (jniRoutines o index records).map (·.name) =
      (List.range' index records.length).map fun i => (jniWorkerHead i).name := by
  induction records generalizing index with
  | nil => rfl
  | cons r records ih =>
    rw [jniRoutines, List.map_cons, ih, List.length_cons, List.range'_succ, List.map_cons,
      r.worker_name]

namespace Plan

variable (p : Plan) (o : Options)

/-- The names of all routines: behind the entry point the workers, and behind the worker of the first
class that is serialized the routine that names the required features. -/
def routineNames : List String :=
  "beforeAnalysis" :: (match p.classes.records.findIdx? (·.capabilities.serialization) with
    | some k => p.classWorkerNames.insertIdx (k + 1) "getRequiredFeatures"
    | none => p.classWorkerNames) ++ p.jniWorkerNames

theorem names_routines : (p.routines o).map (·.name) = p.routineNames := by
  rw [routines, List.map_append, List.map_cons, names_classRoutines, names_jniRoutines,
    p.entryPoint_name]
  simp only [← List.range_eq_range']
  rfl

/-- The entry point calls each worker, and no other routine calls any. -/
theorem calls_routines :
    (p.routines o).map (fun r => (p.unit o).ownCalls r.body) =
      p.routineNames.map fun name =>
        if name = "beforeAnalysis" then p.workerNames.map (.static, ·) else [] := by
  have distinct := p.nodup_routines o
  rw [routines, List.cons_append, List.map_cons, List.nodup_cons, p.entryPoint_name] at distinct
  rw [← p.names_routines o, List.map_map]
  apply List.map_congr_left
  intro r listed
  rw [routines, List.cons_append, List.mem_cons] at listed
  rcases listed with rfl | other
  · rw [Function.comp_apply, p.entryPoint_name]
    exact p.calls_entryPoint o
  · have ne : r.name ≠ "beforeAnalysis" := by
      intro same
      have listed := List.mem_map_of_mem (f := Routine.name) other
      rw [same] at listed
      exact distinct.1 listed
    rw [Function.comp_apply, if_neg ne]
    exact calls_of_mem (p.apart_unit o) (List.mem_append.1 other)

end Plan

/-- Synthesis gives the unit of the plan, or says what is invalid. -/
theorem Declarations.synthesize_result (d : Declarations) (o : Options) (log : Log) :
    ((d.synthesize o).run.run log).1 = match d.validate with
      | .error v => .error (.invalid v)
      | .ok () => .ok ((Plan.ofDeclarations d).unit o) := by
  cases valid : d.validate with
  | error v =>
    rw [synthesize, valid]
    rfl
  | ok => exact synthesize_of_valid valid o log

/-- Declarations give a unit exactly if they are valid. The unit has its routines in the order of the
records, all of them under different names; each worker is the one of the record at its place, whose
class it resolves; and the calls of own routines in it are those of the workers, by the entry point,
each once and in the same order. -/
theorem Declarations.synthesize_table (d : Declarations) (o : Options) (log : Log) :
    match d.validate with
    | .error v => ((d.synthesize o).run.run log).1 = .error (.invalid v)
    | .ok () => ∃ u, ((d.synthesize o).run.run log).1 = .ok u ∧
        u.routineNames = (Plan.ofDeclarations d).routineNames ∧ u.routineNames.Nodup ∧
        (∀ i : Fin (Plan.ofDeclarations d).classes.records.length, ∃ r,
          u.routine? (classWorkerHead i).name = some r ∧
          r = (Plan.ofDeclarations d).classes.records[i].worker o i ∧
          r.Resolves (Plan.ofDeclarations d).classes.records[i].className) ∧
        (∀ i : Fin (Plan.ofDeclarations d).jniClasses.length, ∃ r,
          u.routine? (jniWorkerHead i).name = some r ∧
          r = (Plan.ofDeclarations d).jniClasses[i].worker o i ∧
          r.Resolves (Plan.ofDeclarations d).jniClasses[i].className) ∧
        u.routines.map (fun r => u.ownCalls r.body) = u.routineNames.map fun name =>
          if name = "beforeAnalysis" then (Plan.ofDeclarations d).workerNames.map (.static, ·)
          else [] := by
  have result := d.synthesize_result o log
  cases valid : d.validate with
  | error v =>
    rw [valid] at result
    exact result
  | ok =>
    rw [valid] at result
    let p := Plan.ofDeclarations d
    refine ⟨p.unit o, result, p.names_routines o, p.nodup_routines o,
      fun i => ⟨_, ?_, rfl, ClassRecord.worker_resolves ..⟩,
      fun i => ⟨_, ?_, rfl, JniRecord.worker_resolves ..⟩, ?_⟩
    · exact p.classWorker_found o (List.getElem?_eq_getElem i.isLt)
    · exact p.jniWorker_found o (List.getElem?_eq_getElem i.isLt)
    · rw [CodeUnit.routineNames, show (p.unit o).routines = p.routines o from rfl,
        p.calls_routines o, p.names_routines o]

end Registrar
