import Registrar.Proofs.Assembly.Table
import Registrar.Proofs.Running.Action

/-! The unit that is synthesized from a plan, and how its routines are found. -/
namespace Registrar

open Platform

namespace CodeUnit

theorem routine?_of_mem {u : CodeUnit} {r : Routine} (distinct : u.routineNames.Nodup)
    (h : r ∈ u.routines) : u.routine? r.name = some r := by
  unfold routine?
  unfold routineNames at distinct
  generalize u.routines = rs at distinct h
  induction rs with
  | nil => cases h
  | cons s rs ih =>
    rw [List.map_cons, List.nodup_cons] at distinct
    rcases List.mem_cons.1 h with rfl | later
    · simp
    · have ne : (s.name == r.name) = false := by
        rw [beq_eq_false_iff_ne]
        intro same
        exact distinct.1 (same ▸ List.mem_map_of_mem later)
      rw [List.find?_cons, ne]
      exact ih distinct.2 later

theorem routine?_of_ne {u : CodeUnit} {name : String} (h : ∀ r ∈ u.routines, r.name ≠ name) :
    u.routine? name = none := by
  rw [routine?, List.find?_eq_none]
  intro r mem
  simpa using h r mem

end CodeUnit

theorem worker_mem_classRoutines {o : Options} {r : ClassRecord} {records : List ClassRecord}
    {k : Nat} (h : records[k]? = some r) (declared : Bool) (index : Nat) :
    r.worker o (index + k) ∈ classRoutines o declared index records := by
  induction records generalizing k declared index with
  | nil => cases h
  | cons c records ih =>
    rw [classRoutines, List.mem_append]
    cases k with
    | zero =>
      rw [List.getElem?_cons_zero, Option.some.injEq] at h
      subst h
      exact .inl (List.mem_cons_self ..)
    | succ k =>
      rw [List.getElem?_cons_succ] at h
      have later := ih h (declared || c.capabilities.serialization) (index + 1)
      rw [Nat.add_assoc, Nat.add_comm 1] at later
      exact .inr later

theorem worker_mem_jniRoutines {o : Options} {r : JniRecord} {records : List JniRecord} {k : Nat}
    (h : records[k]? = some r) (index : Nat) :
    r.worker o (index + k) ∈ jniRoutines o index records := by
  induction records generalizing k index with
  | nil => cases h
  | cons c records ih =>
    rw [jniRoutines, List.mem_cons]
    cases k with
    | zero =>
      rw [List.getElem?_cons_zero, Option.some.injEq] at h
      subst h
      exact .inl rfl
    | succ k =>
      rw [List.getElem?_cons_succ] at h
      have later := ih h (index + 1)
      rw [Nat.add_assoc, Nat.add_comm 1] at later
      exact .inr later

namespace Plan

/-- The unit of a plan. -/
def unit (p : Plan) (o : Options) : CodeUnit where
  name := o.unitName
  superClass := objectType
  interfaces := [featureType]
  annotations := [automaticFeatureType]
  routines := p.routines o

variable (p : Plan) (o : Options)

theorem finish_eq :
    Assembly.finish { Assembly.start o with slots := Assembly.filled (p.routines o) } =
      .ok (p.unit o) := by
  rw [Assembly.finish, Assembly.routines_filled]
  rfl

theorem classWorker_found {r : ClassRecord} {index : Nat}
    (h : p.classes.records[index]? = some r) :
    (p.unit o).routine? (classWorkerHead index).name = some (r.worker o index) := by
  have listed := worker_mem_classRoutines (o := o) h false 0
  rw [Nat.zero_add] at listed
  rw [← r.worker_name o index]
  exact CodeUnit.routine?_of_mem (p.nodup_routines o) (by simp [unit, routines, listed])

theorem jniWorker_found {r : JniRecord} {index : Nat} (h : p.jniClasses[index]? = some r) :
    (p.unit o).routine? (jniWorkerHead index).name = some (r.worker o index) := by
  have listed := worker_mem_jniRoutines (o := o) h 0
  rw [Nat.zero_add] at listed
  rw [← r.worker_name o index]
  exact CodeUnit.routine?_of_mem (p.nodup_routines o) (by simp [unit, routines, listed])

theorem entryPoint_found :
    (p.unit o).routine? entryPointHead.name = some (p.entryPoint o) := by
  rw [← p.entryPoint_name o]
  exact CodeUnit.routine?_of_mem (p.nodup_routines o) (by simp [unit, routines])

/-- No routine of the unit has the name of a method that generated code calls elsewhere. -/
theorem platform_not_found {m : MethodRef} (platform : m ∈ methods) :
    (p.unit o).routine? m.name = none := by
  have others : ∀ m ∈ methods, ¬"registerClass".toList <+: m.name.toList ∧
      ¬"registerJniAccessibleClass".toList <+: m.name.toList ∧
      m.name ≠ entryPointHead.name ∧ m.name ≠ requiredFeaturesHead.name := by decide
  obtain ⟨noClass, noJni, noEntry, noFeatures⟩ := others m platform
  apply CodeUnit.routine?_of_ne
  intro r mem same
  rw [unit, routines, List.cons_append, List.mem_cons, List.mem_append] at mem
  rcases mem with rfl | mem | mem
  · rw [p.entryPoint_name] at same
    exact noEntry same.symm
  · rcases mem_classRoutines mem with ⟨j, -, named⟩ | ⟨-, named⟩
    · exact noClass (same ▸ named ▸ classWorker_name_toList j)
    · exact noFeatures (same ▸ named)
  · obtain ⟨j, -, named⟩ := mem_jniRoutines mem
    exact noJni (same ▸ named ▸ jniWorker_name_toList j)

/-! ### Synthesis -/

/-- A loop whose rounds all succeed leaves the result to what follows it. -/
theorem fst_forIn_bind {ε τ α β : Type} {f : α → PUnit → ExceptT ε (StateM τ) (ForInStep PUnit)}
    {rest : ExceptT ε (StateM τ) β} {result : Except ε β}
    (ok : ∀ a s, ∃ t, f a ⟨⟩ s = (.ok (.yield ⟨⟩), t)) (ends : ∀ s, (rest s).1 = result)
    (as : List α) (s : τ) : ((do forIn as PUnit.unit f; rest) s).1 = result := by
  have looped : ∃ t, forIn as PUnit.unit f s = (.ok ⟨⟩, t) := by
    induction as generalizing s with
    | nil => exact ⟨s, rfl⟩
    | cons a as ih =>
      obtain ⟨t, first⟩ := ok a s
      obtain ⟨u, rest⟩ := ih t
      refine ⟨u, ?_⟩
      rw [List.forIn_cons, bind_apply_of_ok first]
      exact rest
  obtain ⟨t, looped⟩ := looped
  rw [bind_apply_of_ok looped]
  exact ends t

/-- Whatever a plan is a plan of, it gives this unit. -/
theorem synthesize_eq (log : Log) : ((p.synthesize o).run.run log).1 = .ok (p.unit o) := by
  have finished : ∀ log : Log, ((do
      let u ← synthesize.liftExcept
        (Assembly.finish { Assembly.start o with slots := Assembly.filled (p.routines o) })
      tell .info (s!"generated {u.name} with {p.classes.size} class workers and " ++
        s!"{p.jniClasses.length} JNI workers")
      return u : Logged SynthesisError CodeUnit) log).1 = .ok (p.unit o) := by
    intro log
    rw [p.finish_eq o]
    rfl
  change (p.synthesize o log).1 = _
  unfold synthesize
  refine fst_forIn_bind (fun size log => ?_) (fun log => ?_) p.sizes log
  · obtain ⟨category, count⟩ := size
    by_cases some : 0 < count
    · exact ⟨log.push ⟨.debug, s!"{category}: {count}"⟩, by simp only [some, if_true]; rfl⟩
    · exact ⟨log, by simp only [some, if_false]; rfl⟩
  · rw [p.assemble_eq o]
    cases declared : p.requiresSerialization
    · exact finished log
    · exact finished (log.push ⟨.debug, "declared serialization feature requirement"⟩)

end Plan

namespace Declarations

/-- The unit of valid declarations is the unit of their plan. -/
theorem synthesize_of_valid {d : Declarations} (valid : d.validate = .ok ()) (o : Options)
    (log : Log) : ((d.synthesize o).run.run log).1 = .ok ((Plan.ofDeclarations d).unit o) := by
  let merging : LogEntry := ⟨.debug, s!"merging {d.itemCount} declaration items"⟩
  have merged : (d.synthesize o).run.run log =
      ((Plan.ofDeclarations d).synthesize o).run.run (log.push merging) := by
    rw [synthesize, valid]
    rfl
  rw [merged]
  exact (Plan.ofDeclarations d).synthesize_eq o (log.push merging)

end Declarations

end Registrar
