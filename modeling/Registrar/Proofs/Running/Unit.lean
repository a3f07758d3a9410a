import Registrar.Proofs.Assembly.Unit
import Registrar.Proofs.Parts.EntryPoint

/-! Running the routines of a synthesized unit. On any host, calling a worker or the entry point does
what the direct form of it does, provided that there are numbers enough for the values of each
routine. -/
namespace Registrar

variable {σ : Type}

/-- A body and its end. -/
theorem Emission.Performs.leaves {α : Type} {env : Context σ} {s : Site} {x : Emission α}
    {d : Action σ Unit} (h : Performs env s x d s unrelated) (fits : (x s.next).next ≤ UInt32.size)
    (w : World σ) :
    match d w with
    | (.ok _, w') => ∃ f, Block.exec env ((x >>= fun _ => Emit.leave none) s.next).block
        ⟨s.frame, w⟩ = (.ok (some .null), ⟨f, w'⟩)
    | (.error e, w') => ∃ (h : Halt) (f : Frame), h.stop = e ∧
        Block.exec env ((x >>= fun _ => Emit.leave none) s.next).block ⟨s.frame, w⟩ =
          (.error h, ⟨f, w'⟩) := by
  have ran := h fits w
  rw [Emit.block_bind]
  rcases hd : d w with ⟨e | _, w'⟩
  · simp only [hd] at ran
    obtain ⟨t, h, -, -, stop, exec⟩ := ran
    exact ⟨h, t.frame, stop, Block.exec_append_of_error exec⟩
  · simp only [hd] at ran
    obtain ⟨t, -, -, exec, -⟩ := ran
    refine ⟨t.frame, ?_⟩
    rw [Block.exec_append_of_ok exec]
    exact Block.exec_cons_of_leave (by rw [Instruction.exec]; rfl)

/-- Running something does what the action does. -/
def Action.Describes (d : Action σ Value) (run : World σ → Except Halt Value × World σ) : Prop :=
  ∀ w, match d w with
    | (.ok x, w') => run w = (.ok x, w')
    | (.error e, w') => ∃ h : Halt, h.stop = e ∧ run w = (.error h, w')

/-- What is described leads where the action leads. -/
theorem Action.Describes.world {d : Action σ Value} {run : World σ → Except Halt Value × World σ}
    (h : d.Describes run) (w : World σ) : (run w).2 = (d w).2 := by
  have described := h w
  rcases ran : d w with ⟨e | x, w'⟩
  · simp only [ran] at described
    obtain ⟨halt, -, same⟩ := described
    rw [same]
  · simp only [ran] at described
    rw [described]

/-- What is described comes to the same end, as far as an action can tell. -/
theorem Action.Describes.result {d : Action σ Value} {run : World σ → Except Halt Value × World σ}
    (h : d.Describes run) (w : World σ) : (d w).1 = (run w).1.mapError Halt.stop := by
  have described := h w
  rcases ran : d w with ⟨e | x, w'⟩
  · simp only [ran] at described
    obtain ⟨halt, rfl, same⟩ := described
    rw [same]
    rfl
  · simp only [ran] at described
    rw [described]
    rfl

namespace Context

/-- Runs a routine in a frame of its own. -/
def run (env : Context σ) (r : Routine) (args : List Value) (w : World σ) :
    Except Halt Value × World σ :=
  let (result, m) := Block.exec env r.body ⟨.enter r args, w⟩
  (result.map (·.getD .null), m.world)

/-- Running a routine whose body performs an action. -/
theorem run_describes {env : Context σ} {head : RoutineHead} {args : List Value}
    {x : Emission Unit} {d : Action σ Unit} (fits : (x 0).next ≤ UInt32.size)
    (performs : ∀ s : Site, s.frame.args = args →
      Emission.Performs env s x d s Emission.unrelated) :
    (do d; return .null : Action σ Value).Describes
      (env.run (head.routine (x >>= fun _ => Emit.leave none)) args) := by
  intro w
  let r := head.routine (x >>= fun _ => Emit.leave none)
  let s : Site := ⟨0, .enter r args⟩
  have body : r.body = ((x >>= fun _ => Emit.leave none) s.next).block := by
    simp only [r, RoutineHead.routine_eq, s]
  have ran := (performs s rfl).leaves fits w
  rw [← body] at ran
  rcases hd : d w with ⟨e | _, w'⟩
  · simp only [hd] at ran
    obtain ⟨h, f, stop, exec⟩ := ran
    rw [bind_apply_of_error hd]
    refine ⟨h, stop, ?_⟩
    change ((Block.exec env r.body ⟨s.frame, w⟩).1.map (·.getD .null),
      (Block.exec env r.body ⟨s.frame, w⟩).2.world) = _
    rw [exec]
    rfl
  · simp only [hd] at ran
    obtain ⟨f, exec⟩ := ran
    rw [bind_apply_of_ok hd]
    change ((Block.exec env r.body ⟨s.frame, w⟩).1.map (·.getD .null),
      (Block.exec env r.body ⟨s.frame, w⟩).2.world) = _
    rw [exec]
    rfl

end Context

namespace CodeUnit

/-- What the routines of a unit run in when their calls may be nested to a depth. -/
def context (u : CodeUnit) (host : Host σ) (depth : Nat) : Context σ where
  host
  self := u.binaryName
  call := u.call host depth

theorem call_of_found {u : CodeUnit} {name : String} {r : Routine} (host : Host σ) (depth : Nat)
    (found : u.routine? name = some r) :
    u.call host (depth + 1) name = (u.context host depth).run r := by
  funext args w
  simp only [call, found]
  rfl

/-- Calling a routine whose body performs an action. -/
theorem call_answers {u : CodeUnit} {host : Host σ} {depth : Nat} {head : RoutineHead}
    {args : List Value} {x : Emission Unit} {d : Action σ Unit}
    (found : u.routine? head.name = some (head.routine (x >>= fun _ => Emit.leave none)))
    (fits : (x 0).next ≤ UInt32.size)
    (performs : ∀ s : Site, s.frame.args = args →
      Emission.Performs (u.context host depth) s x d s Emission.unrelated) :
    (u.context host (depth + 1)).Answers head.name args (do d; return .null) := by
  have described : (do d; return .null : Action σ Value).Describes
      ((u.context host depth).run (head.routine (x >>= fun _ => Emit.leave none)) args) :=
    Context.run_describes fits performs
  rw [← call_of_found host depth found] at described
  exact described

end CodeUnit

namespace Plan

variable (p : Plan) (o : Options)

/-- No routine of the plan fills more slots than there are numbers for. Beyond that, numbers are given
out twice. -/
structure Fits : Prop where
  entryPoint : (p.enter o 0).next ≤ UInt32.size
  classWorkers : ∀ r ∈ p.classes.records,
    (Emission.isolated o.workerOnFault r.register 0).next ≤ UInt32.size
  jniWorkers : ∀ r ∈ p.jniClasses,
    (Emission.isolated o.workerOnFault r.register 0).next ≤ UInt32.size

/-- There are numbers enough for every plan of up to six hundred million names. -/
theorem fits_of_size {p : Plan} (o : Options) (small : 7 * p.size + 40 ≤ UInt32.size) :
    p.Fits o := by
  have types : ∀ t ∈ Platform.namedTypes, True := fun _ _ => trivial
  refine ⟨?_, fun r listed => ?_, fun r _ => ?_⟩
  · have taken := (Emission.Consists.enter types p (o := o) trivial trivial).next_le 0
    omega
  · have registered := Emission.Consists.registerClass types (r := r) fun _ _ _ _ => trivial
    have taken := (registered.isolated o.workerOnFault).next_le 0
    have part : r.memberNames.Sublist (p.classes.records.flatMap (·.memberNames)) :=
      List.sublist_flatten_of_mem (List.mem_map_of_mem listed)
    have le := part.length_le
    rw [Plan.size] at small
    omega
  · have taken := ((Emission.Consists.registerJniClass types r).isolated o.workerOnFault).next_le 0
    omega

/-- Where the routines of the plan run. -/
def setting (host : Host σ) : Setting σ := ⟨host, dotted o.unitName⟩

theorem hides (host : Host σ) (depth : Nat) : ((p.unit o).context host depth).Hides := by
  intro m platform own args w
  cases depth with
  | zero => exact ⟨.exhausted, rfl, rfl⟩
  | succ depth =>
    refine ⟨.error (.unknownRoutine m.name), rfl, ?_⟩
    simp only [CodeUnit.context, CodeUnit.call, p.platform_not_found o platform]

variable {p o}

theorem classWorker_answers (fits : p.Fits o) (host : Host σ) (depth : Nat) {index : Nat}
    {r : ClassRecord} (h : p.classes.records[index]? = some r) :
    ((p.unit o).context host (depth + 1)).Answers (classWorkerHead index).name [] (do
      (setting o host).isolated o.workerOnFault ((setting o host).registerClass r)
      return .null) :=
  CodeUnit.call_answers (p.classWorker_found o h)
    (fits.classWorkers r (List.mem_of_getElem? h)) fun _ _ =>
      .isolated _ (.registerClass (p.hides o host depth) r)

theorem jniWorker_answers (fits : p.Fits o) (host : Host σ) (depth : Nat) {index : Nat}
    {r : JniRecord} (h : p.jniClasses[index]? = some r) :
    ((p.unit o).context host (depth + 1)).Answers (jniWorkerHead index).name [] (do
      (setting o host).isolated o.workerOnFault ((setting o host).registerJniClass r)
      return .null) :=
  CodeUnit.call_answers (p.jniWorker_found o h)
    (fits.jniWorkers r (List.mem_of_getElem? h)) fun _ _ =>
      .isolated _ (.registerJniClass (p.hides o host depth) r)

theorem forall₂_range_map {ι α β : Type} {P : α → β → Prop} {f : Nat → α} {g : ι → β}
    {as : List ι} (h : ∀ i a, as[i]? = some a → P (f i) (g a)) :
    List.Forall₂ P ((List.range as.length).map f) (as.map g) := by
  rw [List.forall₂_iff_get]
  refine ⟨by simp, fun i h₁ h₂ => ?_⟩
  simp only [List.length_map] at h₂
  simpa using h i as[i] (List.getElem?_eq_getElem h₂)

/-- Each worker that the entry point calls does what it is there for. -/
theorem workers_answer (fits : p.Fits o) (host : Host σ) (depth : Nat) :
    List.Forall₂ (fun (m : MethodRef) d => m.owner = dotted o.unitName ∧
        ((p.unit o).context host (depth + 1)).Answers m.name [] (do d; return .null))
      (p.workers o) ((setting o host).workers p o) := by
  refine List.rel_append (forall₂_range_map fun i r h => ?_) (forall₂_range_map fun i r h => ?_)
  · exact ⟨rfl, classWorker_answers fits host depth h⟩
  · exact ⟨rfl, jniWorker_answers fits host depth h⟩

theorem entryPoint_answers (fits : p.Fits o) (host : Host σ) (depth : Nat) (access : Value) :
    ((p.unit o).context host (depth + 2)).Answers entryPointHead.name [access] (do
      (setting o host).enter p o access
      return .null) :=
  CodeUnit.call_answers (p.entryPoint_found o) fits.entryPoint fun s args =>
    .enter (p.hides o host (depth + 1)) rfl (by rw [args]; rfl) (workers_answer fits host depth)

end Plan

end Registrar
