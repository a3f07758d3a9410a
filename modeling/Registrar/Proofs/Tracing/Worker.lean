import Registrar.Proofs.Tracing.Inquiry

/-! A worker gets to know its class before it registers anything. What is seen of a run of a worker
is an inquiry first; a fault in it leaves nothing but its report, and all registering comes behind.
Only the inquiry is followed instruction by instruction: of the code behind it, it is enough that it
takes back nothing of what was seen, so that there may be any amount of it. -/
namespace Registrar

open Platform

variable {σ : Type} {α β γ : Type}

/-- What is seen of the handling of a fault. -/
def OnFault.Shows : OnFault → Fault → List Step → Prop
  | .report, f, steps => ∃ answer,
    steps = [.asked (.invoke .virtual printStackTrace (some (.throwable f)) []) answer]
  | .drop, _, steps => steps = []

/-- The host is asked to register something. -/
def Step.Registers (s : Step) : Prop := ∃ question answer, s = .asked question answer ∧
  question.Registers

theorem OnFault.Shows.not_registers {onFault : OnFault} {f : Fault} {steps : List Step}
    (h : onFault.Shows f steps) {s : Step} (seen : s ∈ steps) : ¬s.Registers := by
  cases onFault with
  | drop =>
    cases h
    cases seen
  | report =>
    obtain ⟨answer, rfl⟩ := h
    rintro ⟨question, answer, rfl, registers⟩
    cases List.mem_singleton.1 seen
    exact absurd registers (by decide : ¬printStackTrace.registers = true)

theorem Context.hides_of_unowned {env : Context σ} (unowned : env.self ∉ methods.map (·.owner)) :
    env.Hides :=
  fun _ platform own => absurd (own ▸ List.mem_map_of_mem platform) unowned

/-- Something that is not in the first part is in the second. -/
theorem split_behind {a : α} {first second before after : List α} (absent : a ∉ first)
    (split : first ++ second = before ++ a :: after) :
    ∃ between, before = first ++ between ∧ second = between ++ a :: after := by
  rcases List.append_eq_append_iff.1 split with ⟨between, rfl, behind⟩ | ⟨inner, rfl, front⟩
  · exact ⟨between, rfl, behind⟩
  · cases inner with
    | nil => exact ⟨[], by simp, front.symm⟩
    | cons b inner =>
      cases front
      exact absurd (by simp) absent

namespace Block

variable {env : Context σ}

/-- The host does not notice that a routine is left. -/
theorem world_exec_then_leave (is : Block) (m : Machine σ) :
    (Block.exec env (is ++ [.leave none]) m).2.world = (Block.exec env is m).2.world := by
  rcases ran : Block.exec env is m with ⟨e | _ | x, m'⟩
  · rw [exec_append_of_error ran]
  · have left : Instruction.exec env (.leave none) m' = (.ok (some .null), m') := by
      rw [Instruction.exec, pure_apply]
    rw [exec_append_of_ok ran, exec_cons_of_leave left]
  · rw [exec_append_of_leave ran]

end Block

/-- An instruction that fills a slot takes the world to where finding the value takes it. -/
theorem Instruction.world_exec_of_finds {env : Context σ} {i : Instruction} {dest : ValueId}
    {y : Exec σ Value} {d : Action σ Value} {f : Frame}
    (exec : Instruction.exec env i = do Exec.write dest (← y); return none)
    (finds : Exec.Finds f y d) (w : World σ) :
    (Instruction.exec env i ⟨f, w⟩).2.world = (d w).2 := by
  have found := finds w
  rw [exec]
  rcases hd : d w with ⟨e | x, w'⟩
  · simp only [hd] at found
    obtain ⟨h, -, ran⟩ := found
    rw [bind_apply_of_error ran]
  · simp only [hd] at found
    rw [bind_apply_of_ok found]
    rfl

theorem Action.steps_ask (question : Question) (ask : World σ → Reply σ) (w : World (Watched σ)) :
    ∃ answer, (Action.ask (Host.watch question ask) w).2.host.steps =
      w.host.steps ++ [.asked question answer] := by
  rcases answered : ask w.unwatched with ⟨f | v, x⟩
  · refine ⟨.error f, ?_⟩
    simp only [Action.ask, Host.watch, answered]
    rfl
  · refine ⟨.ok v, ?_⟩
    simp only [Action.ask, Host.watch, answered]
    rfl

namespace Emission

/-- A handler finds the fault in the slot that it was just put into. -/
theorem handler_shows (u : CodeUnit) (host : Host σ)
    (call : String → List Value → World (Watched σ) → Except Halt Value × World (Watched σ))
    (onFault : OnFault) (caught : ValueId) (f : Fault) (frame : Frame) (w : World (Watched σ))
    (n : Nat) :
    ∃ steps, onFault.Shows f steps ∧
      (Block.exec (u.watching host call) (handler onFault caught n).block
        ⟨frame.set caught (.throwable f), w⟩).2.world.host.steps = w.host.steps ++ steps := by
  cases onFault with
  | drop => exact ⟨[], rfl, (List.append_nil _).symm⟩
  | report =>
    let env := u.watching host call
    let s : Site := ⟨caught.number.toNat + 1, frame.set caught (.throwable f)⟩
    have held : s.Holds caught (.throwable f) := ⟨Nat.lt_succ_self _, Frame.get?_set_self ..⟩
    have found : Exec.Finds s.frame (Exec.invoke env .virtual printStackTrace (some caught) [])
        (env.setting.callVirtual printStackTrace (.throwable f) []) :=
      Exec.invoke_finds .nil (Exec.ask_on_finds held fun y => env.host.invoke .virtual _ y [])
    have block : (handler .report caught n).block =
        [.invoke ⟨n.toUInt32⟩ .virtual printStackTrace (some caught) []] := rfl
    obtain ⟨answer, seen⟩ := Action.steps_ask (.invoke .virtual printStackTrace
      (some (.throwable f)) []) (host.invoke .virtual printStackTrace (some (.throwable f)) []) w
    refine ⟨_, ⟨answer, rfl⟩, ?_⟩
    rw [block, Block.exec_singleton,
      Instruction.world_exec_of_finds (by rw [Instruction.exec]) found w]
    exact seen

/-- Code that makes an inquiry before anything else: a fault that comes of it is the end. -/
theorem Performs.inquires_first {env : Context (Watched σ)} (adds : env.Adds) {s : Site}
    {x : Emission α} {d : Action (Watched σ) β} {i : Inquiry}
    (performs : Performs env s x d s unrelated) (fits : (x s.next).next ≤ UInt32.size)
    (inquires : d.Inquires i) (rest : α → Emission γ) (w : World (Watched σ)) :
    ∃ first later outcome, i.Goes first outcome ∧
      (Block.exec env ((x >>= rest) s.next).block ⟨s.frame, w⟩).2.world.host.steps =
        w.host.steps ++ (first ++ later) ∧
      ∀ f, outcome = .error f → later = [] ∧
        (Block.exec env ((x >>= rest) s.next).block ⟨s.frame, w⟩).1 = .error (.fault f) := by
  have ran := performs fits w
  obtain ⟨first, seen, goes⟩ := inquires w
  rw [Emit.block_bind]
  rcases hd : d w with ⟨e | b, w'⟩
  · simp only [hd] at ran seen goes
    obtain ⟨t, h, -, -, stop, exec⟩ := ran
    cases h with
    | fault f =>
      cases stop
      rw [Block.exec_append_of_error exec]
      refine ⟨first, [], .error f, goes, ?_, fun g same => ?_⟩
      · rw [List.append_nil]
        exact seen
      · cases same
        exact ⟨rfl, rfl⟩
    | error | exhausted =>
      cases stop
      exact goes.elim
  · simp only [hd] at ran seen goes
    obtain ⟨t, -, -, exec, -⟩ := ran
    rw [Block.exec_append_of_ok exec]
    obtain ⟨later, grown⟩ := adds (rest (x.value s.next) (x s.next).next).block ⟨t.frame, w'⟩
    refine ⟨first, later, .ok (), goes, ?_, fun f same => by cases same⟩
    rw [grown, ← List.append_assoc, ← seen]

end Emission

/-- A routine that is one region with an inquiry in front. -/
theorem Context.run_inquires_first {u : CodeUnit} (host : Host σ) (depth : Nat)
    (unowned : u.binaryName ∉ methods.map (·.owner)) (head : RoutineHead) (args : List Value)
    (onFault : OnFault) (className : String) (serialized : Bool)
    (rest : ValueId × Members × Option ValueId → Emission Unit) (w : World (Watched σ)) :
    ∃ first later outcome, (introspection className serialized).Goes first outcome ∧
      ((u.watching host (u.watch host depth)).run (head.routine (do
        Emission.isolated onFault (Emission.introspect className serialized >>= rest)
        Emit.leave none)) args w).2.host.steps = w.host.steps ++ (first ++ later) ∧
      ∀ f, outcome = .error f → onFault.Shows f later := by
  let env := u.watching host (u.watch host depth)
  let body : Emission Unit := Emission.introspect className serialized >>= rest
  let r := head.routine (do Emission.isolated onFault body; Emit.leave none)
  have adds : env.Adds := CodeUnit.watching_adds u host depth
  have hidden : env.Hides := Context.hides_of_unowned unowned
  have fits : (Emission.introspect className serialized 0).next ≤ UInt32.size :=
    ((Emission.consists_introspect className serialized).next_le 0).trans (by decide)
  have performs := Emission.performs_introspect hidden (s := ⟨0, .enter r args⟩) className serialized
  obtain ⟨first, later, outcome, goes, seen, broken⟩ := performs.inquires_first adds fits
    (Setting.introspect_inquires unowned className serialized) rest w
  have block : r.body = (Emission.isolated onFault body 0).block ++ [.leave none] := by
    simp only [r, RoutineHead.routine_eq, Emit.block_bind]
    rfl
  have ran : (env.run r args w).2 =
      (Instruction.exec env (.isolate (body 0).block throwable ⟨(body 0).next.toUInt32⟩
        (Emission.handler onFault ⟨(body 0).next.toUInt32⟩ ((body 0).next + 1)).block)
          ⟨.enter r args, w⟩).2.world := by
    change (Block.exec env r.body ⟨.enter r args, w⟩).2.world = _
    rw [block, Block.world_exec_then_leave, Emission.isolated, Emit.block_isolate,
      Block.exec_singleton]
  change ∃ first later outcome, _ ∧ (env.run r args w).2.host.steps = _ ∧ _
  rw [ran]
  -- A fault of the introspection ends the body, so it is the one that comes to the handler.
  rcases exec : Block.exec env (body 0).block ⟨.enter r args, w⟩ with ⟨result, m⟩
  simp only [body, env, exec] at seen broken
  by_cases fault : ∃ f, result = .error (.fault f)
  · obtain ⟨f, rfl⟩ := fault
    obtain ⟨steps, shows, handled⟩ := Emission.handler_shows u host (u.watch host depth) onFault
      ⟨(body 0).next.toUInt32⟩ f m.frame m.world ((body 0).next + 1)
    rw [Instruction.exec_isolate_of_fault exec, handled, seen]
    refine ⟨first, later ++ steps, outcome, goes, by simp only [List.append_assoc], ?_⟩
    intro g failed
    obtain ⟨rfl, same⟩ := broken g failed
    cases same
    exact shows
  · have ne : ∀ f, result ≠ .error (.fault f) := fun f same => fault ⟨f, same⟩
    rw [Instruction.exec_isolate_of_ne exec ne, seen]
    exact ⟨first, later, outcome, goes, rfl, fun f failed => absurd (broken f failed).2 (ne f)⟩

/-! ### The workers of a plan -/

namespace Plan

/-- The routine of this name registers this class, for serialization or not. -/
inductive IsWorker (p : Plan) : (name className : String) → (serialized : Bool) → Prop
  | ofClass {index : Nat} {r : ClassRecord} (listed : p.classes.records[index]? = some r) :
    IsWorker p (classWorkerHead index).name r.className r.capabilities.serialization
  | ofJni {index : Nat} {r : JniRecord} (listed : p.jniClasses[index]? = some r) :
    IsWorker p (jniWorkerHead index).name r.className false

variable {p : Plan}

theorem IsWorker.found {name className : String} {serialized : Bool}
    (worker : p.IsWorker name className serialized) (o : Options) :
    ∃ (head : RoutineHead) (rest : ValueId × Members × Option ValueId → Emission Unit),
      (p.unit o).routine? name = some (head.routine (do
        Emission.isolated o.workerOnFault (Emission.introspect className serialized >>= rest)
        Emit.leave none)) := by
  cases worker with
  | @ofClass index r listed =>
    obtain ⟨rest, register⟩ := r.register_introspects
    refine ⟨classWorkerHead index, rest, ?_⟩
    rw [p.classWorker_found o listed, ClassRecord.worker, register]
  | @ofJni index r listed =>
    obtain ⟨rest, register⟩ := r.register_introspects
    refine ⟨jniWorkerHead index, rest, ?_⟩
    rw [p.jniWorker_found o listed, JniRecord.worker, register]

/-- Whatever the host answers, a run of a worker begins with getting to know the class. If one of its
questions comes to a fault, the host is asked for nothing more than to print this fault, and that
only if the options say so; and nothing is registered before all of them have been answered. -/
theorem worker_introspects_first (p : Plan) (o : Options) (log : Log) (host : Host σ)
    (unowned : dotted o.unitName ∉ methods.map (·.owner)) {name className : String}
    {serialized : Bool} (worker : p.IsWorker name className serialized) (depth : Nat)
    (args : List Value) (w : World σ) :
    ∃ u, ((p.synthesize o).run.run log).1 = .ok u ∧ ∃ introspected rest outcome,
      u.trace host (depth + 1) name args w = introspected ++ rest ∧
      (introspection className serialized).Goes introspected outcome ∧
      (∀ f, outcome = .error f → o.workerOnFault.Shows f rest) ∧
      ∀ before step after, u.trace host (depth + 1) name args w = before ++ step :: after →
        step.Registers → outcome = .ok () ∧ introspected <+: before := by
  refine ⟨p.unit o, p.synthesize_eq o log, ?_⟩
  obtain ⟨head, rest, found⟩ := worker.found o
  obtain ⟨introspected, later, outcome, goes, seen, broken⟩ :=
    Context.run_inquires_first (u := p.unit o) host depth unowned head args o.workerOnFault
      className serialized rest (w.watched [])
  rw [← CodeUnit.watch_of_found depth found] at seen
  have trace : (p.unit o).trace host (depth + 1) name args w = introspected ++ later := seen
  refine ⟨introspected, later, outcome, trace, goes, broken, ?_⟩
  intro before step after split registers
  have early : step ∉ introspected := by
    intro asked
    obtain ⟨question, answer, rfl, registers⟩ := registers
    exact goes.avoids (introspection_avoids_registering className serialized) asked registers
  obtain ⟨between, rfl, behind⟩ := split_behind early (trace.symm.trans split)
  refine ⟨?_, List.prefix_append ..⟩
  cases outcome with
  | ok => rfl
  | error f =>
    have asked : step ∈ later := by simp [behind]
    exact absurd registers ((broken f rfl).not_registers asked)

theorem worker_introspects_first_moody :
    dotted ({ logWorkerFailures := true } : Options).unitName ∉ methods.map (·.owner) ∧
    (ofDeclarations moodySample).IsWorker (classWorkerHead 0).name "pkg.A" true ∧
    ∃ u, (((ofDeclarations moodySample).synthesize { logWorkerFailures := true }).run.run
        ⟨.info, []⟩).1 = .ok u ∧ ∃ introspected rest outcome,
      u.trace moody 1 (classWorkerHead 0).name [] ⟨0, ⟨#[]⟩⟩ = introspected ++ rest ∧
      (introspection "pkg.A" true).Goes introspected outcome ∧
      (∀ f, outcome = .error f → OnFault.report.Shows f rest) ∧
      ∀ before step after,
        u.trace moody 1 (classWorkerHead 0).name [] ⟨0, ⟨#[]⟩⟩ = before ++ step :: after →
        Step.Registers step → outcome = .ok () ∧ introspected <+: before := by
  have unowned : dotted ({ logWorkerFailures := true } : Options).unitName ∉
      methods.map (·.owner) := by decide
  obtain ⟨r, listed, named, serialized⟩ : ∃ r,
      (ofDeclarations moodySample).classes.records[0]? = some r ∧ r.className = "pkg.A" ∧
        r.capabilities.serialization = true := ⟨_, rfl, rfl, rfl⟩
  have worker : (ofDeclarations moodySample).IsWorker (classWorkerHead 0).name "pkg.A" true := by
    have worker := IsWorker.ofClass listed
    rwa [named, serialized] at worker
  exact ⟨unowned, worker, worker_introspects_first (ofDeclarations moodySample)
    { logWorkerFailures := true } ⟨.info, []⟩ moody unowned worker 0 [] ⟨0, ⟨#[]⟩⟩⟩

end Plan

end Registrar
