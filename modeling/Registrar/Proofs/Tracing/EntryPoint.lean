import Registrar.Proofs.Assembly.Wiring
import Registrar.Proofs.Tracing.Worker

/-! What is seen of a run of the entry point when workers drop the faults that they catch. No call of
a worker can then end otherwise than with null, whatever the host does meanwhile. So either a fault of
the general registrations keeps the run from all workers, or each of them is called in its turn and
the application class is loaded behind the last. -/
namespace Registrar

open Platform

variable {σ : Type} {α β : Type}

/-! ### Code that calls no own routine -/

theorem World.steps_trans {w x y : World (Watched σ)} {a b : List Step}
    (first : x.host.steps = w.host.steps ++ a) (second : y.host.steps = x.host.steps ++ b) :
    y.host.steps = w.host.steps ++ (a ++ b) := by
  rw [second, first, List.append_assoc]

/-- All that is seen up to this result is what the host is asked, and a fault is one of its answers. -/
def World.Asking (w x : World (Watched σ)) (result : Except Stop α) : Prop :=
  ∃ new, x.host.steps = w.host.steps ++ new ∧ (∀ s ∈ new, s.OfHost) ∧
    ∀ f, result = .error (.fault f) → ∃ question, .asked question (.error f) ∈ new

namespace World.Asking

variable {w x y : World (Watched σ)}

theorem trans {first : Except Stop α} {second : Except Stop β} (h : w.Asking x first)
    (h' : x.Asking y second) : w.Asking y second := by
  obtain ⟨a, seen, asked, -⟩ := h
  obtain ⟨b, seen', asked', faulty⟩ := h'
  refine ⟨a ++ b, steps_trans seen seen', fun s listed => ?_, fun f failed => ?_⟩
  · exact (List.mem_append.1 listed).elim (asked s) (asked' s)
  · obtain ⟨question, answered⟩ := faulty f failed
    exact ⟨question, List.mem_append_right a answered⟩

/-- The type of a result that there is none of does not matter. -/
theorem stopped {e : Stop} (h : w.Asking x (.error e : Except Stop α)) :
    w.Asking x (.error e : Except Stop β) := by
  obtain ⟨new, seen, asked, faulty⟩ := h
  refine ⟨new, seen, asked, fun f failed => faulty f ?_⟩
  cases failed
  rfl

end World.Asking

namespace Action

/-- All that is seen of the action is what the host is asked, which is where its faults come from. -/
def OnlyAsks (d : Action (Watched σ) α) : Prop := ∀ w, World.Asking w (d w).2 (d w).1

namespace OnlyAsks

theorem still {d : Action (Watched σ) α} (h : ∀ w, (d w).2.host = w.host)
    (safe : ∀ w f, (d w).1 ≠ .error (.fault f)) : d.OnlyAsks := by
  intro w
  refine ⟨[], ?_, by simp, fun f failed => absurd failed (safe w f)⟩
  rw [h, List.append_nil]

theorem done (a : α) : (pure a : Action (Watched σ) α).OnlyAsks := still (fun _ => rfl) nofun

theorem stuck : (Action.stuck : Action (Watched σ) α).OnlyAsks := still (fun _ => rfl) nofun

theorem ask (question : Question) (ask : World σ → Reply σ) :
    (Action.ask (Host.watch question ask)).OnlyAsks := by
  intro w
  rcases answered : ask w.unwatched with ⟨f | v, x⟩
  · refine ⟨[.asked question (.error f)], ?_, by simp [Step.OfHost], fun g failed => ⟨question, ?_⟩⟩
    · simp only [Action.ask, Host.watch, answered]
      rfl
    · simp only [Action.ask, Host.watch, answered] at failed
      cases failed
      exact List.mem_singleton_self _
  · refine ⟨[.asked question (.ok v)], ?_, by simp [Step.OfHost], fun g failed => ?_⟩
    · simp only [Action.ask, Host.watch, answered]
      rfl
    · simp only [Action.ask, Host.watch, answered] at failed
      cases failed

theorem bind {d : Action (Watched σ) α} {g : α → Action (Watched σ) β} (first : d.OnlyAsks)
    (rest : ∀ a, (g a).OnlyAsks) : (d >>= g).OnlyAsks := by
  intro w
  have asking := first w
  rcases hd : d w with ⟨e | x, w'⟩
  · rw [hd] at asking
    rw [bind_apply_of_error hd]
    exact asking.stopped
  · rw [hd] at asking
    rw [bind_apply_of_ok hd]
    exact asking.trans (rest x w')

theorem choose {onTrue onFalse : Action (Watched σ) α} (condition : Value)
    (first : onTrue.OnlyAsks) (second : onFalse.OnlyAsks) :
    (Action.choose condition onTrue onFalse).OnlyAsks := by
  unfold Action.choose
  split
  · exact first
  · exact second
  · exact stuck

end OnlyAsks
end Action

namespace Setting

theorem handle_onlyAsks (host : Host σ) (self : String) (onFault : OnFault) (f : Fault) :
    ((⟨host.watched, self⟩ : Setting (Watched σ)).handle onFault f).OnlyAsks := by
  cases onFault with
  | report => exact .bind (.ask _ _) fun _ => .done ()
  | drop => exact .done ()

/-- All that is seen of generated code without calls of own routines is what the host is asked. -/
theorem Composes.onlyAsks {host : Host σ} {self : String} {d : Action (Watched σ) α}
    (h : (⟨host.watched, self⟩ : Setting (Watched σ)).Composes d) : d.OnlyAsks := by
  have static : ∀ m args,
      ((⟨host.watched, self⟩ : Setting (Watched σ)).callStatic m args).OnlyAsks := by
    intro m args
    unfold Setting.callStatic
    split
    · exact .stuck
    · exact .ask _ _
  induction h with
  | done a => exact .done a
  | bind _ _ first rest => exact .bind first rest
  | newArray values => exact .still (fun _ => rfl) nofun
  | loadClass name =>
    unfold Setting.loadClass
    split
    · exact .done _
    · exact .ask _ _
  | newInstance name => exact .ask _ _
  | callStatic _ args => exact static _ args
  | callVirtual m receiver args => exact .ask _ _
  | callInterface m receiver args => exact .ask _ _
  | byAbstractness args _ _ first second =>
    exact .bind (static _ args) fun v => .choose v first second
  | @isolated onFault body _ inner =>
    intro w
    have asking := inner w
    rcases hd : body w with ⟨(f | _) | _, w'⟩
    · rw [hd] at asking
      rw [isolated_of_fault hd]
      exact asking.trans (handle_onlyAsks host self onFault f w')
    · rw [hd] at asking
      rw [isolated_of_stuck hd]
      exact asking
    · rw [hd] at asking
      rw [isolated_of_ok hd]
      exact asking

end Setting

/-! ### Workers that drop their faults -/

theorem Host.TellsAbstract.watched {host : Host σ} (tells : host.TellsAbstract) :
    host.watched.TellsAbstract :=
  fun args w v answered => tells args w.unwatched v answered

/-- A region that drops faults has no other end than its own. -/
theorem Setting.isolated_drop {e : Setting σ} {d : Action σ Unit} {w : World σ}
    (safe : (d w).1 ≠ .error .stuck) : ∃ w', e.isolated .drop d w = (.ok (), w') := by
  rcases hd : d w with ⟨(f | _) | _, w'⟩
  · exact ⟨w', isolated_of_fault hd⟩
  · rw [hd] at safe
    exact absurd rfl safe
  · exact ⟨w', isolated_of_ok hd⟩

/-- A routine that is one region which drops faults, and that calls no own routine. -/
theorem CodeUnit.watch_returns {u : CodeUnit} {host : Host σ} {depth : Nat} {head : RoutineHead}
    {x : Emission Unit} {d : Action (Watched σ) Unit}
    (found : u.routine? head.name = some (head.routine (do
      Emission.isolated .drop x
      Emit.leave none)))
    (fits : (Emission.isolated .drop x 0).next ≤ UInt32.size)
    (performs : ∀ s, Emission.Performs (u.watching host (u.watch host depth)) s x d s
      Emission.unrelated)
    (composed : (⟨host.watched, u.binaryName⟩ : Setting (Watched σ)).Composes d)
    (unowned : u.binaryName ∉ methods.map (·.owner)) (tells : host.TellsAbstract)
    (args : List Value) (w : World (Watched σ)) :
    ∃ w', u.watch host (depth + 1) head.name args w = (.ok .null, w') ∧
      ∃ inner, w'.host.steps = w.host.steps ++ inner ∧ ∀ s ∈ inner, s.OfHost := by
  let e : Setting (Watched σ) := ⟨host.watched, u.binaryName⟩
  obtain ⟨w', ended⟩ := Setting.isolated_drop (e := e)
    (composed.not_stuck unowned tells.watched w)
  obtain ⟨inner, seen, asked, -⟩ := (Setting.Composes.isolated .drop composed).onlyAsks w
  rw [ended] at seen
  have described : (do e.isolated .drop d; return .null : Action (Watched σ) Value).Describes
      (u.watch host (depth + 1) head.name args) := by
    rw [watch_of_found depth found]
    exact Context.run_describes fits fun s _ => .isolated .drop (performs s)
  have called := described w
  rw [bind_apply_of_ok ended] at called
  exact ⟨w', called, inner, seen, asked⟩

namespace Plan

variable {p : Plan} {o : Options} {host : Host σ}

/-- Whatever faults the host throws at it, a worker ends with null. -/
theorem watch_worker (tells : host.TellsAbstract)
    (unowned : dotted o.unitName ∉ methods.map (·.owner)) (fits : p.Fits o)
    (quiet : o.logWorkerFailures = false) {name : String} (listed : name ∈ p.workerNames)
    (depth : Nat) (args : List Value) (w : World (Watched σ)) :
    ∃ w', (p.unit o).watch host (depth + 1) name args w = (.ok .null, w') ∧
      ∃ inner, w'.host.steps = w.host.steps ++ inner ∧ ∀ s ∈ inner, s.OfHost := by
  have drops : o.workerOnFault = .drop := by simp [Options.workerOnFault, quiet]
  have hidden : ((p.unit o).watching host ((p.unit o).watch host depth)).Hides :=
    Context.hides_of_unowned unowned
  rcases List.mem_append.1 listed with class_ | jni
  · obtain ⟨i, lt, rfl⟩ := List.mem_map.1 class_
    have found := p.classWorker_found o (List.getElem?_eq_getElem (List.mem_range.1 lt))
    have counted := fits.classWorkers _ (List.getElem_mem (List.mem_range.1 lt))
    rw [ClassRecord.worker, drops] at found
    rw [drops] at counted
    exact CodeUnit.watch_returns found counted (fun _ => .registerClass hidden _)
      (.registerClass _) unowned tells args w
  · obtain ⟨i, lt, rfl⟩ := List.mem_map.1 jni
    have found := p.jniWorker_found o (List.getElem?_eq_getElem (List.mem_range.1 lt))
    have counted := fits.jniWorkers _ (List.getElem_mem (List.mem_range.1 lt))
    rw [JniRecord.worker, drops] at found
    rw [drops] at counted
    exact CodeUnit.watch_returns found counted (fun _ => .registerJniClass hidden _)
      (.registerJniClass _) unowned tells args w

end Plan

/-! ### The entry point -/

/-- Calling an own routine, as an action. -/
def Context.action (env : Context σ) (name : String) (args : List Value) : Action σ Value := fun w =>
  match env.call name args w with
  | (.ok x, w) => (.ok x, w)
  | (.error h, w) => (.error h.stop, w)

theorem Context.answers_action (env : Context σ) (name : String) (args : List Value) :
    env.Answers name args (env.action name args) := by
  intro w
  rcases called : env.call name args w with ⟨h | x, w'⟩
  · simp only [action, called]
    exact ⟨h, rfl, rfl⟩
  · simp only [action, called]

/-- What is seen of a call of an own routine that comes to null and calls no other. -/
def Round (name : String) (steps : List Step) : Prop :=
  ∃ inner, steps = .entered name [] :: inner ++ [.left name (.ok .null)] ∧ ∀ s ∈ inner, s.OfHost

/-- The action is such a call, wherever it is made. -/
def Action.IsRound (name : String) (call : Action (Watched σ) Value) : Prop :=
  ∀ w, ∃ round w', call w = (.ok .null, w') ∧ w'.host.steps = w.host.steps ++ round ∧
    Round name round

/-- Calls that all come to null are made one after the other, up to the last. -/
theorem forM_rounds {calls : List (Action (Watched σ) Value)} {names : List String}
    (h : List.Forall₂ Action.IsRound names calls) (w : World (Watched σ)) :
    ∃ rounds w', (calls.forM fun call => discard call) w = (.ok (), w') ∧
      w'.host.steps = w.host.steps ++ rounds.flatten ∧ List.Forall₂ Round names rounds := by
  induction h generalizing w with
  | nil => exact ⟨[], w, rfl, by simp, .nil⟩
  | @cons name call names calls first _ ih =>
    obtain ⟨round, w₁, called, seen, fine⟩ := first w
    obtain ⟨rounds, w₂, rest, seen', fine'⟩ := ih w₁
    refine ⟨round :: rounds, w₂, ?_, ?_, .cons fine fine'⟩
    · have once : (discard call : Action (Watched σ) Unit) w = (.ok (), w₁) :=
        bind_apply_of_ok called _
      change ((discard call >>= fun _ => calls.forM fun call => discard call) :
        Action (Watched σ) Unit) w = _
      rw [bind_apply_of_ok once]
      exact rest
    · rw [List.flatten_cons]
      exact World.steps_trans seen seen'

namespace Plan

variable {p : Plan} {o : Options} {host : Host σ}

/-- From within the unit, a worker is called in a round of its own. -/
theorem round_of_worker (tells : host.TellsAbstract)
    (unowned : dotted o.unitName ∉ methods.map (·.owner)) (fits : p.Fits o)
    (quiet : o.logWorkerFailures = false) {name : String} (listed : name ∈ p.workerNames)
    (depth : Nat) : Action.IsRound name
      (((p.unit o).watching host ((p.unit o).watch host (depth + 1))).action name []) := by
  intro w
  obtain ⟨w', called, inner, seen, asked⟩ :=
    watch_worker tells unowned fits quiet listed depth [] (w.see (.entered name []))
  refine ⟨.entered name [] :: inner ++ [.left name (.ok .null)],
    w'.see (.left name (.ok .null)), ?_, ?_, inner, rfl, asked⟩
  · simp only [Context.action, CodeUnit.watching, called]
  · change w'.host.steps ++ _ = _
    rw [seen]
    simp [World.see]

/-- What may be seen of a run of the entry point. -/
inductive Course (p : Plan) (o : Options) : List Step → Prop
  /-- No worker is called, which only a fault of the host brings about. -/
  | broken {steps : List Step} (asked : ∀ s ∈ steps, s.OfHost)
      (faulty : ∃ question f, .asked question (.error f) ∈ steps) : Course p o steps
  /-- Each worker is called once and in order; behind them the application class is loaded, of which
  the host gets to know unless the unit is this class. -/
  | whole {general last : List Step} {rounds : List (List Step)} (asked : ∀ s ∈ general, s.OfHost)
      (called : List.Forall₂ Round p.workerNames rounds)
      (loaded : if o.applicationClass = dotted o.unitName then last = []
        else ∃ answer, last = [.asked (.loadClass o.applicationClass) answer]) :
      Course p o (general ++ rounds.flatten ++ last)

theorem load_steps (host : Host σ) (self name : String) (w : World (Watched σ)) :
    ∃ last, ((discard ((⟨host.watched, self⟩ : Setting (Watched σ)).loadClass name) :
        Action (Watched σ) Unit) w).2.host.steps = w.host.steps ++ last ∧
      if name = self then last = [] else ∃ answer, last = [.asked (.loadClass name) answer] := by
  rw [Action.world_discard, Setting.loadClass]
  by_cases own : name = self
  · simp only [own, if_true]
    exact ⟨[], (List.append_nil _).symm, rfl⟩
  · simp only [own, if_false]
    obtain ⟨answer, seen⟩ := Action.steps_ask (.loadClass name) (host.loadClass name) w
    exact ⟨_, seen, answer, rfl⟩

/-- A fault of the general registrations ends the region, and nothing of the workers is seen. -/
theorem enterCalling_of_fault (access : Value) (calls : List (Action (Watched σ) Value))
    {w w₁ : World (Watched σ)} {f : Fault}
    (ran : (⟨host.watched, dotted o.unitName⟩ : Setting (Watched σ)).registerGeneral p o access w =
      (.error (.fault f), w₁)) :
    ∃ new, ((⟨host.watched, dotted o.unitName⟩ : Setting (Watched σ)).enterCalling p o access calls
      w).2.host.steps = w.host.steps ++ new ∧ (∀ s ∈ new, s.OfHost) ∧
        ∃ question, .asked question (.error f) ∈ new := by
  let e : Setting (Watched σ) := ⟨host.watched, dotted o.unitName⟩
  let body : Action (Watched σ) Unit :=
    e.registerGeneral p o access >>= fun _ => calls.forM fun call => discard call
  let load : Action (Watched σ) Unit := discard (e.loadClass o.applicationClass)
  change ∃ new, ((e.isolated .report body >>= fun _ => load) w).2.host.steps = _ ∧ _
  have handled : e.isolated .report body w = e.handle .report f w₁ :=
    Setting.isolated_of_fault (bind_apply_of_error ran _)
  have loading : e.Composes load := .forget (.loadClass o.applicationClass)
  have rest : (e.handle .report f >>= fun _ => load).OnlyAsks :=
    .bind (Setting.handle_onlyAsks _ _ .report f) fun _ => loading.onlyAsks
  have composed : e.Composes (e.registerGeneral p o access) := .registerGeneral p o access
  have asking := composed.onlyAsks w
  rw [ran] at asking
  obtain ⟨first, seen, asked, faulty⟩ := asking
  obtain ⟨question, answered⟩ := faulty f rfl
  obtain ⟨later, seen', asked', -⟩ := rest w₁
  refine ⟨first ++ later, ?_, fun s listed => ?_, question, List.mem_append_left _ answered⟩
  · rw [bind_apply_congr handled]
    exact World.steps_trans seen seen'
  · exact (List.mem_append.1 listed).elim (asked s) (asked' s)

/-- Without a fault there, the calls of the workers run to their end. -/
theorem enterCalling_of_ok (access : Value) {calls : List (Action (Watched σ) Value)}
    (rounds : List.Forall₂ Action.IsRound p.workerNames calls) {w w₁ : World (Watched σ)}
    (ran : (⟨host.watched, dotted o.unitName⟩ : Setting (Watched σ)).registerGeneral p o access w =
      (.ok (), w₁)) :
    ∃ general between last, ((⟨host.watched, dotted o.unitName⟩ : Setting (Watched σ)).enterCalling
      p o access calls w).2.host.steps =
        w.host.steps ++ (general ++ List.flatten between ++ last) ∧
      (∀ s ∈ general, s.OfHost) ∧ List.Forall₂ Round p.workerNames between ∧
      if o.applicationClass = dotted o.unitName then last = []
        else ∃ answer, last = [.asked (.loadClass o.applicationClass) answer] := by
  let e : Setting (Watched σ) := ⟨host.watched, dotted o.unitName⟩
  let body : Action (Watched σ) Unit :=
    e.registerGeneral p o access >>= fun _ => calls.forM fun call => discard call
  let load : Action (Watched σ) Unit := discard (e.loadClass o.applicationClass)
  change ∃ general between last, ((e.isolated .report body >>= fun _ => load) w).2.host.steps = _ ∧ _
  have composed : e.Composes (e.registerGeneral p o access) := .registerGeneral p o access
  have asking := composed.onlyAsks w
  rw [ran] at asking
  obtain ⟨general, seen, asked, -⟩ := asking
  obtain ⟨between, w₂, called, seen', fine⟩ := forM_rounds rounds w₁
  have ended : body w = (.ok (), w₂) := (bind_apply_of_ok ran _).trans called
  obtain ⟨last, seen'', loaded⟩ := load_steps host (dotted o.unitName) o.applicationClass w₂
  refine ⟨general, between, last, ?_, asked, fine, loaded⟩
  rw [bind_apply_of_ok (Setting.isolated_of_ok ended)]
  exact World.steps_trans (World.steps_trans seen seen') seen''

theorem enterCalling_course (tells : host.TellsAbstract)
    (unowned : dotted o.unitName ∉ methods.map (·.owner)) (access : Value)
    {calls : List (Action (Watched σ) Value)}
    (rounds : List.Forall₂ Action.IsRound p.workerNames calls) (w : World (Watched σ)) :
    ∃ new, ((⟨host.watched, dotted o.unitName⟩ : Setting (Watched σ)).enterCalling p o access calls
      w).2.host.steps = w.host.steps ++ new ∧ p.Course o new := by
  let e : Setting (Watched σ) := ⟨host.watched, dotted o.unitName⟩
  rcases ran : e.registerGeneral p o access w with ⟨(f | _) | _, w₁⟩
  · obtain ⟨new, seen, asked, question, answered⟩ := enterCalling_of_fault access calls ran
    exact ⟨new, seen, .broken asked ⟨question, f, answered⟩⟩
  · have composed : e.Composes (e.registerGeneral p o access) := .registerGeneral p o access
    have safe := composed.not_stuck unowned tells.watched w
    rw [ran] at safe
    exact absurd rfl safe
  · obtain ⟨general, between, last, seen, asked, fine, loaded⟩ :=
      enterCalling_of_ok access rounds ran
    exact ⟨_, seen, .whole asked fine loaded⟩

/-- The calls that the entry point makes, one level of calls further down. -/
def workerCalls (p : Plan) (o : Options) (host : Host σ) (depth : Nat) :
    List (Action (Watched σ) Value) :=
  (p.workers o).map fun m =>
    ((p.unit o).watching host ((p.unit o).watch host depth)).action m.name []

theorem rounds_workerCalls (tells : host.TellsAbstract)
    (unowned : dotted o.unitName ∉ methods.map (·.owner)) (fits : p.Fits o)
    (quiet : o.logWorkerFailures = false) (depth : Nat) :
    List.Forall₂ Action.IsRound p.workerNames (p.workerCalls o host (depth + 1)) := by
  rw [workerCalls, ← p.names_workers o, List.forall₂_map_left_iff, List.forall₂_map_right_iff,
    List.forall₂_same]
  intro m listed
  refine round_of_worker tells unowned fits quiet ?_ depth
  rw [← p.names_workers o]
  exact List.mem_map_of_mem listed

/-- What is seen of the entry point is what is seen of its actions. -/
theorem trace_eq_enterCalling (host : Host σ) (unowned : dotted o.unitName ∉ methods.map (·.owner))
    (fits : p.Fits o) (depth : Nat) (access : Value) (w : World σ) :
    (p.unit o).trace host (depth + 1) "beforeAnalysis" [access] w =
      ((⟨host.watched, dotted o.unitName⟩ : Setting (Watched σ)).enterCalling p o access
        (p.workerCalls o host depth) (w.watched [])).2.host.steps := by
  let env := (p.unit o).watching host ((p.unit o).watch host depth)
  have answers : List.Forall₂ (fun m d => m.owner = env.self ∧ env.Answers m.name [] d)
      (p.workers o) (p.workerCalls o host depth) := by
    rw [workerCalls, List.forall₂_map_right_iff, List.forall₂_same]
    exact fun m listed => ⟨(p.workers_own o listed).1, env.answers_action m.name []⟩
  have hidden : env.Hides := Context.hides_of_unowned unowned
  have described : (do
      env.setting.enterCalling p o access (p.workerCalls o host depth)
      return .null : Action (Watched σ) Value).Describes (env.run (p.entryPoint o) [access]) :=
    Context.run_describes fits.entryPoint fun s passed =>
      .enterCalling hidden rfl (by rw [passed]; rfl) answers
  have entered : (p.unit o).watch host (depth + 1) "beforeAnalysis" =
      env.run (p.entryPoint o) := CodeUnit.watch_of_found depth (p.entryPoint_found o)
  rw [CodeUnit.trace, entered, described.world, Action.world_then_return]
  rfl

/-- The entry point of a plan whose workers drop their faults. -/
theorem trace_entryPoint (tells : host.TellsAbstract)
    (unowned : dotted o.unitName ∉ methods.map (·.owner)) (fits : p.Fits o)
    (quiet : o.logWorkerFailures = false) (depth : Nat) (access : Value) (w : World σ) :
    p.Course o ((p.unit o).trace host (depth + 2) "beforeAnalysis" [access] w) := by
  have rounds := rounds_workerCalls tells unowned fits quiet depth
  obtain ⟨new, seen, course⟩ := enterCalling_course (o := o) tells unowned access rounds
    (w.watched [])
  rw [trace_eq_enterCalling host unowned fits, seen]
  exact course

/-- If workers drop the faults that they catch, then each of their runs ends with null; and once the
entry point has come to the first of them, it calls all, those of classes in front of the others and
each once, and after them asks the host for the application class and nothing more. -/
theorem workers_return_in_turn (p : Plan) (o : Options) (log : Log) (host : Host σ)
    (tells : host.TellsAbstract) (unowned : dotted o.unitName ∉ methods.map (·.owner))
    (fits : p.Fits o) (quiet : o.logWorkerFailures = false) :
    ∃ u, ((p.synthesize o).run.run log).1 = .ok u ∧
      (∀ name ∈ p.workerNames, ∀ depth args w,
        (u.run host (depth + 1) name args w).1 = .returned .null) ∧
      ∀ depth access w, p.Course o (u.trace host (depth + 2) "beforeAnalysis" [access] w) := by
  refine ⟨p.unit o, p.synthesize_eq o log, ?_, trace_entryPoint tells unowned fits quiet⟩
  intro name listed depth args w
  obtain ⟨w', watched, -⟩ :=
    watch_worker tells unowned fits quiet listed depth args (w.watched [])
  have result := CodeUnit.watch_result (p.unit o) host (depth + 1) name args w []
  rw [watched] at result
  rcases called : (p.unit o).call host (depth + 1) name args w with ⟨r, x⟩
  rw [called] at result
  cases result
  rw [CodeUnit.run, called]

theorem workers_return_in_turn_moody :
    moody.TellsAbstract ∧ dotted ({} : Options).unitName ∉ methods.map (·.owner) ∧
    (ofDeclarations moodySample).Fits {} ∧ ({} : Options).logWorkerFailures = false ∧
    ∃ u, (((ofDeclarations moodySample).synthesize {}).run.run ⟨.info, []⟩).1 = .ok u ∧
      (∀ name ∈ (ofDeclarations moodySample).workerNames, ∀ depth args w,
        (u.run moody (depth + 1) name args w).1 = .returned .null) ∧
      ∀ depth access w, (ofDeclarations moodySample).Course {}
        (u.trace moody (depth + 2) "beforeAnalysis" [access] w) := by
  have unowned : dotted ({} : Options).unitName ∉ methods.map (·.owner) := by decide
  have fits : (ofDeclarations moodySample).Fits {} := fits_of_size {} (by decide)
  exact ⟨tellsAbstract_moody, unowned, fits, rfl, workers_return_in_turn (ofDeclarations moodySample)
    {} ⟨.info, []⟩ moody tellsAbstract_moody unowned fits rfl⟩

end Plan
end Registrar
