import Registrar.Proofs.Recording.Run
import Registrar.Proofs.Recording.Sections
import Registrar.Proofs.Tracing.EntryPoint

/-! Which runs come to the workers. All that can keep a run on a recording host from them is a fault
of the proxies. -/
namespace Registrar

open Platform

variable {σ τ : Type} {p : Plan} {o : Options}

/-! ### The general registrations by themselves -/

/-- What is returned behind them does not change how actions end. -/
theorem result_of_return {d : Action σ Unit} {d' : Action τ Unit} {w : World σ} {x : World τ}
    (h : ((do d; return .null : Action σ Value) w).1 = ((do d'; return .null : Action τ Value) x).1) :
    (d w).1 = (d' x).1 := by
  rcases ran : d w with ⟨e | _, w'⟩ <;> rcases ran' : d' x with ⟨e' | _, x'⟩
  · rw [bind_apply_of_error ran, bind_apply_of_error ran'] at h
    cases h
    rfl
  · rw [bind_apply_of_error ran, bind_apply_of_ok ran'] at h
    cases h
  · rw [bind_apply_of_ok ran, bind_apply_of_error ran'] at h
    cases h
  · rfl

namespace Plan

/-- The plan without what is left to workers. -/
def general (p : Plan) : Plan := { p with classes := .empty, jniClasses := [] }

theorem next_general_le (p : Plan) (o : Options) (access : ValueId) (n : Nat) :
    (p.general.registerAll o access n).next ≤ (p.registerAll o access n).next := by
  unfold registerAll
  simp only [Emit.next_bind]
  exact Emit.le_next _ _

/-- The entry point up to the workers. -/
def enterGeneral (p : Plan) (o : Options) : Emission Unit := do
  let access ← Emit.param 0
  p.general.registerAll o access

theorem next_enterGeneral_le (p : Plan) (o : Options) (n : Nat) :
    (p.enterGeneral o n).next ≤ (p.enter o n).next := by
  have inner (access : ValueId) (n : Nat) : (p.general.registerAll o access n).next ≤
      (Emission.isolated .report (p.registerAll o access) n).next := by
    rw [Emission.isolated, Emit.next_isolate]
    exact (p.next_general_le o access n).trans ((Nat.le_succ _).trans (Emit.le_next _ _))
  rw [enterGeneral, enter, Emit.next_bind, Emit.next_bind]
  exact (inner _ _).trans (Emit.next_le_bind _ _ _)

/-- A routine that stops where the workers would be called, whoever is asked. -/
theorem enterGeneral_describes (env : Context σ) (hidden : env.Hides)
    (own : dotted o.unitName = env.self) (fits : p.Fits o) (access : Value) :
    (do env.setting.registerGeneral p o access; return .null : Action σ Value).Describes
      (env.run (entryPointHead.routine (p.enterGeneral o >>= fun _ => Emit.leave none))
        [access]) := by
  have counted := (p.next_enterGeneral_le o 0).trans fits.entryPoint
  refine Context.run_describes counted fun s passed => ?_
  have entered : Emission.Performs env s (Emit.param 0) (pure access) s Emission.holding :=
    .param (by rw [passed]; rfl)
  refine .silent le_rfl entered fun t value keep held => ?_
  have performed : Emission.Performs env t (p.general.registerAll o value) (do
      env.setting.registerGeneral p.general o access
      ([] : List (Action σ Value)).forM fun call => discard call) t Emission.unrelated :=
    .registerAll hidden own held .nil
  have alone : (do
      env.setting.registerGeneral p.general o access
      ([] : List (Action σ Value)).forM fun call => discard call) =
      env.setting.registerGeneral p o access := bind_pure _
  rw [alone] at performed
  exact performed.last keep

/-- The steps that are seen make no difference to how the general registrations end. -/
theorem result_registerGeneral_watched (unowned : dotted o.unitName ∉ methods.map (·.owner))
    (fits : p.Fits o) (host : Host σ) (access : Value) (w : World σ) :
    ((⟨host.watched, dotted o.unitName⟩ : Setting (Watched σ)).registerGeneral p o access
      (w.watched [])).1 =
    ((⟨host, dotted o.unitName⟩ : Setting σ).registerGeneral p o access w).1 := by
  let u := p.unit o
  have ran := u.watching_run_result host 0
    (entryPointHead.routine (p.enterGeneral o >>= fun _ => Emit.leave none)) [access] w []
  have seen := (enterGeneral_describes (u.watching host (u.watch host 0))
    (Context.hides_of_unowned unowned) rfl fits access).result (w.watched [])
  have unseen := (enterGeneral_describes (u.context host 0)
    (Context.hides_of_unowned unowned) rfl fits access).result w
  rw [ran, ← unseen] at seen
  exact result_of_return seen

end Plan

/-! ### Recording hosts -/

theorem Recorder.tellsAbstract : Recorder.host.TellsAbstract := by
  intro args w v answered
  obtain ⟨word, asked⟩ : ∃ word : Except Fault Int32,
      (host.invoke .static Platform.isAbstract none args w).1 =
        (reply (word >>= fun n => Response.answer (.bool (n &&& 0x0400 != 0))) w).1 :=
    ⟨_, congrArg Prod.fst (host_invoke w .static Platform.isAbstract none args)⟩
  rw [asked] at answered
  cases found : word with
  | error f =>
    rw [found] at answered
    cases answered
  | ok n =>
    rw [found] at answered
    exact ⟨_, (Except.ok.inj answered).symm⟩

/-- Only the proxies can end the script of a plan. -/
theorem Scene.result_planScript (s : Scene) (p : Plan) (o : Options) :
    (s.planScript p o).result = (s.proxyScript p.proxyDefinitions).result := by
  rw [planScript_eq, Script.result_append, Script.result_append, Script.result_sure,
    Script.result_sure]
  cases (s.proxyScript p.proxyDefinitions).result <;> rfl

namespace Plan

theorem registerAll_general (e : Setting σ) (p : Plan) (o : Options) (access : Value) :
    e.registerAll p.general o access = e.registerGeneral p o access := by
  have none_ : e.workers p.general o = [] := rfl
  unfold Setting.registerAll Setting.registerGeneral
  rw [none_]
  simp only [List.forM_eq_forM, List.forM_nil, bind_pure_unit]
  rfl

variable (unowned : dotted o.unitName ∉ methods.map (·.owner))

include unowned

theorem result_registerGeneral (access : Value) (w : World Recorder) :
    ((o.scene w).setting.registerGeneral p o access w).1 =
      ((o.scene w).proxyScript p.proxyDefinitions).result.mapError Stop.fault := by
  have follows : Follows (o.scene w) w.store ((o.scene w).setting.registerAll p.general o access)
      ((o.scene w).registerAll p.general o) w.store Follows.unrelated :=
    Follows.registerAll p.general o access
  have told := (Walk.Tells.registerAll (o.scene w) p.general o).2
  rw [Scene.result_planScript] at told
  rw [registerAll_general] at follows
  rcases follows w.host.events with ⟨meets, -⟩ | ⟨-, t, -, ran⟩
  · exact absurd meets (Walk.not_meets unowned)
  · rw [told] at ran
    change ((o.scene w).setting.registerGeneral p o access
      ((o.scene w).world w.host.events w.store)).1 = _
    have same : p.general.proxyDefinitions = p.proxyDefinitions := rfl
    rw [same] at ran
    cases ended : ((o.scene w).proxyScript p.proxyDefinitions).result with
    | ok =>
      simp only [ended] at ran
      obtain ⟨_, ran, -⟩ := ran
      rw [ran]
      rfl
    | error f =>
      simp only [ended] at ran
      rw [ran]
      rfl

end Plan

/-- The host is not asked to enter a routine. -/
theorem Step.not_ofHost_entered (name : String) (args : List Value) :
    ¬(Step.entered name args).OfHost := by
  rintro ⟨question, answer, same⟩
  cases same

/-- Each routine that has a round is entered. -/
theorem entered_of_rounds {names : List String} {rounds : List (List Step)}
    (h : List.Forall₂ Round names rounds) :
    ∀ name ∈ names, .entered name [] ∈ rounds.flatten := by
  induction h with
  | nil => exact fun name listed => nomatch listed
  | @cons first round names rounds once _ ih =>
    intro name listed
    rw [List.flatten_cons, List.mem_append]
    rcases List.mem_cons.1 listed with rfl | later
    · obtain ⟨inner, rfl, -⟩ := once
      exact .inl List.mem_cons_self
    · exact .inr (ih name later)

namespace Plan

/-- A worker of the plan is called when the entry point of the unit runs on the host. -/
def Reached (p : Plan) (u : CodeUnit) (w : World Recorder) : Prop :=
  ∃ name ∈ p.workerNames, ∃ args, .entered name args ∈ u.trace Recorder.host callDepth
    entryPointHead.name [.object beforeAnalysisAccessType] w

/-- A run comes to the workers, if there are any, exactly if all that is needed for proxies is
found. -/
theorem reached_iff (unowned : dotted o.unitName ∉ methods.map (·.owner)) (fits : p.Fits o)
    (quiet : o.logWorkerFailures = false) (w : World Recorder) :
    p.Reached (p.unit o) w ↔ p.workerNames ≠ [] ∧ (o.scene w).findsProxies p.proxyDefinitions := by
  let e : Setting (Watched Recorder) := ⟨Recorder.host.watched, dotted o.unitName⟩
  let access : Value := .object beforeAnalysisAccessType
  have ends := (result_registerGeneral_watched unowned fits Recorder.host access w).trans
    (result_registerGeneral unowned access w)
  have traced := trace_eq_enterCalling Recorder.host unowned fits 9999 access w
  change (∃ name ∈ p.workerNames, ∃ args, .entered name args ∈
    (p.unit o).trace Recorder.host 10000 "beforeAnalysis" [access] w) ↔ _
  rw [traced, ← Scene.result_proxyScript]
  -- The workers are come to unless the general registrations break off, for which a recording host
  -- gives no other reason than a proxy that is not found.
  rcases ran : e.registerGeneral p o access (w.watched []) with ⟨stop | _, w₁⟩
  · rw [ran] at ends
    cases proxies : ((o.scene w).proxyScript p.proxyDefinitions).result with
    | ok =>
      rw [proxies] at ends
      cases ends
    | error f =>
      rw [proxies] at ends
      cases ends
      obtain ⟨new, seen, asked, -⟩ := enterCalling_of_fault access (p.workerCalls o _ 9999) ran
      refine iff_of_false ?_ fun found => nomatch found.2
      rintro ⟨name, -, args, entered⟩
      rw [seen] at entered
      exact Step.not_ofHost_entered name args (asked _ entered)
  · rw [ran] at ends
    have found : ((o.scene w).proxyScript p.proxyDefinitions).result = .ok () := by
      cases proxies : ((o.scene w).proxyScript p.proxyDefinitions).result with
      | ok => rfl
      | error f =>
        rw [proxies] at ends
        cases ends
    have rounds := rounds_workerCalls Recorder.tellsAbstract unowned fits quiet 9998
    obtain ⟨general, between, last, seen, -, fine, -⟩ := enterCalling_of_ok access rounds ran
    rw [and_iff_left found, seen]
    constructor
    · rintro ⟨name, listed, -⟩
      exact List.ne_nil_of_mem listed
    · intro some_
      obtain ⟨name, listed⟩ := List.exists_mem_of_ne_nil _ some_
      have entered := entered_of_rounds fine name listed
      exact ⟨name, listed, [], List.mem_append_right _
        (List.mem_append_left _ (List.mem_append_right _ entered))⟩

end Plan

end Registrar
