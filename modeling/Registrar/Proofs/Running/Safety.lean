import Registrar.Proofs.Running.Unit

/-! Synthesized code never goes wrong. On a host that does as it likes, but for saying of a class
whether it is abstract, the only thing that keeps a run of the entry point from its end is a fault of
the host: no slot is read before it is filled, no value is used as what it is not, and every own
routine that is called is there. -/
namespace Registrar

open Platform

variable {σ : Type}

/-- When the host is asked whether modifiers are those of something abstract, it says yes or no, or
throws. -/
def Host.TellsAbstract (h : Host σ) : Prop :=
  ∀ args w v, (h.invoke .static isAbstract none args w).1 = .ok v → ∃ b, v = .bool b

namespace Action

variable {question : World σ → Reply σ} {w w' : World σ} {v : Value}

theorem answer_of_ask (h : ask question w = (.ok v, w')) : question w = (.ok v, w') := by
  unfold ask at h
  rcases answered : question w with ⟨f | x, u⟩
  · rw [answered] at h
    cases h
  · rw [answered] at h
    cases h
    rfl

theorem ask_not_stuck (question : World σ → Reply σ) (w : World σ) :
    (ask question w).1 ≠ .error .stuck := by
  unfold ask
  rcases question w with ⟨f | x, w'⟩
  · simp
  · simp

end Action

namespace Setting

variable {e : Setting σ}

/-- Static calls of the platform reach the host unless the unit bears the name of their owner. -/
theorem callStatic_eq (unowned : e.self ∉ methods.map (·.owner)) {m : MethodRef}
    (platform : m ∈ methods) (args : List Value) :
    e.callStatic m args = Action.ask (e.host.invoke .static m none args) :=
  if_neg fun own : m.owner = e.self => unowned (own ▸ List.mem_map_of_mem platform)

theorem handle_not_stuck (onFault : OnFault) (f : Fault) (w : World σ) :
    (e.handle onFault f w).1 ≠ .error .stuck := by
  cases onFault with
  | drop => nofun
  | report =>
    intro stuck
    rcases asked : e.callVirtual printStackTrace (.throwable f) [] w with ⟨s | v, w'⟩
    · have reported : e.handle .report f w = (.error s, w') := bind_apply_of_error asked _
      rw [reported] at stuck
      cases stuck
      exact Action.ask_not_stuck _ w (by rw [← callVirtual, asked])
    · have reported : e.handle .report f w = (.ok (), w') := bind_apply_of_ok asked _
      rw [reported] at stuck
      cases stuck

/-- Nothing that is put together from the parts of generated code gets stuck. -/
theorem Composes.not_stuck (unowned : e.self ∉ methods.map (·.owner))
    (tells : e.host.TellsAbstract) {α : Type} {d : Action σ α} (h : e.Composes d) (w : World σ) :
    (d w).1 ≠ .error .stuck := by
  induction h generalizing w with
  | done a => nofun
  | @bind _ _ d g _ _ first rest =>
    rcases hd : d w with ⟨s | a, w'⟩
    · rw [bind_apply_of_error hd]
      intro stuck
      cases stuck
      exact first w (by rw [hd])
    · rw [bind_apply_of_ok hd]
      exact rest a w'
  | newArray values => nofun
  | loadClass name =>
    unfold Setting.loadClass
    split
    · nofun
    · exact Action.ask_not_stuck _ w
  | newInstance name => exact Action.ask_not_stuck _ w
  | callStatic platform args =>
    rw [callStatic_eq unowned platform]
    exact Action.ask_not_stuck _ w
  | callVirtual m receiver args => exact Action.ask_not_stuck _ w
  | callInterface m receiver args => exact Action.ask_not_stuck _ w
  | byAbstractness args _ _ first second =>
    rw [callStatic_eq unowned (by simp [methods])]
    rcases asked : Action.ask (e.host.invoke .static isAbstract none args) w with ⟨s | v, w'⟩
    · rw [bind_apply_of_error asked]
      intro stuck
      cases stuck
      exact Action.ask_not_stuck _ w (by rw [asked])
    -- Here alone a value is looked at, and the host has to have answered with a flag.
    · rw [bind_apply_of_ok asked]
      obtain ⟨b, rfl⟩ := tells args w v (by rw [Action.answer_of_ask asked])
      rw [Action.choose_bool]
      split
      · exact first w'
      · exact second w'
  | isolated onFault _ inner =>
    unfold Setting.isolated
    split
    · exact handle_not_stuck onFault _ _
    · exact inner w

end Setting

namespace CodeUnit

/-- A routine that does what an action does, which never gets stuck, returns or throws. -/
theorem run_of_not_stuck {u : CodeUnit} {host : Host σ} {depth : Nat} {name : String}
    {args : List Value} {d : Action σ Unit} {w : World σ}
    (answers : (u.context host depth).Answers name args (do d; return .null))
    (safe : (d w).1 ≠ .error .stuck) :
    (u.run host depth name args w).1 = .returned .null ∨
      ∃ f, (u.run host depth name args w).1 = .failed (.uncaught name f) := by
  have answered := answers w
  rcases hd : d w with ⟨s | _, w'⟩
  · rw [bind_apply_of_error hd] at answered
    obtain ⟨h, stop, called⟩ := answered
    have called : u.call host depth name args w = (.error h, w') := called
    cases h with
    | fault f =>
      refine .inr ⟨f, ?_⟩
      rw [run, called]
    | error _ | exhausted =>
      cases stop
      rw [hd] at safe
      exact absurd rfl safe
  · rw [bind_apply_of_ok hd] at answered
    have called : u.call host depth name args w = (.ok .null, w') := answered
    refine .inl ?_
    rw [run, called]

end CodeUnit

namespace Plan

/-- A run of the entry point of a synthesized unit ends with null or with a fault that nothing
caught, whatever the host does and however deep calls may be nested otherwise. -/
theorem entryPoint_returns_or_throws (d : Declarations) (o : Options) (log : Log) (host : Host σ)
    (tells : host.TellsAbstract) (unowned : dotted o.unitName ∉ methods.map (·.owner))
    (fits : (ofDeclarations d).Fits o) (depth : Nat) (access : Value) (w : World σ) :
    ∃ u, (((ofDeclarations d).synthesize o).run.run log).1 = .ok u ∧
      ((u.run host (depth + 2) "beforeAnalysis" [access] w).1 = .returned .null ∨
        ∃ f, (u.run host (depth + 2) "beforeAnalysis" [access] w).1 =
          .failed (.uncaught "beforeAnalysis" f)) := by
  refine ⟨(ofDeclarations d).unit o, (ofDeclarations d).synthesize_eq o log, ?_⟩
  have composed : (setting o host).Composes ((setting o host).enter (ofDeclarations d) o access) :=
    .enter _ o access
  exact CodeUnit.run_of_not_stuck (entryPoint_answers fits host depth access)
    (composed.not_stuck unowned tells w)

/-- A host that counts its calls, throws at every other one, and knows no value but yes. -/
def moody : Host Nat where
  loadClass _ := answer
  newInstance _ := answer
  invoke _ _ _ _ := answer
where
  answer (w : World Nat) : Reply Nat :=
    (if w.host % 2 = 0 then .ok (.bool true) else .error (.classNotFound "pkg.Lost"),
      { w with host := w.host + 1 })

theorem tellsAbstract_moody : moody.TellsAbstract := by
  intro args w v answered
  refine ⟨true, ?_⟩
  simp only [moody, moody.answer] at answered
  split at answered
  · exact (Except.ok.inj answered).symm
  · cases answered

/-- Something of what the code of workers and of the entry point branches on. -/
def moodySample : Declarations where
  reflectiveClasses := [{ classNames := ["pkg.A", "pkg.B"], methods := true, serialization := true }]
  jniAccess := [{ classNames := ["pkg.A"], fields := true }]
  runtimeInitializedPackages := [⟨"pkg"⟩]

theorem entryPoint_returns_or_throws_moody :
    moody.TellsAbstract ∧ dotted ({} : Options).unitName ∉ methods.map (·.owner) ∧
    (ofDeclarations moodySample).Fits {} ∧
    ∃ u, (((ofDeclarations moodySample).synthesize {}).run.run ⟨.info, []⟩).1 = .ok u ∧
      ((u.run moody 10000 "beforeAnalysis" [.null] ⟨0, ⟨#[]⟩⟩).1 = .returned .null ∨
        ∃ f, (u.run moody 10000 "beforeAnalysis" [.null] ⟨0, ⟨#[]⟩⟩).1 =
          .failed (.uncaught "beforeAnalysis" f)) := by
  have unowned : dotted ({} : Options).unitName ∉ methods.map (·.owner) := by decide
  have fits : (ofDeclarations moodySample).Fits {} := fits_of_size {} (by decide)
  exact ⟨tellsAbstract_moody, unowned, fits,
    entryPoint_returns_or_throws moodySample {} ⟨.info, []⟩ moody tellsAbstract_moody unowned fits
      9998 .null ⟨0, ⟨#[]⟩⟩⟩

end Plan
end Registrar
