import Registrar.Proofs.Running.Unit

/-! Runs of a synthesized unit on a recording host. What is noted in a run is read off the plan and the
catalogue of the host, and it is told when the entry point comes to its end. -/
namespace Registrar

open Platform

/-- What the unit of these options finds in a world. -/
def Options.scene (o : Options) (w : World Recorder) : Scene :=
  ⟨w.host.catalogue, dotted o.unitName⟩

/-- The world after more events have been noted, with the arrays of a store. -/
def World.noting (w : World Recorder) (es : List Event) (s : Store) : World Recorder :=
  ⟨{ w.host with events := w.host.events ++ es }, s⟩

namespace CodeUnit

variable {u : CodeUnit} {scene : Scene} {depth : Nat} {name : String} {args : List Value}
  {d : Action Recorder Unit} {x : Walk Unit}

/-- A routine that does what follows a walk either gets stuck, because the walk meets the name of the
unit, or comes to the end of the walk. -/
theorem run_of_follows
    (answers : (u.context Recorder.host depth).Answers name args (do d; return .null))
    (follows : ∀ s, Follows scene s d x s Follows.unrelated) (w : World Recorder)
    (known : w.host.catalogue = scene.catalogue) :
    (x.Meets scene.self ∧ ∀ v, (u.run Recorder.host depth name args w).1 ≠ .returned v) ∨
    ¬x.Meets scene.self ∧ ∃ t, u.run Recorder.host depth name args w = match x.result with
      | .ok () => (.returned .null, w.noting x.events t)
      | .error f => (.failed (.uncaught name f), w.noting x.events t) := by
  obtain ⟨⟨catalogue, events⟩, s⟩ := w
  cases known
  have answered := answers (scene.world events s)
  rcases follows s events with ⟨meets, w', stuck⟩ | ⟨apart, t, -, ran⟩
  -- The walk has come to the unit itself, which is no class of the host: the run is stuck there.
  · refine .inl ⟨meets, ?_⟩
    rw [bind_apply_of_error stuck] at answered
    obtain ⟨h, stop, called⟩ := answered
    have called : u.call Recorder.host depth name args (scene.world events s) = (.error h, w') :=
      called
    change ∀ v, (u.run Recorder.host depth name args (scene.world events s)).1 ≠ .returned v
    rw [CodeUnit.run, called]
    cases h with
    | fault f => cases stop
    | error e => exact fun v => nofun
    | exhausted => exact fun v => nofun
  · refine .inr ⟨apart, t, ?_⟩
    change u.run Recorder.host depth name args (scene.world events s) = _
    cases ends : x.result with
    | error f =>
      simp only [ends] at ran
      rw [bind_apply_of_error ran] at answered
      obtain ⟨h, stop, called⟩ := answered
      have called : u.call Recorder.host depth name args (scene.world events s) =
          (.error h, scene.world (events ++ x.events) t) := called
      rw [CodeUnit.run, called]
      cases h with
      | fault g =>
        cases stop
        rfl
      | error e => cases stop
      | exhausted => cases stop
    | ok a =>
      simp only [ends] at ran
      obtain ⟨a, ran, -⟩ := ran
      rw [bind_apply_of_ok ran] at answered
      have called : u.call Recorder.host depth name args (scene.world events s) =
          (.ok .null, scene.world (events ++ x.events) t) := answered
      rw [CodeUnit.run, called]
      rfl

end CodeUnit

namespace Plan

variable {p : Plan} {o : Options}

/-- The entry point either gets stuck or carries out the plan, and then fails only for want of the
application class. -/
theorem runEntryPoint_cases (fits : p.Fits o) (w : World Recorder) :
    (((o.scene w).enter p o).Meets (dotted o.unitName) ∧
      ∀ v, ((p.unit o).runEntryPoint w).1 ≠ .returned v) ∨
    ¬((o.scene w).enter p o).Meets (dotted o.unitName) ∧
      ∃ s, (p.unit o).runEntryPoint w =
        (if (o.scene w).loads o.applicationClass then .returned .null
          else .failed (.uncaught entryPointHead.name (.classNotFound o.applicationClass)),
          w.noting ((o.scene w).planEvents p o) s) := by
  have follows : ∀ s, Follows (o.scene w) s
      ((o.scene w).setting.enter p o (.object beforeAnalysisAccessType)) ((o.scene w).enter p o) s
      Follows.unrelated := fun s => Follows.enter p o _
  have ran := CodeUnit.run_of_follows
    (entryPoint_answers fits Recorder.host 9998 (.object beforeAnalysisAccessType)) follows w rfl
  refine ran.imp id fun ⟨apart, s, ran⟩ => ⟨apart, s, ?_⟩
  rw [Scene.events_enter, Scene.result_enter] at ran
  refine Eq.trans ran ?_
  cases (o.scene w).loads o.applicationClass <;> rfl

/-- Whatever is declared, the entry point of its unit returns null and has the events of the plan
noted, if the name of the unit hides no method and the application class is found. -/
theorem runEntryPoint_ofDeclarations (d : Declarations) (o : Options) (log : Log)
    (w : World Recorder) (unowned : dotted o.unitName ∉ methods.map (·.owner))
    (found : (o.scene w).loads o.applicationClass) (fits : (ofDeclarations d).Fits o) :
    ∃ u s, (((ofDeclarations d).synthesize o).run.run log).1 = .ok u ∧
      u.runEntryPoint w =
        (.returned .null, w.noting ((o.scene w).planEvents (ofDeclarations d) o) s) := by
  refine ⟨(ofDeclarations d).unit o, ?_⟩
  rcases runEntryPoint_cases fits w with ⟨meets, -⟩ | ⟨-, s, ran⟩
  · exact absurd meets (Walk.not_meets unowned)
  · rw [if_pos found] at ran
    exact ⟨s, (ofDeclarations d).synthesize_eq o log, ran⟩

/-- A class that is found, a resource, and a class that is not. -/
def sample : Declarations where
  reflectiveClasses := [{ classNames := ["pkg.A"], methods := true }]
  resources := [⟨["app.properties"]⟩]
  runtimeInitializedClasses := [⟨"pkg.Lost"⟩]

/-- A host that knows one class with one method. -/
def sampleWorld : World Recorder :=
  ⟨{ catalogue := { classes := [{ name := "pkg.A", methods := [("run", [])] }] } }, ⟨#[]⟩⟩

theorem runEntryPoint_sample :
    dotted ({} : Options).unitName ∉ methods.map (·.owner) ∧
    (Options.scene {} sampleWorld).loads ({} : Options).applicationClass ∧
    (ofDeclarations sample).Fits {} ∧
    ∃ u s, (((ofDeclarations sample).synthesize {}).run.run ⟨.info, []⟩).1 = .ok u ∧
      u.runEntryPoint sampleWorld = (.returned .null, sampleWorld.noting
        [.failureReported (.classNotFound "pkg.Lost"), .initializeAtRunTime [],
          .resource "app.properties", .registerClasses .reflection ["pkg.A"],
          .registerExecutables .reflection [.method "pkg.A" "run" []]] s) := by
  have unowned : dotted ({} : Options).unitName ∉ methods.map (·.owner) := by decide
  have found : (Options.scene {} sampleWorld).loads ({} : Options).applicationClass := by decide
  have fits : (ofDeclarations sample).Fits {} := fits_of_size {} (by decide)
  exact ⟨unowned, found, fits,
    runEntryPoint_ofDeclarations sample {} ⟨.info, []⟩ sampleWorld unowned found fits⟩

/-- The worker of a class returns null in any case. It has the events of its record noted, up to the
first fault, which it reports only if it is told to. -/
theorem run_classWorker (p : Plan) (o : Options) (log : Log) (w : World Recorder)
    (unowned : dotted o.unitName ∉ methods.map (·.owner)) (fits : p.Fits o) {index : Nat}
    {r : ClassRecord} (listed : p.classes.records[index]? = some r) :
    ∃ u s, ((p.synthesize o).run.run log).1 = .ok u ∧
      u.run Recorder.host callDepth (classWorkerHead index).name [] w =
        (.returned .null,
          w.noting (((o.scene w).classScript r).isolated o.workerOnFault) s) := by
  refine ⟨p.unit o, ?_⟩
  have follows : ∀ s, Follows (o.scene w) s ((o.scene w).setting.isolated o.workerOnFault
      ((o.scene w).setting.registerClass r)) (Walk.isolated o.workerOnFault
      ((o.scene w).registerClass r)) s Follows.unrelated :=
    fun s => Follows.isolated _ (Follows.registerClass r)
  have told := Walk.Tells.isolated o.workerOnFault (Walk.Tells.registerClass (o.scene w) r)
  have ran := CodeUnit.run_of_follows (classWorker_answers fits Recorder.host 9999 listed) follows w
    rfl
  rcases ran with ⟨meets, -⟩ | ⟨-, s, ran⟩
  · exact absurd meets (Walk.not_meets unowned)
  · rw [told.1, Script.events_sure] at ran
    exact ⟨s, p.synthesize_eq o log, ran⟩

/-- The second method is not there, which ends the worker. -/
def samplePlan : Plan :=
  ofDeclarations { reflectiveMethods := [⟨"pkg.A", "run", []⟩, ⟨"pkg.A", "stop", []⟩,
    ⟨"pkg.A", "run", ["int"]⟩] }

theorem run_classWorker_sample :
    let o : Options := { logWorkerFailures := true }
    dotted o.unitName ∉ methods.map (·.owner) ∧ samplePlan.Fits o ∧
    (∃ r, samplePlan.classes.records[0]? = some r) ∧
    ∃ u s, ((samplePlan.synthesize o).run.run ⟨.info, []⟩).1 = .ok u ∧
      u.run Recorder.host callDepth "registerClass0" [] sampleWorld = (.returned .null,
        sampleWorld.noting [.registerClasses .reflection ["pkg.A"],
          .registerExecutables .reflection [.method "pkg.A" "run" []],
          .failureReported (.noSuchMethod "pkg.A" "stop()")] s) := by
  intro o
  have unowned : dotted o.unitName ∉ methods.map (·.owner) := by decide
  have fits : samplePlan.Fits o := fits_of_size o (by decide)
  let r : ClassRecord := samplePlan.classes.records.head (by decide)
  have listed : samplePlan.classes.records[0]? = some r := rfl
  have noted : ((o.scene sampleWorld).classScript r).isolated o.workerOnFault =
      [.registerClasses .reflection ["pkg.A"],
        .registerExecutables .reflection [.method "pkg.A" "run" []],
        .failureReported (.noSuchMethod "pkg.A" "stop()")] := by decide
  have ran := run_classWorker samplePlan o ⟨.info, []⟩ sampleWorld unowned fits listed
  rw [noted] at ran
  exact ⟨unowned, fits, ⟨r, listed⟩, ran⟩

end Plan

namespace Declarations

/-- The entry point of a unit returns exactly if no static call that it comes to is hidden by the name
of the unit, and the application class is found. -/
theorem runEntryPoint_returns_iff (d : Declarations) (o : Options) (log : Log)
    (w : World Recorder) (valid : d.validate = .ok ()) (fits : (Plan.ofDeclarations d).Fits o) :
    ∃ u, ((d.synthesize o).run.run log).1 = .ok u ∧
      ((∃ v, (u.runEntryPoint w).1 = .returned v) ↔
        ¬((o.scene w).enter (Plan.ofDeclarations d) o).Meets (dotted o.unitName) ∧
          (o.scene w).loads o.applicationClass) := by
  refine ⟨(Plan.ofDeclarations d).unit o, synthesize_of_valid valid o log, ?_⟩
  rcases Plan.runEntryPoint_cases fits w with ⟨meets, stuck⟩ | ⟨apart, s, ran⟩
  · constructor
    · rintro ⟨v, returned⟩
      exact absurd returned (stuck v)
    · rintro ⟨apart, -⟩
      exact absurd meets apart
  · rw [ran]
    cases found : (o.scene w).loads o.applicationClass
    · refine iff_of_false ?_ fun known => nomatch known.2
      rintro ⟨v, returned⟩
      cases returned
    · exact iff_of_true ⟨.null, rfl⟩ ⟨apart, rfl⟩

/-- Nothing is declared, but the host does not know the application class. -/
theorem runEntryPoint_returns_iff_unknown :
    let o : Options := { applicationClass := "com.acme.App" }
    ({} : Declarations).validate = .ok () ∧ (Plan.ofDeclarations {}).Fits o ∧
    ∃ u, ((synthesize {} o).run.run ⟨.info, []⟩).1 = .ok u ∧
      ¬∃ v, (u.runEntryPoint Plan.sampleWorld).1 = .returned v := by
  intro o
  have valid : ({} : Declarations).validate = .ok () := rfl
  have fits : (Plan.ofDeclarations {}).Fits o := Plan.fits_of_size o (by decide)
  obtain ⟨u, made, returns⟩ := runEntryPoint_returns_iff {} o ⟨.info, []⟩ Plan.sampleWorld valid fits
  have unknown : (o.scene Plan.sampleWorld).loads o.applicationClass = false := by decide
  refine ⟨valid, fits, u, made, fun returned => ?_⟩
  have known := (returns.1 returned).2
  rw [unknown] at known
  cases known

end Declarations
end Registrar
