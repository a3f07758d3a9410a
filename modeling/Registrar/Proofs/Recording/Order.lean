import Registrar.Proofs.Planning.Rearrangement
import Registrar.Proofs.Recording.Run
import Registrar.Proofs.Recording.Sections

/-! Runs of rearranged declarations. The order in which the parts of a build come moves the records of
a plan about, and with them the names of workers and the numbers of values. All that a host gets to
see of this is the order of its events. -/
namespace Registrar

open Platform

/-! ### Numbers -/

namespace Emit

/-- Emissions that take as many numbers, one behind the other. -/
theorem next_bind_congr {x y : Emission Unit} {f g : Unit → Emission Unit}
    (first : ∀ n, (x n).next = (y n).next) (rest : ∀ n, (f () n).next = (g () n).next) (n : Nat) :
    ((x >>= f) n).next = ((y >>= g) n).next := by
  rw [next_bind, next_bind, first]
  exact rest _

/-- A loop whose rounds all take the same number of numbers. -/
theorem next_forM {ι : Type} {f : ι → Emission Unit} {k : Nat}
    (takes : ∀ a n, (f a n).next = n + k) (as : List ι) (n : Nat) :
    (as.forM f n).next = n + k * as.length := by
  induction as generalizing n with
  | nil => rfl
  | cons a as ih =>
    change ((f a >>= fun _ => as.forM f) n).next = _
    rw [next_bind, ih, takes, List.length_cons, Nat.mul_succ]
    omega

end Emit

namespace Plan

variable {p p' : Plan} (h : p.Rearranged p') (o : Options)

include h

theorem Rearranged.next_registerAll (access : ValueId) (n : Nat) :
    (p'.registerAll o access n).next = (p.registerAll o access n).next := by
  have resources (n : Nat) : (p'.registerResources n).next = (p.registerResources n).next := by
    have length : (p'.resources ++ p'.serviceDescriptors).length =
        (p.resources ++ p.serviceDescriptors).length := by
      rw [h.others]
      simp [h.serviceDescriptors.length_eq]
    unfold registerResources
    rw [Emit.next_forM (k := 2) fun _ _ => rfl, Emit.next_forM (k := 2) fun _ _ => rfl, length]
  let call (worker : MethodRef) : Emission Unit := discard (Emit.invokeStatic worker [])
  have workers (n : Nat) : ((p'.workers o).forM call n).next = ((p.workers o).forM call n).next := by
    have length : (p'.workers o).length = (p.workers o).length := by
      simp [Plan.workers, ClassTable.size, h.classes.length_eq, h.jniClasses.length_eq]
    rw [Emit.next_forM (k := 1) fun _ _ => rfl, Emit.next_forM (k := 1) fun _ _ => rfl, length]
  have others := h.others
  unfold registerAll
  -- All other registrations are those of the same declarations.
  refine Emit.next_bind_congr (fun _ => by rw [others]) ?_ n
  refine Emit.next_bind_congr (fun _ => by rw [others]; rfl) ?_
  refine Emit.next_bind_congr (fun _ => by rw [others]; rfl) ?_
  refine Emit.next_bind_congr (fun _ => by rw [others]; rfl) ?_
  refine Emit.next_bind_congr (fun _ => by rw [others]; rfl) ?_
  refine Emit.next_bind_congr resources ?_
  refine Emit.next_bind_congr (fun _ => by rw [others]; rfl) ?_
  refine Emit.next_bind_congr (fun _ => by rw [others]; rfl) ?_
  refine Emit.next_bind_congr (fun _ => by rw [others]; rfl) ?_
  exact workers

/-- A rearranged plan takes no more numbers. -/
theorem Rearranged.fits (fits : p.Fits o) : p'.Fits o where
  entryPoint := by
    have same (access : ValueId) (n : Nat) := h.next_registerAll o access n
    refine Eq.trans_le ?_ fits.entryPoint
    unfold enter
    simp only [Emission.isolated, Emit.next_bind, Emit.next_isolate, same]
  classWorkers r listed := fits.classWorkers r (h.classes.mem_iff.2 listed)
  jniWorkers r listed := fits.jniWorkers r (h.jniClasses.mem_iff.2 listed)

end Plan

/-! ### Events -/

namespace Scene

theorem perm_planEvents (s : Scene) {p p' : Plan} (h : p.Rearranged p') (o : Options) :
    (s.planEvents p o).Perm (s.planEvents p' o) := by
  have opening : s.openingEvents p' o = s.openingEvents p o := by
    rw [h.others]
    rfl
  have proxies : p'.proxyDefinitions = p.proxyDefinitions := by rw [h.others]
  rw [planEvents_eq, planEvents_eq, opening, proxies]
  refine .append_left _ (.append_left _ ?_)
  cases (s.proxyScript p.proxyDefinitions).result with
  | error f => exact .refl _
  | ok =>
    have resources : p'.resources = p.resources := by rw [h.others]
    have patterns : p'.resourcePatterns = p.resourcePatterns := by rw [h.others]
    have bundles : p'.resourceBundles = p.resourceBundles := by rw [h.others]
    have ciphers : p'.cipherTransformations = p.cipherTransformations := by rw [h.others]
    refine List.Perm.append ?_ ?_
    · unfold closingEvents
      rw [resources, patterns, bundles, ciphers]
      refine .append_right _ (.append_right _ (.append_right _ (.map _ ?_)))
      exact .append_left _ h.serviceDescriptors
    · exact (h.classes.flatMap_right _).append (h.jniClasses.flatMap_right _)

end Scene

namespace Declarations

/-- The unit that is made for the declarations, and that they are synthesized to if they are valid,
runs to this end on the host, which notes these events. -/
def Runs (d : Declarations) (o : Options) (w : World Recorder) (outcome : Outcome)
    (es : List Event) : Prop :=
  ∀ log, ∃ u, (((Plan.ofDeclarations d).synthesize o).run.run log).1 = .ok u ∧
    (d.validate = .ok () → ((d.synthesize o).run.run log).1 = .ok u) ∧
    (u.runEntryPoint w).1 = outcome ∧ (u.runEntryPoint w).2.host.events = w.host.events ++ es

theorem runs_planEvents (d : Declarations) {o : Options} (w : World Recorder)
    (unowned : dotted o.unitName ∉ methods.map (·.owner)) (fits : (Plan.ofDeclarations d).Fits o) :
    d.Runs o w (if (o.scene w).loads o.applicationClass then .returned .null
        else .failed (.uncaught entryPointHead.name (.classNotFound o.applicationClass)))
      ((o.scene w).planEvents (Plan.ofDeclarations d) o) := by
  intro log
  refine ⟨(Plan.ofDeclarations d).unit o, (Plan.ofDeclarations d).synthesize_eq o log,
    fun valid => synthesize_of_valid valid o log, ?_⟩
  rcases Plan.runEntryPoint_cases fits w with ⟨meets, -⟩ | ⟨-, s, ran⟩
  · exact absurd meets (Walk.not_meets unowned)
  · rw [ran]
    exact ⟨rfl, rfl⟩

/-- Whatever the order of the parts of a build, its entry point runs to the same end, and the host
notes the same events, each as often. -/
theorem runs_rearranged {d d' : Declarations} (h : d.Rearranged d') (o : Options)
    (w : World Recorder) (unowned : dotted o.unitName ∉ methods.map (·.owner))
    (fits : (Plan.ofDeclarations d).Fits o) :
    ∃ outcome es es', d.Runs o w outcome es ∧ d'.Runs o w outcome es' ∧ es.Perm es' := by
  have plans := Plan.ofDeclarations_rearranged h
  exact ⟨_, _, _, d.runs_planEvents w unowned fits,
    d'.runs_planEvents w unowned (plans.fits o fits), (o.scene w).perm_planEvents plans o⟩

/-- One class gets its methods from one declaration and its constructors as a provider. -/
def shared : Declarations where
  reflectiveClasses := [{ classNames := ["pkg.A", "pkg.Lost"], methods := true },
    { classNames := ["pkg.B", "pkg.A"], serialization := true }]
  serviceProviders := [⟨"pkg.Service", ["pkg.A", "pkg.C"]⟩, ⟨"pkg.Other", ["pkg.B"]⟩]
  jniAccess := [{ classNames := ["pkg.A", "pkg.B"], methods := true }, { classNames := ["pkg.A"] }]

/-- The same, with every list in another order. -/
def sharedReordered : Declarations where
  reflectiveClasses := [{ classNames := ["pkg.A", "pkg.B"], serialization := true },
    { classNames := ["pkg.Lost", "pkg.A"], methods := true }]
  serviceProviders := [⟨"pkg.Other", ["pkg.B"]⟩, ⟨"pkg.Service", ["pkg.C", "pkg.A"]⟩]
  jniAccess := [{ classNames := ["pkg.A"] }, { classNames := ["pkg.B", "pkg.A"], methods := true }]

theorem runs_rearranged_shared :
    shared.Rearranged sharedReordered ∧
    dotted ({} : Options).unitName ∉ methods.map (·.owner) ∧
    (Plan.ofDeclarations shared).Fits {} ∧
    ∃ outcome es es', shared.Runs {} Plan.sampleWorld outcome es ∧
      sharedReordered.Runs {} Plan.sampleWorld outcome es' ∧ es.Perm es' := by
  have rearranged : shared.Rearranged sharedReordered := {
    reflectiveClasses := ⟨sharedReordered.reflectiveClasses.reverse,
      .cons ⟨rfl, by decide⟩ (.cons ⟨rfl, by decide⟩ .nil), by decide⟩
    serviceProviders := ⟨sharedReordered.serviceProviders.reverse,
      .cons ⟨rfl, by decide⟩ (.cons ⟨rfl, by decide⟩ .nil), by decide⟩
    jniAccess := ⟨sharedReordered.jniAccess.reverse,
      .cons ⟨rfl, by decide⟩ (.cons ⟨rfl, by decide⟩ .nil), by decide⟩
    others := rfl }
  have unowned : dotted ({} : Options).unitName ∉ methods.map (·.owner) := by decide
  have fits : (Plan.ofDeclarations shared).Fits {} := Plan.fits_of_size {} (by decide)
  exact ⟨rearranged, unowned, fits, runs_rearranged rearranged {} Plan.sampleWorld unowned fits⟩

end Declarations
end Registrar
