import Registrar.Proofs.Recording.Script

/-! The events of a plan in sections. What is registered for proxies stands between two sections in
which nothing can go wrong; whether the second is come to hangs on the proxies alone. -/
namespace Registrar

open Platform

namespace Script

theorem mem_of_mem_events {s : Script} {e : Event} (h : e ∈ s.events) : .ok e ∈ s := by
  induction s with
  | nil => cases h
  | cons step s ih =>
    cases step with
    | ok first =>
      rcases List.mem_cons.1 h with rfl | later
      · exact List.mem_cons_self
      · exact List.mem_cons_of_mem _ (ih later)
    | error f => cases h

end Script

namespace Scene

variable (s : Scene) (p : Plan) (o : Options)

/-- What is noted in front of the proxies. -/
def openingEvents : List Event :=
  p.unsafeAccessedFields.flatMap (fun f => (s.unsafeScript f).isolated .report) ++
    s.runtimeClassEvents p.runtimeInitializedClasses ++
    runtimePackageEvents p.runtimeInitializedPackages ++
    s.reinitializedEvents p.runtimeReinitializedClasses o.originator

/-- What is noted behind the proxies, but for the workers. -/
def closingEvents : List Event :=
  (p.resources ++ p.serviceDescriptors).map .resource ++ s.patternEvents p.resourcePatterns ++
    s.bundleEvents p.resourceBundles ++ s.cipherEvents p.cipherTransformations.toList

theorem planScript_eq : s.planScript p o = .sure (s.openingEvents p o) ++
    (s.proxyScript p.proxyDefinitions ++ .sure (s.closingEvents p ++ s.workerEvents p o)) := by
  simp only [planScript, openingEvents, closingEvents, Script.sure, List.map_append,
    List.append_assoc]

/-- A fault of the proxies is reported in place of all that follows. -/
theorem planEvents_eq : s.planEvents p o = s.openingEvents p o ++
    ((s.proxyScript p.proxyDefinitions).events ++
      match (s.proxyScript p.proxyDefinitions).result with
      | .ok _ => s.closingEvents p ++ s.workerEvents p o
      | .error f => [.failureReported f]) := by
  rw [planEvents, planScript_eq, Script.isolated, Script.events_append, Script.events_append,
    Script.result_append, Script.result_append]
  simp only [Script.events_sure, Script.result_sure, Except.bind]
  cases (s.proxyScript p.proxyDefinitions).result <;> simp [Walk.caught]

/-- The registry of proxies is there, and each interface is found. -/
def findsProxies (definitions : List ProxyDefinition) : Bool :=
  definitions.isEmpty || !s.catalogue.missingSingletons.contains dynamicProxyRegistryType &&
    definitions.all (·.interfaces.all s.catalogue.knows)

theorem result_proxySteps (definitions : List ProxyDefinition) :
    Script.result (definitions.map s.proxyStep) = .ok () ↔
      ∀ d ∈ definitions, ∀ name ∈ d.interfaces, s.catalogue.knows name := by
  induction definitions with
  | nil => simp [Script.result]
  | cons d ds ih =>
    rw [List.map_cons, List.forall_mem_cons, ← ih, proxyStep]
    cases missing : d.interfaces.find? (!s.catalogue.knows ·) with
    | some name =>
      have lost := List.find?_some missing
      have named := List.mem_of_find?_eq_some missing
      refine iff_of_false nofun fun ⟨known, _⟩ => ?_
      simp [known name named] at lost
    | none =>
      have known : ∀ name ∈ d.interfaces, s.catalogue.knows name := by
        simpa using List.find?_eq_none.1 missing
      exact (and_iff_right known).symm

theorem result_proxyScript (definitions : List ProxyDefinition) :
    (s.proxyScript definitions).result = .ok () ↔ s.findsProxies definitions := by
  unfold proxyScript findsProxies withSingleton
  cases definitions.isEmpty
  · cases s.catalogue.missingSingletons.contains dynamicProxyRegistryType
    · simpa using s.result_proxySteps definitions
    · simp [Script.result]
  · simp [Script.result]

end Scene
end Registrar
