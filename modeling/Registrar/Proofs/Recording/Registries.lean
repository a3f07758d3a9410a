import Registrar.Proofs.Recording.Order
import Registrar.Proofs.Tracing.Arrival

/-! Registrations for reflection and for native code. They share classes, workers and the host, and
yet none is noted otherwise because of the others, as long as workers drop their faults. -/
namespace Registrar

open Platform

/-- Something is registered for native code. -/
def Event.ofJni : Event → Bool
  | .registerClasses registry _ | .registerExecutables registry _
  | .registerFields registry _ _ _ => registry = .jni
  | _ => false

/-- What is registered for native code of a class that one declaration names. -/
def JniAccess.events (a : JniAccess) (c : Catalogue) (className : String) : List Event :=
  .registerClasses .jni [className] ::
    ((if a.constructors then [.registerExecutables .jni (c.constructors className)] else []) ++
    ((if a.methods then [.registerExecutables .jni (c.methods className)] else []) ++
    if a.fields then
      [.registerFields .jni (c.fields className) a.finalFieldsWritable false]
    else []))

/-- What is registered for native code on a host with this catalogue: each class that it knows, as
often as the class is named. -/
def Catalogue.jniEvents (c : Catalogue) (accesses : List JniAccess) : List Event :=
  accesses.flatMap fun a => (a.classNames.filter c.knows).flatMap (a.events c)

theorem Catalogue.ofJni_of_mem_jniEvents (c : Catalogue) (accesses : List JniAccess) :
    ∀ e ∈ c.jniEvents accesses, e.ofJni = true := by
  intro e listed
  obtain ⟨a, -, ofAccess⟩ := List.mem_flatMap.1 listed
  obtain ⟨className, -, ofClass⟩ := List.mem_flatMap.1 ofAccess
  simp only [JniAccess.events, List.mem_cons, List.mem_append] at ofClass
  rcases ofClass with rfl | noted | noted | noted
  · rfl
  all_goals
    split at noted
    · cases List.mem_singleton.1 noted
      rfl
    · cases noted

/-! ### Events that are not of native code -/

/-- Nothing of it is registered for native code. -/
def NoJni (es : List Event) : Prop := ∀ e ∈ es, e.ofJni = false

theorem NoJni.nil : NoJni [] := fun _ listed => nomatch listed

theorem NoJni.append {es es' : List Event} (h : NoJni es) (h' : NoJni es') : NoJni (es ++ es') :=
  fun e listed => (List.mem_append.1 listed).elim (h e) (h' e)

theorem NoJni.flatMap {α : Type} {as : List α} {f : α → List Event} (h : ∀ a, NoJni (f a)) :
    NoJni (as.flatMap f) := by
  intro e listed
  obtain ⟨a, -, noted⟩ := List.mem_flatMap.1 listed
  exact h a e noted

theorem NoJni.map {α : Type} {as : List α} {f : α → Event} (h : ∀ a, (f a).ofJni = false) :
    NoJni (as.map f) := by
  intro e listed
  obtain ⟨a, -, rfl⟩ := List.mem_map.1 listed
  exact h a

theorem NoJni.single {e : Event} (h : e.ofJni = false) : NoJni [e] := by
  intro e' listed
  cases List.mem_singleton.1 listed
  exact h

/-- A category that is left out if nothing is declared for it. -/
theorem NoJni.category {empty : Bool} {es : List Event} (h : NoJni es) :
    NoJni (if empty then [] else es) := by
  cases empty
  · exact h
  · exact .nil

theorem NoJni.filter {es : List Event} (h : NoJni es) : es.filter Event.ofJni = [] := by
  rw [List.filter_eq_nil_iff]
  exact fun e listed => by simp [h e listed]

theorem NoJni.filter_not {es : List Event} (h : NoJni es) : es.filter (!·.ofJni) = es := by
  rw [List.filter_eq_self]
  exact fun e listed => by simp [h e listed]

namespace Script

/-- None of the steps registers anything for native code. -/
def Plain (s : Script) : Prop := ∀ e, .ok e ∈ s → e.ofJni = false

theorem Plain.events {s : Script} (h : s.Plain) : NoJni s.events :=
  fun e noted => h e (mem_of_mem_events noted)

theorem Plain.isolated {s : Script} (h : s.Plain) (onFault : OnFault) :
    NoJni (s.isolated onFault) := by
  refine h.events.append ?_
  cases s.result with
  | ok => exact .nil
  | error f =>
    cases onFault with
    | report => exact .single rfl
    | drop => exact .nil

theorem plain_sure {es : List Event} (h : NoJni es) : (sure es).Plain := by
  intro e listed
  obtain ⟨e', noted, same⟩ := List.mem_map.1 listed
  cases same
  exact h e noted

theorem plain_nil : Plain [] := fun _ listed => nomatch listed

theorem plain_ok {e : Event} (h : e.ofJni = false) : Plain [.ok e] := by
  intro e' listed
  cases List.mem_singleton.1 listed
  exact h

theorem plain_error (f : Fault) : Plain [.error f] := by
  intro e listed
  cases List.mem_singleton.1 listed

theorem plain_map {α : Type} {step : α → Except Fault Event}
    (h : ∀ a e, step a = .ok e → e.ofJni = false) (as : List α) : Plain (as.map step) := by
  intro e listed
  obtain ⟨a, -, stepped⟩ := List.mem_map.1 listed
  exact h a e stepped

theorem Plain.append {s t : Script} (hs : s.Plain) (ht : t.Plain) : (s ++ t).Plain :=
  fun e listed => (List.mem_append.1 listed).elim (hs e) (ht e)

theorem Plain.ite {condition : Prop} [Decidable condition] {s t : Script} (hs : s.Plain)
    (ht : t.Plain) : (if condition then s else t).Plain := by
  split
  · exact hs
  · exact ht

end Script

namespace Scene

open Script

variable (s : Scene)

theorem plain_withSingleton (typeName : String) {script : Script} (h : script.Plain) :
    (s.withSingleton typeName script).Plain :=
  .ite (plain_error _) h

/-! ### Classes that are reached by reflection -/

theorem memberStep_ok {params : List String} {found : Bool} {missing : Fault} {e e' : Event}
    (h : s.memberStep params found missing e = .ok e') : e' = e := by
  unfold memberStep at h
  split at h
  · cases h
  · cases found <;> cases h
    rfl

theorem plain_constructorScript (r : ClassRecord) : (s.constructorScript r).Plain := by
  refine .ite (plain_ok rfl) (plain_map (fun sig e stepped => ?_) _)
  rw [s.memberStep_ok stepped]
  rfl

theorem plain_methodScript (r : ClassRecord) : (s.methodScript r).Plain := by
  refine .ite (plain_ok rfl) (plain_map (fun sig e stepped => ?_) _)
  rw [s.memberStep_ok stepped]
  rfl

theorem plain_fieldScript (r : ClassRecord) : (s.fieldScript r).Plain := by
  refine .ite (plain_ok rfl) (plain_map (fun name e stepped => ?_) _)
  unfold fieldStep at stepped
  split at stepped <;> cases stepped
  rfl

theorem plain_accessorScript (className : String) : (s.accessorScript className).Plain :=
  s.plain_withSingleton _ (.append (s := [_]) (plain_ok rfl) (plain_ok rfl))

theorem plain_classScript (r : ClassRecord) : (s.classScript r).Plain := by
  refine .ite (.append (.ite plain_nil (plain_ok rfl)) ?_) (plain_error _)
  exact (s.plain_constructorScript r).append ((s.plain_methodScript r).append
    ((s.plain_fieldScript r).append (.ite (s.plain_accessorScript _) plain_nil)))

/-! ### The general registrations -/

theorem plain_unsafeScript (f : UnsafeAccessedField) : (s.unsafeScript f).Plain := by
  unfold unsafeScript
  refine .ite ?_ (plain_error _)
  cases s.catalogue.hasField f.declaringClass f.fieldName
  · exact plain_error _
  · exact plain_ok rfl

theorem noJni_openingEvents (p : Plan) (o : Options) : NoJni (s.openingEvents p o) := by
  have unsafe_ : NoJni (p.unsafeAccessedFields.flatMap fun f =>
      (s.unsafeScript f).isolated .report) :=
    .flatMap fun f => (s.plain_unsafeScript f).isolated .report
  have classes : NoJni (s.runtimeClassEvents p.runtimeInitializedClasses) :=
    .category (.append (.map fun _ => rfl) (.single rfl))
  have packages : NoJni (runtimePackageEvents p.runtimeInitializedPackages) :=
    .category (.single rfl)
  have again : NoJni (s.reinitializedEvents p.runtimeReinitializedClasses o.originator) := by
    refine .category ((s.plain_withSingleton _ (plain_sure (.map fun c => ?_))).isolated .report)
    split <;> rfl
  exact ((unsafe_.append classes).append packages).append again

theorem plain_proxyScript (definitions : List ProxyDefinition) :
    (s.proxyScript definitions).Plain := by
  refine .ite plain_nil (s.plain_withSingleton _ (plain_map (fun d e stepped => ?_) _))
  unfold proxyStep at stepped
  split at stepped <;> cases stepped
  rfl

theorem noJni_closingEvents (p : Plan) : NoJni (s.closingEvents p) := by
  have patterns : NoJni (s.patternEvents p.resourcePatterns) :=
    .category ((s.plain_withSingleton _ (plain_sure
      (.append (.map fun _ => rfl) (.map fun _ => rfl)))).isolated .report)
  have bundles : NoJni (s.bundleEvents p.resourceBundles) :=
    .category (Plain.isolated (.ite (s.plain_withSingleton _ (plain_sure (.map fun _ => rfl)))
      (plain_error _)) .report)
  exact ((NoJni.append (.map fun _ => rfl) patterns).append bundles).append (.map fun _ => rfl)

/-! ### Events that are of native code -/

/-- The worker of a class that the host does not know notes nothing. -/
theorem isolated_jniScript (a : JniAccess) (className : String) :
    (s.jniScript ⟨className, a.constructors, a.methods, a.fields, a.finalFieldsWritable⟩).isolated
      .drop = if s.catalogue.knows className then a.events s.catalogue className else [] := by
  unfold jniScript JniAccess.events
  cases s.catalogue.knows className
  · rfl
  · cases a.constructors <;> cases a.methods <;> cases a.fields <;> rfl

theorem flatMap_jniScript (accesses : List JniAccess) :
    (accesses.flatMap JniAccess.records).flatMap (fun r => (s.jniScript r).isolated .drop) =
      s.catalogue.jniEvents accesses := by
  rw [List.flatMap_assoc]
  refine List.flatMap_congr fun a _ => ?_
  rw [JniAccess.records, List.flatMap_map]
  induction a.classNames with
  | nil => rfl
  | cons className names ih =>
    rw [List.flatMap_cons, ih, s.isolated_jniScript a className]
    cases known : s.catalogue.knows className <;> simp [known]

/-! ### The plan -/

variable {p : Plan} {o : Options}

/-- With a fault of the proxies nothing is noted of the workers. -/
theorem planEvents_of_not_findsProxies (lost : ¬s.findsProxies p.proxyDefinitions) :
    s.planEvents p o = s.planEvents { p with jniClasses := [] } o := by
  rw [planEvents_eq, planEvents_eq]
  cases ended : (s.proxyScript p.proxyDefinitions).result with
  | ok => exact absurd ((s.result_proxyScript _).1 ended) lost
  | error f => rfl

/-- What is registered for native code comes behind all the rest. -/
theorem planEvents_append_jniEvents {accesses : List JniAccess} (drops : o.workerOnFault = .drop)
    (records : p.jniClasses = accesses.flatMap JniAccess.records) :
    s.planEvents p o = s.planEvents { p with jniClasses := [] } o ++
      if s.findsProxies p.proxyDefinitions then s.catalogue.jniEvents accesses else [] := by
  by_cases found : s.findsProxies p.proxyDefinitions
  · have ended := (s.result_proxyScript p.proxyDefinitions).2 found
    have last : s.workerEvents p o =
        s.workerEvents { p with jniClasses := [] } o ++ s.catalogue.jniEvents accesses := by
      rw [workerEvents, workerEvents, drops, records, flatMap_jniScript, List.flatMap_nil,
        List.append_nil]
    rw [if_pos found, planEvents_eq, planEvents_eq]
    simp only [ended, last, List.append_assoc]
    rfl
  · rw [if_neg found, List.append_nil, s.planEvents_of_not_findsProxies found]

theorem noJni_planEvents (none_ : p.jniClasses = []) : NoJni (s.planEvents p o) := by
  have workers : NoJni (s.workerEvents p o) := by
    rw [workerEvents, none_, List.flatMap_nil, List.append_nil]
    exact .flatMap fun r => (s.plain_classScript r).isolated _
  rw [planEvents_eq]
  refine (s.noJni_openingEvents p o).append ((s.plain_proxyScript _).events.append ?_)
  cases (s.proxyScript p.proxyDefinitions).result with
  | ok => exact (s.noJni_closingEvents p).append workers
  | error f => exact .single rfl

section

variable {accesses : List JniAccess} (drops : o.workerOnFault = .drop)
  (records : p.jniClasses = accesses.flatMap JniAccess.records)

include drops records

theorem filter_planEvents : (s.planEvents p o).filter Event.ofJni =
    if s.findsProxies p.proxyDefinitions then s.catalogue.jniEvents accesses else [] := by
  have others : NoJni (s.planEvents { p with jniClasses := [] } o) := s.noJni_planEvents rfl
  rw [s.planEvents_append_jniEvents drops records, List.filter_append, others.filter,
    List.nil_append]
  split
  · exact List.filter_eq_self.2 (s.catalogue.ofJni_of_mem_jniEvents accesses)
  · rfl

theorem filter_not_planEvents : (s.planEvents p o).filter (!·.ofJni) =
    s.planEvents { p with jniClasses := [] } o := by
  have others : NoJni (s.planEvents { p with jniClasses := [] } o) := s.noJni_planEvents rfl
  have native : (if s.findsProxies p.proxyDefinitions then s.catalogue.jniEvents accesses
      else []).filter (!·.ofJni) = [] := by
    rw [List.filter_eq_nil_iff]
    intro e listed
    split at listed
    · simp [s.catalogue.ofJni_of_mem_jniEvents accesses e listed]
    · cases listed
  rw [s.planEvents_append_jniEvents drops records, List.filter_append, others.filter_not, native,
    List.append_nil]

end

end Scene

namespace Declarations

/-- In the run of the unit that is made for the declarations, some worker is called. -/
def Reaches (d : Declarations) (o : Options) (w : World Recorder) : Prop :=
  ∃ log u, (((Plan.ofDeclarations d).synthesize o).run.run log).1 = .ok u ∧
    (Plan.ofDeclarations d).Reached u w

variable (d : Declarations) {o : Options} {w : World Recorder}

theorem reaches_iff (unowned : dotted o.unitName ∉ methods.map (·.owner))
    (fits : (Plan.ofDeclarations d).Fits o) (quiet : o.logWorkerFailures = false) :
    d.Reaches o w ↔ (Plan.ofDeclarations d).workerNames ≠ [] ∧
      (o.scene w).findsProxies d.proxyDefinitions := by
  have plan := Plan.reached_iff unowned fits quiet w
  refine Iff.trans ⟨?_, fun reached => ⟨⟨.info, []⟩, _, Plan.synthesize_eq _ o _, reached⟩⟩ plan
  rintro ⟨log, u, made, reached⟩
  rw [Plan.synthesize_eq] at made
  cases made
  exact reached

/-- Where no worker is needed, nothing is reached from native code. -/
theorem jniEvents_of_idle (c : Catalogue) (idle : (Plan.ofDeclarations d).workerNames = []) :
    c.jniEvents d.jniAccess = [] := by
  have none_ : d.jniAccess.flatMap JniAccess.records = [] := by
    have names := (List.append_eq_nil_iff.1 idle).2
    exact List.length_eq_zero_iff.1 (List.range_eq_nil.1 (List.map_eq_nil_iff.1 names))
  rw [← Scene.flatMap_jniScript ⟨c, ""⟩, none_]
  rfl

/-- Nothing that is registered for native code hangs on what is registered for reflection, and nothing
else on what is registered for native code. Once a run comes to the workers, each class that is
reached from native code is registered as often as it is named, if the host knows it. -/
theorem runs_registries_apart (d : Declarations) (o : Options) (w : World Recorder)
    (unowned : dotted o.unitName ∉ methods.map (·.owner)) (quiet : o.logWorkerFailures = false)
    (fits : (Plan.ofDeclarations d).Fits o) :
    ∃ outcome es, d.Runs o w outcome es ∧
      (∀ d' : Declarations, d' = { d with jniAccess := d'.jniAccess } →
        (Plan.ofDeclarations d').Fits o → ∃ outcome' es', d'.Runs o w outcome' es' ∧
          es'.filter (!·.ofJni) = es.filter (!·.ofJni)) ∧
      (∀ d' : Declarations, d' = { d with
          reflectiveClasses := d'.reflectiveClasses
          reflectiveFields := d'.reflectiveFields
          reflectiveMethods := d'.reflectiveMethods } →
        (Plan.ofDeclarations d').Fits o → ∃ outcome' es', d'.Runs o w outcome' es' ∧
          es'.filter Event.ofJni = es.filter Event.ofJni) ∧
      (d.Reaches o w → es.filter Event.ofJni = w.host.catalogue.jniEvents d.jniAccess) ∧
      (¬d.Reaches o w → es.filter Event.ofJni = []) := by
  have drops : o.workerOnFault = .drop := by simp [Options.workerOnFault, quiet]
  have native (d : Declarations) := (o.scene w).filter_planEvents (p := .ofDeclarations d) drops rfl
  have others (d : Declarations) :=
    (o.scene w).filter_not_planEvents (p := .ofDeclarations d) drops rfl
  refine ⟨_, _, d.runs_planEvents w unowned fits, fun d' same fits' => ?_, fun d' same fits' => ?_,
    fun reached => ?_, fun missed => ?_⟩
  · refine ⟨_, _, d'.runs_planEvents w unowned fits', ?_⟩
    rw [others, others, same]
    rfl
  · refine ⟨_, _, d'.runs_planEvents w unowned fits', ?_⟩
    rw [native, native, same]
    rfl
  · have found := ((d.reaches_iff unowned fits quiet).1 reached).2
    exact (native d).trans (if_pos found)
  · rw [native]
    split
    case isTrue found =>
      have idle : (Plan.ofDeclarations d).workerNames = [] := by
        by_contra some_
        exact missed ((d.reaches_iff unowned fits quiet).2 ⟨some_, found⟩)
      exact d.jniEvents_of_idle _ idle
    case isFalse => rfl

theorem runs_registries_apart_shared :
    let w := Plan.sampleWorld
    let bare : Declarations := { shared with jniAccess := [] }
    let native : Declarations := { shared with reflectiveClasses := [] }
    dotted ({} : Options).unitName ∉ methods.map (·.owner) ∧
    ({} : Options).logWorkerFailures = false ∧ (Plan.ofDeclarations shared).Fits {} ∧
    (Plan.ofDeclarations bare).Fits {} ∧ (Plan.ofDeclarations native).Fits {} ∧
    shared.Reaches {} w ∧
    ∃ outcome es, shared.Runs {} w outcome es ∧
      (∃ outcome' es', bare.Runs {} w outcome' es' ∧
        es'.filter (!·.ofJni) = es.filter (!·.ofJni)) ∧
      (∃ outcome' es', native.Runs {} w outcome' es' ∧
        es'.filter Event.ofJni = es.filter Event.ofJni) ∧
      es.filter Event.ofJni = [.registerClasses .jni ["pkg.A"],
        .registerExecutables .jni [.method "pkg.A" "run" []], .registerClasses .jni ["pkg.A"]] := by
  intro w bare native
  have unowned : dotted ({} : Options).unitName ∉ methods.map (·.owner) := by decide
  have fits : (Plan.ofDeclarations shared).Fits {} := Plan.fits_of_size {} (by decide)
  have fitsBare : (Plan.ofDeclarations bare).Fits {} := Plan.fits_of_size {} (by decide)
  have fitsNative : (Plan.ofDeclarations native).Fits {} := Plan.fits_of_size {} (by decide)
  have reached : shared.Reaches {} w :=
    (shared.reaches_iff unowned fits rfl).2 ⟨by decide, by decide⟩
  obtain ⟨outcome, es, ran, withoutNative, withoutReflection, noted, -⟩ :=
    runs_registries_apart shared {} w unowned rfl fits
  have named : w.host.catalogue.jniEvents shared.jniAccess = [.registerClasses .jni ["pkg.A"],
      .registerExecutables .jni [.method "pkg.A" "run" []],
      .registerClasses .jni ["pkg.A"]] := by decide
  exact ⟨unowned, rfl, fits, fitsBare, fitsNative, reached, outcome, es, ran,
    withoutNative bare rfl fitsBare, withoutReflection native rfl fitsNative,
    (noted reached).trans named⟩

end Declarations
end Registrar
