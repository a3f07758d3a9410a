import Registrar.Declarations.Validity
import Registrar.Proofs.Checking.Names
import Mathlib.Data.List.Enum

/-! What validation asks of declarations. All that is asked stands in one list, category by
category; validation accepts if everything on it is met, and otherwise reports the first thing that
is not. Declarations that are put behind others are asked the same, with the places of proxies
moved. -/
namespace Registrar

/-- The kinds of items, in the order in which they are checked. -/
inductive Category where
  | reflectiveClasses
  | reflectiveFields
  | reflectiveMethods
  | jniAccess
  | resources
  | resourcePatterns
  | resourceBundles
  | serviceProviders
  | proxyDefinitions
  | runtimeInitializedClasses
  | runtimeInitializedPackages
  | runtimeReinitializedClasses
  | unsafeAccessedFields
  | cipherRequests
  deriving DecidableEq

namespace Category

def all : List Category :=
  [reflectiveClasses, reflectiveFields, reflectiveMethods, jniAccess, resources, resourcePatterns,
    resourceBundles, serviceProviders, proxyDefinitions, runtimeInitializedClasses,
    runtimeInitializedPackages, runtimeReinitializedClasses, unsafeAccessedFields, cipherRequests]

theorem mem_all (k : Category) : k ∈ all := by cases k <;> decide

end Category

/-! ### Single requirements -/

/-- Something that is asked of a declaration. -/
inductive Requirement where
  /-- This has to be a binary name. -/
  | className (subject : Subject) (name : String)
  /-- This has to be the name of a package. -/
  | packageName (name : String)
  /-- A member of this class has to have a name. -/
  | memberName (subject : Subject) (owner name : String)
  /-- The proxy definition at this place has to name an interface. -/
  | interfaces (index : Nat) (named : List String)
  /-- This must not be empty. -/
  | filled (subject : Subject) (value : String)
  deriving DecidableEq

namespace Requirement

def Met : Requirement → Prop
  | className _ name => ClassName.isBinary name
  | packageName name => name.toList ∈ ClassName.dottedNames []
  | memberName _ _ name => name ≠ ""
  | interfaces _ named => named ≠ []
  | filled _ value => value ≠ ""

/-- What is wrong if the requirement is not met. -/
def violation : Requirement → Violation
  | className subject name => .invalidClassName subject name
  | packageName name => .invalidPackageName name
  | memberName subject owner _ => .emptyMemberName subject owner
  | interfaces index _ => .emptyProxyDefinition index
  | filled subject _ => .emptyValue subject

instance : DecidablePred Met
  | className _ name => inferInstanceAs (Decidable (ClassName.isBinary name = true))
  | packageName name => decidable_of_iff (ClassName.isPackage name) ClassName.isPackage_iff
  | memberName _ _ name => inferInstanceAs (Decidable (name ≠ ""))
  | interfaces _ named => inferInstanceAs (Decidable (named ≠ []))
  | filled _ value => inferInstanceAs (Decidable (value ≠ ""))

/-- The violation, if there is one. -/
def check (r : Requirement) : List Violation := if r.Met then [] else [r.violation]

theorem check_eq_nil_iff {r : Requirement} : r.check = [] ↔ r.Met := by simp [check]

/-! Each check of an item looks at requirements. -/

theorem checkClassName_eq (subject : Subject) :
    checkClassName subject = fun name => (className subject name).check := by
  funext name
  by_cases h : ClassName.isBinary name <;> simp [checkClassName, check, Met, violation, h]

theorem checkMemberName_eq (subject : Subject) (owner : String) :
    checkMemberName subject owner = fun name => (memberName subject owner name).check := by
  funext name
  by_cases h : name = "" <;> simp [checkMemberName, check, Met, violation, h]

theorem checkValue_eq (subject : Subject) :
    checkValue subject = fun value => (filled subject value).check := by
  funext value
  by_cases h : value = "" <;> simp [checkValue, check, Met, violation, h]

theorem checkPackageName_eq : checkPackageName = fun name => (packageName name).check := by
  funext name
  have same : ClassName.isPackage name ↔ (packageName name).Met := ClassName.isPackage_iff
  by_cases h : ClassName.isPackage name <;> simp [checkPackageName, check, violation, h, ← same]

/-- Without an interface there are none whose names could be wrong. -/
theorem proxyViolations_eq (p : ProxyDefinition) (index : Nat) :
    p.violations index = (interfaces index p.interfaces).check ++
      p.interfaces.flatMap fun i => (className .proxyInterface i).check := by
  unfold ProxyDefinition.violations
  cases named : p.interfaces with
  | nil => simp [check, Met, violation]
  | cons i is => simp [check, Met, checkClassName_eq]

end Requirement

/-! ### All requirements -/

namespace Declarations

/-- Whether nothing is wrong with the items of a category. -/
def ValidIn (d : Declarations) : Category → Prop
  | .reflectiveClasses => ∀ c ∈ d.reflectiveClasses, ∀ n ∈ c.classNames, ClassName.isBinary n
  | .reflectiveFields =>
    ∀ f ∈ d.reflectiveFields, ClassName.isBinary f.declaringClass ∧ f.name ≠ ""
  | .reflectiveMethods => ∀ m ∈ d.reflectiveMethods,
    ClassName.isBinary m.declaringClass ∧ m.name ≠ "" ∧ ∀ t ∈ m.params, ClassName.isBinary t
  | .jniAccess => ∀ c ∈ d.jniAccess, ∀ n ∈ c.classNames, ClassName.isBinary n
  | .resources => ∀ r ∈ d.resources, ∀ path ∈ r.resources, path ≠ ""
  | .resourcePatterns => ∀ p ∈ d.resourcePatterns,
    (∀ pattern ∈ p.includes, pattern ≠ "") ∧ ∀ pattern ∈ p.excludes, pattern ≠ ""
  | .resourceBundles => ∀ b ∈ d.resourceBundles, b.bundleName ≠ ""
  | .serviceProviders => ∀ s ∈ d.serviceProviders,
    ClassName.isBinary s.serviceInterface ∧ ∀ p ∈ s.providers, ClassName.isBinary p
  | .proxyDefinitions => ∀ p ∈ d.proxyDefinitions,
    p.interfaces ≠ [] ∧ ∀ i ∈ p.interfaces, ClassName.isBinary i
  | .runtimeInitializedClasses =>
    ∀ c ∈ d.runtimeInitializedClasses, ClassName.isBinary c.className
  | .runtimeInitializedPackages =>
    ∀ p ∈ d.runtimeInitializedPackages, p.packageName.toList ∈ ClassName.dottedNames []
  | .runtimeReinitializedClasses =>
    ∀ c ∈ d.runtimeReinitializedClasses, ClassName.isBinary c.className
  | .unsafeAccessedFields =>
    ∀ f ∈ d.unsafeAccessedFields, ClassName.isBinary f.declaringClass ∧ f.fieldName ≠ ""
  | .cipherRequests => ∀ c ∈ d.cipherRequests, ∀ t ∈ c.transformations.toList, t ≠ ""

/-- What is asked of the items of a category, item by item. -/
def requirements (d : Declarations) : Category → List Requirement
  | .reflectiveClasses =>
    d.reflectiveClasses.flatMap fun c => c.classNames.map (.className .reflectiveClass)
  | .reflectiveFields => d.reflectiveFields.flatMap fun f =>
    [.className .reflectiveField f.declaringClass,
      .memberName .reflectiveField f.declaringClass f.name]
  | .reflectiveMethods => d.reflectiveMethods.flatMap fun m =>
    .className .reflectiveMethod m.declaringClass ::
      .memberName .reflectiveMethod m.declaringClass m.name ::
      m.params.map (.className .reflectiveMethodParameter)
  | .jniAccess => d.jniAccess.flatMap fun c => c.classNames.map (.className .jniClass)
  | .resources => d.resources.flatMap fun r => r.resources.map (.filled .resource)
  | .resourcePatterns =>
    d.resourcePatterns.flatMap fun p => (p.includes ++ p.excludes).map (.filled .resourcePattern)
  | .resourceBundles => d.resourceBundles.map fun b => .filled .resourceBundle b.bundleName
  | .serviceProviders => d.serviceProviders.flatMap fun s =>
    .className .serviceInterface s.serviceInterface ::
      s.providers.map (.className .serviceProvider)
  | .proxyDefinitions => d.proxyDefinitions.zipIdx.flatMap fun (p, index) =>
    .interfaces index p.interfaces :: p.interfaces.map (.className .proxyInterface)
  | .runtimeInitializedClasses =>
    d.runtimeInitializedClasses.map fun c => .className .runtimeInitializedClass c.className
  | .runtimeInitializedPackages =>
    d.runtimeInitializedPackages.map fun p => .packageName p.packageName
  | .runtimeReinitializedClasses =>
    d.runtimeReinitializedClasses.map fun c => .className .runtimeReinitializedClass c.className
  | .unsafeAccessedFields => d.unsafeAccessedFields.flatMap fun f =>
    [.className .unsafeAccessedField f.declaringClass,
      .memberName .unsafeAccessedField f.declaringClass f.fieldName]
  | .cipherRequests => d.cipherRequests.flatMap fun c =>
    c.transformations.toList.map (.filled .cipherTransformation)

theorem validIn_iff (d : Declarations) (k : Category) :
    d.ValidIn k ↔ ∀ r ∈ d.requirements k, r.Met := by
  cases k with
  | proxyDefinitions =>
    have items : (∀ p ∈ d.proxyDefinitions, p.interfaces ≠ [] ∧
        ∀ i ∈ p.interfaces, ClassName.isBinary i) ↔
        ∀ q ∈ d.proxyDefinitions.zipIdx, q.1.interfaces ≠ [] ∧
          ∀ i ∈ q.1.interfaces, ClassName.isBinary i := by
      rw [List.forall_mem_zipIdx', List.forall_mem_iff_getElem]
    simp only [ValidIn, items, requirements, List.forall_mem_flatMap, List.forall_mem_cons,
      List.forall_mem_map, Requirement.Met]
  | _ =>
    simp only [ValidIn, requirements, List.forall_mem_flatMap, List.forall_mem_append,
      List.forall_mem_cons, List.forall_mem_map, List.not_mem_nil, false_implies, implies_true,
      and_true, List.map_append, Requirement.Met]

/-- All that is wrong is what is not met. -/
theorem violations_eq (d : Declarations) :
    d.violations = Category.all.flatMap fun k => (d.requirements k).flatMap Requirement.check := by
  have methods : ReflectiveMethod.violations = fun m : ReflectiveMethod =>
      checkClassName .reflectiveMethod m.declaringClass ++
        checkMemberName .reflectiveMethod m.declaringClass m.name ++
        m.params.flatMap (checkClassName .reflectiveMethodParameter) := rfl
  simp only [violations, methods, Category.all, requirements, List.flatMap_cons, List.flatMap_nil,
    List.flatMap_assoc, List.flatMap_map, List.flatMap_append, List.append_nil, List.append_assoc,
    Requirement.checkClassName_eq, Requirement.checkMemberName_eq, Requirement.checkValue_eq,
    Requirement.checkPackageName_eq, Requirement.proxyViolations_eq]

instance (d : Declarations) : DecidablePred d.ValidIn := fun k =>
  decidable_of_iff _ (d.validIn_iff k).symm

end Declarations

/-! ### The first violation -/

/-- The end of a validation that comes upon this. -/
def Violation.report : Option Violation → Except Violation Unit
  | none => .ok ()
  | some v => .error v

theorem Violation.report_map (f : Violation → Violation) (v : Option Violation) :
    report (v.map f) = (report v).mapError f := by cases v <;> rfl

namespace Declarations

/-- The first thing that is wrong with the items of a category. -/
def firstIn (d : Declarations) (k : Category) : Option Violation :=
  ((d.requirements k).flatMap Requirement.check).head?

theorem firstIn_eq_none_iff {d : Declarations} {k : Category} :
    d.firstIn k = none ↔ d.ValidIn k := by
  simp only [firstIn, List.head?_eq_none_iff, List.flatMap_eq_nil_iff, Requirement.check_eq_nil_iff,
    validIn_iff]

theorem validate_eq (d : Declarations) :
    d.validate = Violation.report (Category.all.findSome? d.firstIn) := by
  have first : Category.all.findSome? d.firstIn = d.violations.head? := by
    rw [violations_eq, List.head?_flatMap]
    rfl
  rw [first, validate]
  cases d.violations <;> rfl

theorem validate_eq_ok_iff_validIn (d : Declarations) :
    d.validate = .ok () ↔ ∀ k, d.ValidIn k := by
  have report (v : Option Violation) : Violation.report v = .ok () ↔ v = none := by
    cases v <;> simp [Violation.report]
  simp [validate_eq, report, List.findSome?_eq_none_iff, firstIn_eq_none_iff, Category.mem_all]

/-- What is reported is the first thing on the list that is not met. -/
theorem validate_eq_error_iff (d : Declarations) (v : Violation) :
    d.validate = .error v ↔ ∃ before r after,
      Category.all.flatMap d.requirements = before ++ r :: after ∧
        (∀ q ∈ before, q.Met) ∧ ¬r.Met ∧ r.violation = v := by
  have head : d.validate = .error v ↔ d.violations.head? = some v := by
    unfold validate
    split <;> simp_all
  have unmet (r : Requirement) : r.check.head? = some v ↔ ¬r.Met ∧ r.violation = v := by
    by_cases h : r.Met <;> simp [Requirement.check, h]
  have met (r : Requirement) : r.check.head? = none ↔ r.Met := by
    rw [List.head?_eq_none_iff, Requirement.check_eq_nil_iff]
  rw [head, violations_eq, ← List.flatMap_assoc, List.head?_flatMap, List.findSome?_eq_some_iff]
  simp only [unmet, met]
  constructor
  · rintro ⟨before, r, after, eq, wrong, right⟩
    exact ⟨before, r, after, eq, right, wrong⟩
  · rintro ⟨before, r, after, eq, right, wrong⟩
    exact ⟨before, r, after, eq, wrong, right⟩

end Declarations

/-! ### Declarations behind others -/

/-- Of two things to be found at each place, the one at the earlier place is found first, and of two
at the same place the first one. -/
theorem findSome?_or {κ α : Type} (ks : List κ) (f g : κ → Option α) :
    ks.findSome? (fun k => (f k).or (g k)) =
      if ks.findIdx (fun k => (f k).isSome) ≤ ks.findIdx (fun k => (g k).isSome) then
        ks.findSome? f
      else ks.findSome? g := by
  induction ks with
  | nil => rfl
  | cons k ks ih =>
    rw [List.findSome?_cons, List.findSome?_cons, List.findSome?_cons, List.findIdx_cons,
      List.findIdx_cons]
    cases f k with
    | some x => simp
    | none =>
      cases g k with
      | some y => simp
      | none => simpa using ih

/-- The same violation in declarations that so many proxy definitions are put in front of. -/
def Violation.behind (proxies : Nat) : Violation → Violation
  | emptyProxyDefinition index => .emptyProxyDefinition (proxies + index)
  | v => v

namespace Requirement

def behind (proxies : Nat) : Requirement → Requirement
  | interfaces index named => .interfaces (proxies + index) named
  | r => r

theorem check_behind (proxies : Nat) (r : Requirement) :
    (r.behind proxies).check = r.check.map (Violation.behind proxies) := by
  have met : (r.behind proxies).Met ↔ r.Met := by cases r <;> rfl
  have wrong : (r.behind proxies).violation = r.violation.behind proxies := by cases r <;> rfl
  by_cases h : r.Met <;> simp [check, met, wrong, h]

end Requirement

namespace Declarations

variable (a b : Declarations)

theorem requirements_append (k : Category) : (a ++ b).requirements k =
    a.requirements k ++
      (b.requirements k).map (Requirement.behind a.proxyDefinitions.length) := by
  change (a.append b).requirements k = _
  cases k with
  | proxyDefinitions =>
    simp only [requirements, append, List.zipIdx_append, List.flatMap_append, Nat.zero_add,
      List.map_flatMap, List.append_cancel_left_eq]
    rw [List.zipIdx_eq_map_add, List.flatMap_map]
    simp [Function.comp_def, Requirement.behind]
  | _ => simp [requirements, append, List.map_flatMap, Function.comp_def, Requirement.behind]

theorem firstIn_append (k : Category) : (a ++ b).firstIn k =
    (a.firstIn k).or ((b.firstIn k).map (Violation.behind a.proxyDefinitions.length)) := by
  simp only [firstIn, requirements_append, List.flatMap_append, List.head?_append, List.flatMap_map,
    Requirement.check_behind, ← List.map_flatMap, List.head?_map]

/-- The number of the first category in which something is wrong, and the number of categories if
there is none. -/
def failsAt (d : Declarations) : Nat := Category.all.findIdx fun k => ¬d.ValidIn k

theorem failsAt_eq (d : Declarations) :
    d.failsAt = Category.all.findIdx fun k => (d.firstIn k).isSome := by
  have wrong (k : Category) : (decide ¬d.ValidIn k) = (d.firstIn k).isSome := by
    rw [Bool.eq_iff_iff, decide_eq_true_iff, ← firstIn_eq_none_iff, Option.isSome_iff_ne_none]
  simp only [failsAt, wrong]

/-- Validation accepts exactly what is valid in every category, and otherwise reports the first
requirement on the list that is not met. Put behind one another, declarations are valid if both are;
otherwise the violation of those counts that fail in the earlier category, or of the first ones if
both fail in the same. -/
theorem validate_reports_first :
    (a.validate = .ok () ↔ ∀ k, a.ValidIn k) ∧
    (∀ v, a.validate = .error v ↔ ∃ before r after,
      Category.all.flatMap a.requirements = before ++ r :: after ∧
        (∀ q ∈ before, q.Met) ∧ ¬r.Met ∧ r.violation = v) ∧
    ((a ++ b).validate = .ok () ↔ a.validate = .ok () ∧ b.validate = .ok ()) ∧
    (a ++ b).validate =
      if a.failsAt ≤ b.failsAt then a.validate
      else b.validate.mapError (Violation.behind a.proxyDefinitions.length) := by
  refine ⟨a.validate_eq_ok_iff_validIn, a.validate_eq_error_iff, ?_, ?_⟩
  · simp only [validate_eq_ok_iff_validIn, ← firstIn_eq_none_iff, firstIn_append,
      Option.or_eq_none_iff, Option.map_eq_none_iff, forall_and]
  · have moved (f : Violation → Violation) :
        (Category.all.findIdx fun k => ((b.firstIn k).map f).isSome) = b.failsAt := by
      simp only [failsAt_eq, Option.isSome_map]
    have both : (a ++ b).firstIn = fun k =>
        (a.firstIn k).or ((b.firstIn k).map (Violation.behind a.proxyDefinitions.length)) :=
      funext (firstIn_append a b)
    rw [validate_eq, both, findSome?_or, ← failsAt_eq, moved, validate_eq, validate_eq,
      ← Violation.report_map, List.map_findSome?]
    split <;> rfl

end Declarations
end Registrar
