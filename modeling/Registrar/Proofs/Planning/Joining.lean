import Registrar.Proofs.Planning.Accumulation

/-! Declarations that are put behind one another. Their plan is the two plans joined. The lists of
the second go behind those of the first, what may come only once is not repeated, and two records of
a class become one. -/
namespace Registrar

namespace OrderedSet

variable {α : Type} [DecidableEq α]

/-- The elements of the first, and behind them those of the second that are new. -/
def union (s t : OrderedSet α) : OrderedSet α where
  toList := s.toList ++ t.toList.filter (· ∉ s.toList)
  nodup := by
    refine List.nodup_append.2 ⟨s.nodup, t.nodup.filter _, fun a old b new same => ?_⟩
    subst same
    simpa [old] using List.of_mem_filter new

instance : Union (OrderedSet α) := ⟨union⟩

theorem toList_union (s t : OrderedSet α) :
    (s ∪ t).toList = s.toList ++ t.toList.filter (· ∉ s.toList) := rfl

theorem union_empty (s : OrderedSet α) : s ∪ empty = s := eq_of_toList (List.append_nil _)

/-- An element is new to both, or it does not change their union. -/
theorem union_insert (s t : OrderedSet α) (a : α) : s ∪ t.insert a = (s ∪ t).insert a := by
  apply eq_of_toList
  rw [toList_union, toList_insert, toList_insert, toList_union]
  by_cases inFirst : a ∈ s.toList <;> by_cases inSecond : a ∈ t.toList <;>
    simp [inFirst, inSecond, List.filter_append]

/-- What is added to a set is a set that is added to it. -/
theorem foldl_insert_eq (s : OrderedSet α) (as : List α) :
    as.foldl insert s = s ∪ ofList as := by
  have behind (t : OrderedSet α) : as.foldl insert (s ∪ t) = s ∪ as.foldl insert t := by
    induction as generalizing t with
    | nil => rfl
    | cons a as ih => rw [List.foldl_cons, List.foldl_cons, ← union_insert, ih]
  rw [ofList, ← behind, union_empty]

theorem ofList_append (as bs : List α) : ofList (as ++ bs) = ofList as ∪ ofList bs := by
  rw [ofList, List.foldl_append, foldl_insert_eq]
  rfl

end OrderedSet

/-! ### Joining -/

/-- What either of two records of a class has. -/
def ClassRecord.join (r r' : ClassRecord) : ClassRecord where
  className := r.className
  capabilities := r.capabilities ∪ r'.capabilities
  constructors := r.constructors ∪ r'.constructors
  methods := r.methods ∪ r'.methods
  fields := r.fields ∪ r'.fields

/-- Two records of one class are joined, and a record of a class that has no other is kept. -/
def ClassTable.join (t t' : ClassTable) : ClassTable where
  records := (t.records.map fun r => (t'.record? r.className).elim r r.join) ++
    t'.records.filter (·.className ∉ t.classNames)
  nodup := by
    have first : (t.records.map fun r => (t'.record? r.className).elim r r.join).map (·.className) =
        t.classNames := by
      rw [List.map_map]
      apply List.map_congr_left
      intro r _
      simp only [Function.comp]
      cases t'.record? r.className <;> rfl
    have second : ((t'.records.filter (·.className ∉ t.classNames)).map (·.className)).Nodup :=
      t'.nodup.sublist (List.filter_sublist.map _)
    rw [List.map_append, first]
    refine List.nodup_append.2 ⟨t.nodup, second, fun c old c' new same => ?_⟩
    obtain ⟨r, listed, rfl⟩ := List.mem_map.1 new
    have absent : r.className ∉ t.classNames := by simpa using List.of_mem_filter listed
    exact absent (same ▸ old)

/-- Two plans, of which the second is carried out behind the first in each category. -/
def Plan.join (p q : Plan) : Plan where
  classes := p.classes.join q.classes
  jniClasses := p.jniClasses ++ q.jniClasses
  unsafeAccessedFields := p.unsafeAccessedFields ++ q.unsafeAccessedFields
  runtimeInitializedClasses := p.runtimeInitializedClasses ++ q.runtimeInitializedClasses
  runtimeInitializedPackages := p.runtimeInitializedPackages ++ q.runtimeInitializedPackages
  runtimeReinitializedClasses := p.runtimeReinitializedClasses ++ q.runtimeReinitializedClasses
  proxyDefinitions := p.proxyDefinitions ++ q.proxyDefinitions
  resources := p.resources ++ q.resources
  serviceDescriptors := p.serviceDescriptors ++ q.serviceDescriptors
  resourcePatterns := p.resourcePatterns ++ q.resourcePatterns
  resourceBundles := p.resourceBundles ++ q.resourceBundles
  cipherTransformations := p.cipherTransformations ∪ q.cipherTransformations

theorem ClassRecord.foldl_add_eq_join (r : ClassRecord) (as : List Addition) :
    as.foldl add r = r.join (as.foldl add { className := r.className }) := by
  have capabilities (k k' : Capabilities) :
      as.foldl (fun k a => k ∪ a.capabilities) (k ∪ k') =
        k ∪ as.foldl (fun k a => k ∪ a.capabilities) k' := by
    induction as generalizing k' with
    | nil => rfl
    | cons a as ih => rw [List.foldl_cons, List.foldl_cons, Capabilities.union_assoc, ih]
  have all := capabilities r.capabilities {}
  rw [Capabilities.union_none] at all
  rw [foldl_add, foldl_add, all, OrderedSet.foldl_insert_eq r.constructors,
    OrderedSet.foldl_insert_eq r.methods, OrderedSet.foldl_insert_eq r.fields]
  rfl

theorem ClassTable.record?_join (t t' : ClassTable) (c : String) :
    (t.join t').record? c = Option.merge ClassRecord.join (t.record? c) (t'.record? c) := by
  have named : ((fun r : ClassRecord => r.className == c) ∘ fun r =>
      (t'.record? r.className).elim r r.join) = (·.className == c) := by
    funext r
    simp only [Function.comp]
    cases t'.record? r.className <;> rfl
  have first : (t.join t').record? c =
      ((t.record? c).map fun r => (t'.record? r.className).elim r r.join).or
        ((t'.records.filter (·.className ∉ t.classNames)).find? (·.className == c)) := by
    unfold record? join
    rw [List.find?_append, List.find?_map]
    exact congrArg (fun p => Option.or ((t.records.find? p).map _) _) named
  rw [first]
  cases found : t.record? c with
  | some r =>
    have same : r.className = c := ((t.record?_eq_some_iff c r).1 found).2
    rw [Option.map_some, Option.some_or, same]
    cases t'.record? c <;> rfl
  | none =>
    -- No record of the second table is left out for its name, as the first one does not have it.
    have new (r : ClassRecord) : (decide (r.className ∉ t.classNames) && r.className == c) =
        (r.className == c) := by
      cases own : r.className == c with
      | false => exact Bool.and_false _
      | true =>
        have absent : r.className ∉ t.classNames := by
          intro listed
          obtain ⟨s, mem, same⟩ := List.mem_map.1 listed
          have present := (t.record?_eq_some_iff c s).2 ⟨mem, same.trans (beq_iff_eq.1 own)⟩
          rw [found] at present
          cases present
        rw [decide_eq_true absent]
        rfl
    rw [Option.map_none, Option.none_or, Option.merge_none_left, List.find?_filter]
    simp only [Bool.decide_and, Bool.decide_eq_true, new]
    rfl

/-! ### Declarations behind one another -/

namespace Declarations

theorem append_assoc (a b c : Declarations) : a ++ b ++ c = a ++ (b ++ c) := by
  change append (append a b) c = append a (append b c)
  simp only [append, List.append_assoc]

theorem empty_append (a : Declarations) : {} ++ a = a := rfl

theorem append_empty (a : Declarations) : a ++ {} = a := by
  change append a {} = a
  simp only [append, List.append_nil]

variable (a b : Declarations)

theorem fieldsOf_append (c : String) : (a ++ b).fieldsOf c = a.fieldsOf c ++ b.fieldsOf c :=
  List.filter_append ..

theorem methodsOf_append (c : String) : (a ++ b).methodsOf c = a.methodsOf c ++ b.methodsOf c :=
  List.filter_append ..

/-- The categories of the two are mixed, each of them in order. -/
theorem additions_append : (a ++ b).additions.Perm (a.additions ++ b.additions) := by
  have mixed {α : Type} (as bs cs ds : List α) :
      ((as ++ bs) ++ (cs ++ ds)).Perm ((as ++ cs) ++ (bs ++ ds)) := by
    rw [List.append_assoc, List.append_assoc]
    refine List.Perm.append_left as ?_
    rw [← List.append_assoc, ← List.append_assoc]
    exact List.perm_append_comm.append_right ds
  have split : (a ++ b).additions =
      (a.reflectiveClasses.flatMap (·.additions) ++ b.reflectiveClasses.flatMap (·.additions)) ++
      (a.reflectiveFields.map (·.addition) ++ b.reflectiveFields.map (·.addition)) ++
      (a.reflectiveMethods.map (·.addition) ++ b.reflectiveMethods.map (·.addition)) ++
      (a.serviceProviders.flatMap (·.additions) ++ b.serviceProviders.flatMap (·.additions)) := by
    change (append a b).additions = _
    simp only [additions, append, List.map_append, List.flatMap_append]
  rw [split]
  refine (((mixed _ _ _ _).append_right _).append_right _).trans ?_
  exact ((mixed _ _ _ _).append_right _).trans (mixed _ _ _ _)

theorem additionsFor_append (c : String) :
    ((a ++ b).additionsFor c).Perm (a.additionsFor c ++ b.additionsFor c) := by
  unfold additionsFor
  rw [← List.filter_append]
  exact (additions_append a b).filter _

theorem mem_classMentions_append (c : String) :
    c ∈ (a ++ b).classMentions ↔ c ∈ a.classMentions ∨ c ∈ b.classMentions := by
  rw [← className_additions, ← className_additions, ← className_additions,
    ((additions_append a b).map _).mem_iff, List.map_append, List.mem_append]

theorem additionsFor_of_not_mem {d : Declarations} {c : String} (h : c ∉ d.classMentions) :
    d.additionsFor c = [] := by
  rw [← className_additions] at h
  refine List.filter_eq_nil_iff.2 fun a made same => h ?_
  exact List.mem_map.2 ⟨a, made, beq_iff_eq.1 same⟩

/-- Members come in the order in which they are declared, so that the additions of the second may be
made behind all those of the first. -/
theorem foldl_additionsFor_append (c : String) (r : ClassRecord) :
    ((a ++ b).additionsFor c).foldl ClassRecord.add r =
      (b.additionsFor c).foldl ClassRecord.add ((a.additionsFor c).foldl ClassRecord.add r) := by
  rw [← List.foldl_append]
  refine ClassRecord.foldl_add_of_perm r (additionsFor_append a b c) ?_ ?_ ?_ <;>
    rw [List.flatMap_append]
  · simp only [constructors_additionsFor, methodsOf_append, List.filter_append, List.map_append]
  · simp only [methods_additionsFor, methodsOf_append, List.filter_append, List.map_append]
  · simp only [fields_additionsFor, fieldsOf_append, List.map_append]

end Declarations

theorem ClassTable.record?_ofDeclarations_append (a b : Declarations) (c : String) :
    (ofDeclarations (a ++ b)).record? c =
      Option.merge ClassRecord.join ((ofDeclarations a).record? c)
        ((ofDeclarations b).record? c) := by
  simp only [record?_ofDeclarations, Declarations.mem_classMentions_append,
    Declarations.foldl_additionsFor_append]
  by_cases inFirst : c ∈ a.classMentions <;> by_cases inSecond : c ∈ b.classMentions
  · have own : ((a.additionsFor c).foldl ClassRecord.add { className := c }).className = c := by
      rw [ClassRecord.foldl_add]
    have both := ClassRecord.foldl_add_eq_join
      ((a.additionsFor c).foldl ClassRecord.add { className := c }) (b.additionsFor c)
    rw [own] at both
    simp only [inFirst, inSecond, or_self, if_true, both]
    rfl
  · simp only [inFirst, inSecond, true_or, if_true, if_false,
      Declarations.additionsFor_of_not_mem inSecond]
    rfl
  · simp only [inFirst, inSecond, or_true, if_true, if_false,
      Declarations.additionsFor_of_not_mem inFirst]
    rfl
  · simp only [inFirst, inSecond, or_self, if_false]
    rfl

/-- In each category the plan has all that is declared there, in that order, and no more. What may
come only once stands where it came first. -/
structure Plan.Gathers (p : Plan) (d : Declarations) : Prop where
  classNames : p.classes.classNames = d.classMentions.eraseDups
  classes : ∀ r ∈ p.classes.records, r.Unites d
  /-- There is a record for each declaration and each class that it names. -/
  jniClasses : p.jniClasses = d.jniAccess.flatMap fun item => item.classNames.map fun c =>
    ⟨c, item.constructors, item.methods, item.fields, item.finalFieldsWritable⟩
  unsafeAccessedFields : p.unsafeAccessedFields = d.unsafeAccessedFields
  runtimeInitializedClasses : p.runtimeInitializedClasses = d.runtimeInitializedClasses
  runtimeInitializedPackages : p.runtimeInitializedPackages = d.runtimeInitializedPackages
  runtimeReinitializedClasses : p.runtimeReinitializedClasses = d.runtimeReinitializedClasses
  proxyDefinitions : p.proxyDefinitions = d.proxyDefinitions
  resources : p.resources = d.resources.flatMap (·.resources)
  serviceDescriptors :
    p.serviceDescriptors = d.serviceProviders.map ("META-INF/services/" ++ ·.serviceInterface)
  resourcePatterns : p.resourcePatterns = d.resourcePatterns
  resourceBundles : p.resourceBundles = d.resourceBundles
  cipherTransformations : p.cipherTransformations.toList =
    (d.cipherRequests.flatMap (·.transformations.toList)).eraseDups

theorem Plan.gathers_ofDeclarations (d : Declarations) : (ofDeclarations d).Gathers d where
  classNames := (ClassTable.ofDeclarations_unites d).2.1
  classes := (ClassTable.ofDeclarations_unites d).2.2.2
  jniClasses := rfl
  unsafeAccessedFields := rfl
  runtimeInitializedClasses := rfl
  runtimeInitializedPackages := rfl
  runtimeReinitializedClasses := rfl
  proxyDefinitions := rfl
  resources := rfl
  serviceDescriptors := rfl
  resourcePatterns := rfl
  resourceBundles := rfl
  cipherTransformations := OrderedSet.toList_foldl_insert ..

/-- Putting declarations behind one another is associative, empty declarations change nothing, and
no item is lost or gained. A plan has in each category what is declared there. The plan of two
declarations is that of the first joined with that of the second, but for the order of the class
records, and the transformations of the second come behind those of the first unless they are among
them. -/
theorem Plan.ofDeclarations_append (a b : Declarations) :
    (∀ c : Declarations, a ++ b ++ c = a ++ (b ++ c)) ∧ {} ++ a = a ∧ a ++ {} = a ∧
    (a ++ b).itemCount = a.itemCount + b.itemCount ∧
    (ofDeclarations a).Gathers a ∧ (ofDeclarations b).Gathers b ∧
    (ofDeclarations (a ++ b)).Gathers (a ++ b) ∧
    (ofDeclarations (a ++ b)).classes.records.Perm
      ((ofDeclarations a).join (ofDeclarations b)).classes.records ∧
    ofDeclarations (a ++ b) = { (ofDeclarations a).join (ofDeclarations b) with
      classes := (ofDeclarations (a ++ b)).classes } ∧
    (ofDeclarations (a ++ b)).cipherTransformations.toList =
      (ofDeclarations a).cipherTransformations.toList ++
        (ofDeclarations b).cipherTransformations.toList.filter
          (· ∉ (ofDeclarations a).cipherTransformations.toList) := by
  have categories : ofDeclarations (a ++ b) = { (ofDeclarations a).join (ofDeclarations b) with
      classes := (ofDeclarations (a ++ b)).classes } := by
    change ofDeclarations (a.append b) = { (ofDeclarations a).join (ofDeclarations b) with
      classes := (ofDeclarations (a.append b)).classes }
    simp only [ofDeclarations, join, Declarations.append, List.flatMap_append, List.map_append,
      OrderedSet.ofList_append]
  refine ⟨a.append_assoc b, a.empty_append, a.append_empty, a.itemCount_append b,
    gathers_ofDeclarations a, gathers_ofDeclarations b, gathers_ofDeclarations _, ?_, categories,
    ?_⟩
  · refine ClassTable.perm_records fun c => ?_
    rw [join, ClassTable.record?_join]
    exact ClassTable.record?_ofDeclarations_append a b c
  · rw [categories]
    exact OrderedSet.toList_union ..

end Registrar
