import Registrar.Proofs.Planning.Rearrangement

/-! Class tables that are filled step by step. A step only adds, so that a table has all that its
steps have brought, at the place where it came first. Hence the order of the steps decides nothing
but places, and a step that is taken again changes nothing. -/
namespace Registrar

namespace OrderedSet

variable {α : Type} [DecidableEq α] (s : OrderedSet α)

theorem insert_of_mem {a : α} (h : a ∈ s.toList) : s.insert a = s := by rw [insert, dif_pos h]

theorem foldl_insert_of_subset {as : List α} (h : as ⊆ s.toList) : as.foldl insert s = s := by
  induction as with
  | nil => rfl
  | cons a as ih =>
    obtain ⟨first, rest⟩ := List.cons_subset.1 h
    rw [List.foldl_cons, s.insert_of_mem first, ih rest]

/-- In another order the same elements come in. -/
theorem foldl_insert_of_perm {as bs : List α} (moved : as.Perm bs) :
    (as.foldl insert s).toList.Perm (bs.foldl insert s).toList := by
  rw [List.perm_ext_iff_of_nodup (OrderedSet.nodup _) (OrderedSet.nodup _)]
  intro a
  rw [mem_foldl_insert, mem_foldl_insert, moved.mem_iff]

end OrderedSet

/-! ### Records that grow -/

structure Addition.TellsApart (a : Addition) : Prop where
  constructors : ∀ s ∈ a.constructors, s.name = constructorName
  methods : ∀ s ∈ a.methods, s.name ≠ constructorName

namespace ClassRecord

/-- The second record has all that the first has, and each member in the same place. -/
structure Within (r r' : ClassRecord) : Prop where
  className : r'.className = r.className
  capabilities : r'.capabilities ∪ r.capabilities = r'.capabilities
  constructors : r.constructors.toList <+: r'.constructors.toList
  methods : r.methods.toList <+: r'.methods.toList
  fields : r.fields.toList <+: r'.fields.toList

/-- The record has all that an addition brings. -/
structure Has (r : ClassRecord) (a : Addition) : Prop where
  capabilities : r.capabilities ∪ a.capabilities = r.capabilities
  constructors : a.constructors ⊆ r.constructors.toList
  methods : a.methods ⊆ r.methods.toList
  fields : a.fields ⊆ r.fields.toList

/-- Two records of a class with the same capabilities and the same members, whatever the order of
these. -/
structure Alike (r r' : ClassRecord) : Prop where
  className : r.className = r'.className
  capabilities : r.capabilities = r'.capabilities
  constructors : r.constructors.toList.Perm r'.constructors.toList
  methods : r.methods.toList.Perm r'.methods.toList
  fields : r.fields.toList.Perm r'.fields.toList

/-- Constructors are told apart from methods by their name. -/
structure TellsApart (r : ClassRecord) : Prop where
  constructors : ∀ s ∈ r.constructors.toList, s.name = constructorName
  methods : ∀ s ∈ r.methods.toList, s.name ≠ constructorName

theorem Within.refl (r : ClassRecord) : r.Within r :=
  ⟨rfl, Capabilities.union_self _, List.prefix_rfl, List.prefix_rfl, List.prefix_rfl⟩

theorem Within.trans {r r' r'' : ClassRecord} (h : r.Within r') (h' : r'.Within r'') :
    r.Within r'' where
  className := h'.className.trans h.className
  capabilities := by
    rw [← h'.capabilities, Capabilities.union_assoc, h.capabilities]
  constructors := h.constructors.trans h'.constructors
  methods := h.methods.trans h'.methods
  fields := h.fields.trans h'.fields

variable {r : ClassRecord} {a : Addition}

theorem Has.mono {r' : ClassRecord} (grown : r.Within r') (h : r.Has a) : r'.Has a where
  capabilities := by
    rw [← grown.capabilities, Capabilities.union_assoc, h.capabilities]
  constructors := List.Subset.trans h.constructors grown.constructors.subset
  methods := List.Subset.trans h.methods grown.methods.subset
  fields := List.Subset.trans h.fields grown.fields.subset

theorem within_add (r : ClassRecord) (a : Addition) : r.Within (r.add a) where
  className := rfl
  capabilities := by
    change r.capabilities ∪ a.capabilities ∪ r.capabilities = r.capabilities ∪ a.capabilities
    rw [Capabilities.union_comm _ r.capabilities, ← Capabilities.union_assoc,
      Capabilities.union_self]
  constructors := OrderedSet.prefix_foldl_insert _ _
  methods := OrderedSet.prefix_foldl_insert _ _
  fields := OrderedSet.prefix_foldl_insert _ _

theorem has_add (r : ClassRecord) (a : Addition) : (r.add a).Has a where
  capabilities := by
    change r.capabilities ∪ a.capabilities ∪ a.capabilities = r.capabilities ∪ a.capabilities
    rw [Capabilities.union_assoc, Capabilities.union_self]
  constructors := fun _ mem => (OrderedSet.mem_foldl_insert _ _ _).2 (.inr mem)
  methods := fun _ mem => (OrderedSet.mem_foldl_insert _ _ _).2 (.inr mem)
  fields := fun _ mem => (OrderedSet.mem_foldl_insert _ _ _).2 (.inr mem)

theorem add_of_has (h : r.Has a) : r.add a = r := by
  rw [add, h.capabilities, OrderedSet.foldl_insert_of_subset _ h.constructors,
    OrderedSet.foldl_insert_of_subset _ h.methods, OrderedSet.foldl_insert_of_subset _ h.fields]

theorem foldl_add_alike (r : ClassRecord) {as bs : List Addition} (moved : as.Perm bs) :
    (as.foldl add r).Alike (bs.foldl add r) := by
  rw [foldl_add, foldl_add]
  exact
    { className := rfl
      capabilities := foldl_capabilities_of_perm moved _
      constructors := OrderedSet.foldl_insert_of_perm _ (moved.flatMap_right _)
      methods := OrderedSet.foldl_insert_of_perm _ (moved.flatMap_right _)
      fields := OrderedSet.foldl_insert_of_perm _ (moved.flatMap_right _) }

end ClassRecord

/-! ### Tables that grow -/

namespace ClassTable

/-- Every record of the first table stands in the same place of the second, which may have added to
it. -/
def Within (t t' : ClassTable) : Prop :=
  ∀ (i : Nat) (r : ClassRecord), t.records[i]? = some r →
    ∃ r', t'.records[i]? = some r' ∧ r.Within r'

/-- The table has all that an addition brings. -/
def Covers (t : ClassTable) (a : Addition) : Prop :=
  ∃ r, t.record? a.className = some r ∧ r.Has a

def TellsApart (t : ClassTable) : Prop := ∀ r ∈ t.records, r.TellsApart

theorem Within.refl (t : ClassTable) : t.Within t := fun _ r here => ⟨r, here, .refl r⟩

theorem Within.trans {t t' t'' : ClassTable} (h : t.Within t') (h' : t'.Within t'') :
    t.Within t'' := by
  intro i r here
  obtain ⟨r', there, grown⟩ := h i r here
  obtain ⟨r'', last, grown'⟩ := h' i r' there
  exact ⟨r'', last, grown.trans grown'⟩

/-- The record of a class is found again. -/
theorem Within.record? {t t' : ClassTable} (h : t.Within t') {c : String} {r : ClassRecord}
    (found : t.record? c = some r) : ∃ r', t'.record? c = some r' ∧ r.Within r' := by
  obtain ⟨listed, named⟩ := (t.record?_eq_some_iff c r).1 found
  obtain ⟨i, here⟩ := List.mem_iff_getElem?.1 listed
  obtain ⟨r', there, grown⟩ := h i r here
  have same : r'.className = c := grown.className.trans named
  exact ⟨r', (t'.record?_eq_some_iff c r').2 ⟨List.mem_of_getElem? there, same⟩, grown⟩

theorem Covers.mono {t t' : ClassTable} {a : Addition} (grown : t.Within t') (h : t.Covers a) :
    t'.Covers a := by
  obtain ⟨r, found, has⟩ := h
  obtain ⟨r', found', grown'⟩ := grown.record? found
  exact ⟨r', found', has.mono grown'⟩

variable (t : ClassTable)

theorem prefix_claim (c : String) : t.records <+: (t.claim c).records := by
  unfold claim
  split
  · exact List.prefix_rfl
  · exact List.prefix_append _ _

theorem within_add (a : Addition) : t.Within (t.add a) := by
  intro i r here
  have claimed : (t.claim a.className).records[i]? = some r := by
    obtain ⟨back, grown⟩ := t.prefix_claim a.className
    rw [← grown, List.getElem?_append_left (List.getElem?_eq_some_iff.1 here).1, here]
  refine ⟨if r.className = a.className then { r.add a with className := a.className } else r,
    ?_, ?_⟩
  · rw [add, update, revise, List.getElem?_map, claimed]
    rfl
  · split
    next same =>
      rw [← same]
      exact r.within_add a
    next => exact .refl r

theorem covers_add (a : Addition) : (t.add a).Covers a := by
  refine ⟨((t.record? a.className).getD { className := a.className }).add a, ?_,
    ClassRecord.has_add _ a⟩
  rw [record?_add, if_pos rfl]

theorem eq_of_records {t t' : ClassTable} (h : t.records = t'.records) : t = t' := by
  cases t
  cases t'
  cases h
  rfl

/-- What is there need not be added. -/
theorem add_of_covers {a : Addition} (h : t.Covers a) : t.add a = t := by
  obtain ⟨r, found, has⟩ := h
  obtain ⟨listed, named⟩ := (t.record?_eq_some_iff _ r).1 found
  have claimed : t.claim a.className = t := by
    rw [claim, dif_pos (List.mem_map.2 ⟨r, listed, named⟩)]
  have kept : (t.revise a.className (·.add a)).records = t.records := by
    refine (List.map_congr_left fun s other => ?_).trans (List.map_id _)
    split
    next same =>
      have found' := (t.record?_eq_some_iff _ s).2 ⟨other, same⟩
      obtain rfl := Option.some.inj (found.symm.trans found')
      have same' : r.add a = r := ClassRecord.add_of_has has
      simp only [same', ← same, id]
    next => rfl
  rw [add, update, claimed]
  exact eq_of_records kept

theorem within_foldl_add (as : List Addition) : t.Within (as.foldl add t) := by
  induction as generalizing t with
  | nil => exact .refl t
  | cons a as ih => exact (t.within_add a).trans (ih (t.add a))

theorem covers_foldl_add {as : List Addition} {a : Addition} (made : a ∈ as) :
    (as.foldl add t).Covers a := by
  induction as generalizing t with
  | nil => cases made
  | cons b as ih =>
    rcases List.mem_cons.1 made with rfl | later
    · exact (t.covers_add a).mono (within_foldl_add _ as)
    · exact ih (t.add b) later

theorem foldl_add_of_covers {as : List Addition} (h : ∀ a ∈ as, t.Covers a) :
    as.foldl add t = t := by
  induction as with
  | nil => rfl
  | cons a as ih =>
    rw [List.foldl_cons, t.add_of_covers (h a List.mem_cons_self)]
    exact ih fun b later => h b (List.mem_cons_of_mem a later)

/-- A table goes on telling constructors and methods apart. -/
theorem TellsApart.add {t : ClassTable} {a : Addition} (h : t.TellsApart) (ha : a.TellsApart) :
    (t.add a).TellsApart := by
  intro r listed
  have found := (record?_eq_some_iff _ _ r).2 ⟨listed, rfl⟩
  rw [record?_add] at found
  split at found
  next =>
    have old : ((t.record? r.className).getD { className := r.className }).TellsApart := by
      cases before : t.record? r.className with
      | none => exact ⟨List.forall_mem_nil _, List.forall_mem_nil _⟩
      | some r' => exact h r' ((t.record?_eq_some_iff _ r').1 before).1
    rw [← Option.some.inj found]
    constructor <;> intro s mem
    case constructors =>
      have added := (OrderedSet.mem_foldl_insert _ _ s).1 mem
      exact added.elim (old.constructors s) (ha.constructors s)
    case methods =>
      have added := (OrderedSet.mem_foldl_insert _ _ s).1 mem
      exact added.elim (old.methods s) (ha.methods s)
  next => exact h r ((t.record?_eq_some_iff _ r).1 found).1

theorem TellsApart.foldl_add {t : ClassTable} {as : List Addition} (h : t.TellsApart)
    (all : ∀ a ∈ as, a.TellsApart) : (as.foldl ClassTable.add t).TellsApart := by
  induction as generalizing t with
  | nil => exact h
  | cons a as ih =>
    exact ih (h.add (all a List.mem_cons_self)) fun b later => all b (List.mem_cons_of_mem a later)

/-! ### Steps -/

/-- One thing that a table is given. -/
inductive Step where
  | capabilities (className : String) (added : Capabilities)
  | classes (item : ReflectiveClass)
  | field (f : ReflectiveField)
  | method (m : ReflectiveMethod)
  | providers (s : ServiceProvider)

def take (t : ClassTable) : Step → ClassTable
  | .capabilities className added => t.addClass className added
  | .classes item => t.addReflectiveClass item
  | .field f => t.addReflectiveField f
  | .method m => t.addReflectiveMethod m
  | .providers s => t.addServiceProvider s

/-- The table that is filled by these steps, one after the other. -/
def ofSteps (steps : List Step) : ClassTable := steps.foldl take empty

namespace Step

/-- What a step adds, class by class. -/
def additions : Step → List Addition
  | capabilities className added => [{ className, capabilities := added }]
  | classes item => item.additions
  | field f => [f.addition]
  | method m => [m.addition]
  | providers s => s.additions

/-- Only methods bring signatures, and each goes where its name says. -/
theorem tellsApart_additions (s : Step) : ∀ a ∈ s.additions, a.TellsApart := by
  have none {c : String} {k : Capabilities} {fields : List String} :
      Addition.TellsApart ⟨c, k, [], [], fields⟩ := ⟨List.forall_mem_nil _, List.forall_mem_nil _⟩
  intro a made
  cases s with
  | capabilities c added =>
    obtain rfl := List.mem_singleton.1 made
    exact none
  | classes item =>
    obtain ⟨c, -, rfl⟩ := List.mem_map.1 made
    exact none
  | field f =>
    obtain rfl := List.mem_singleton.1 made
    exact none
  | method m =>
    obtain rfl := List.mem_singleton.1 made
    unfold ReflectiveMethod.addition
    cases named : m.isConstructor with
    | true => exact ⟨List.forall_mem_singleton.2 (beq_iff_eq.1 named), List.forall_mem_nil _⟩
    | false =>
      exact ⟨List.forall_mem_nil _, List.forall_mem_singleton.2 (beq_eq_false_iff_ne.1 named)⟩
  | providers s =>
    obtain ⟨c, -, rfl⟩ := List.mem_map.1 made
    exact none

end Step

theorem take_eq (s : Step) : t.take s = s.additions.foldl add t := by
  cases s with
  | capabilities c added => exact t.addClass_eq c added
  | classes item => exact t.addReflectiveClass_eq item
  | field f => exact t.addReflectiveField_eq f
  | method m => exact t.addReflectiveMethod_eq m
  | providers s => exact t.addServiceProvider_eq s

theorem within_take (s : Step) : t.Within (t.take s) := by
  rw [take_eq]
  exact t.within_foldl_add _

theorem take_of_covers {s : Step} (h : ∀ a ∈ s.additions, t.Covers a) : t.take s = t := by
  rw [take_eq]
  exact t.foldl_add_of_covers h

section

variable (steps : List Step)

theorem ofSteps_eq : ofSteps steps = (steps.flatMap (·.additions)).foldl add empty := by
  rw [ofSteps, funext₂ take_eq, List.foldl_flatMap]

theorem ofSteps_covers {s : Step} (taken : s ∈ steps) :
    ∀ a ∈ s.additions, (ofSteps steps).Covers a := by
  intro a made
  rw [ofSteps_eq]
  exact covers_foldl_add _ (List.mem_flatMap.2 ⟨s, taken, made⟩)

theorem ofSteps_again {s : Step} (taken : s ∈ steps) (later : List Step) :
    ofSteps (steps ++ s :: later) = ofSteps (steps ++ later) := by
  have again : (ofSteps steps).take s = ofSteps steps :=
    take_of_covers _ (ofSteps_covers steps taken)
  unfold ofSteps at again ⊢
  rw [List.foldl_append, List.foldl_cons, again, List.foldl_append]

theorem tellsApart_ofSteps : (ofSteps steps).TellsApart := by
  rw [ofSteps_eq]
  refine TellsApart.foldl_add (List.forall_mem_nil _) fun a made => ?_
  obtain ⟨s, -, mem⟩ := List.mem_flatMap.1 made
  exact s.tellsApart_additions a mem

variable {steps} {steps' : List Step} (moved : steps.Perm steps')

include moved

theorem classNames_ofSteps_of_perm :
    (ofSteps steps).classNames.Perm (ofSteps steps').classNames := by
  refine (List.perm_ext_iff_of_nodup (ofSteps steps).nodup (ofSteps steps').nodup).2 fun c => ?_
  change c ∈ (ofSteps steps).classNames ↔ c ∈ (ofSteps steps').classNames
  have named := ((moved.flatMap_right (·.additions)).map (·.className)).mem_iff (a := c)
  rw [ofSteps_eq, ofSteps_eq, classNames_foldl_add, classNames_foldl_add, List.mem_eraseDups,
    List.mem_eraseDups, List.mem_append, List.mem_append, named]

/-- The record of a class hangs on the order of the steps only in the order of its members. -/
theorem record?_ofSteps_of_perm (c : String) :
    Option.Rel ClassRecord.Alike ((ofSteps steps).record? c) ((ofSteps steps').record? c) := by
  have added := moved.flatMap_right (·.additions)
  have named := (added.map (·.className)).mem_iff (a := c)
  rw [ofSteps_eq, ofSteps_eq, record?_additions, record?_additions]
  simp only [named]
  split
  next => exact .some (ClassRecord.foldl_add_alike _ (added.filter _))
  next => exact .none

end

/-- A table has all that its steps bring. In another order they come to the same classes with the
same capabilities and members, and a step that has been taken changes nothing at all if it is taken
again. Whatever is added, nothing is lost or moved. The record of a class is found under its name,
and tells constructors from methods. -/
theorem ofSteps_accumulates (steps : List Step) :
    (∀ s ∈ steps, ∀ a ∈ s.additions, (ofSteps steps).Covers a) ∧
    (∀ steps', steps.Perm steps' →
      (ofSteps steps).classNames.Perm (ofSteps steps').classNames ∧
      ∀ c, Option.Rel ClassRecord.Alike ((ofSteps steps).record? c) ((ofSteps steps').record? c)) ∧
    (∀ s ∈ steps, ∀ later, ofSteps (steps ++ s :: later) = ofSteps (steps ++ later)) ∧
    (∀ s, (ofSteps steps).Within ((ofSteps steps).take s)) ∧
    (∀ c r, (ofSteps steps).record? c = some r → r.className = c) ∧
    (ofSteps steps).TellsApart := by
  refine ⟨fun s taken => ofSteps_covers steps taken, fun steps' moved => ⟨?_, ?_⟩,
    fun s taken later => ofSteps_again steps taken later, within_take _, fun c r found => ?_,
    tellsApart_ofSteps steps⟩
  · exact classNames_ofSteps_of_perm moved
  · exact record?_ofSteps_of_perm moved
  · exact ((record?_eq_some_iff _ c r).1 found).2

end ClassTable
end Registrar
