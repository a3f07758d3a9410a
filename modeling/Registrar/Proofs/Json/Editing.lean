import Mathlib.Logic.Relation
import Registrar.Proofs.Json.Reading

/-! Changes to a document that leave what it says as it is: the members of a record in another
order, a default left out, or a member that nobody knows. Each change keeps what is said, so any
number of them does. -/
namespace Registrar.Json.Shape

/-- One change, at any depth. What happens to a member happens at the front of its record, to which
a permutation brings it. A member that nobody knows is added with any value, so that a change in it
is the addition of another one. -/
inductive Edit : Shape → Document → Document → Prop
  | permute {shapes : List (Member Shape)} {members members' : List (List Char × Document)}
      (perm : members.Perm members') : Edit (.record shapes) (.object members) (.object members')
  | drop {shapes : List (Member Shape)} {s : Member Shape} (listed : s ∈ shapes)
      (members : List (List Char × Document)) :
      Edit (.record shapes) (.object ((quoted s.key, .ofJson s.preset) :: members))
        (.object members)
  | add {shapes : List (Member Shape)} {token : List Char} {key : String} {value : Document}
      (spells : Spells token key) (unknown : ∀ s ∈ shapes, s.key ≠ key) (valid : value.WellFormed)
      (members : List (List Char × Document)) :
      Edit (.record shapes) (.object members) (.object ((token, value) :: members))
  | member {shapes : List (Member Shape)} {s : Member Shape} {value value' : Document}
      (listed : s ∈ shapes) (edit : Edit s.content value value')
      (members : List (List Char × Document)) :
      Edit (.record shapes) (.object ((quoted s.key, value) :: members))
        (.object ((quoted s.key, value') :: members))
  | item {shape : Shape} {value value' : Document} (edit : Edit shape value value')
      (before after : List Document) :
      Edit (.list shape) (.list (before ++ value :: after)) (.list (before ++ value' :: after))

/-- Any combination of changes. -/
def Edited (shape : Shape) : Document → Document → Prop := Relation.ReflTransGen shape.Edit

/-- Defaults are left out together. -/
theorem edited_drop {shapes gone : List (Member Shape)} (listed : gone ⊆ shapes)
    (members : List (List Char × Document)) :
    Edited (.record shapes)
      (.object ((gone.map fun s => (quoted s.key, .ofJson s.preset)) ++ members))
      (.object members) := by
  induction gone with
  | nil => exact .refl
  | cons s gone ih =>
    obtain ⟨here, later⟩ := List.cons_subset.1 listed
    exact .head (.drop here _) (ih later)

theorem Means.items {shape : Shape} {docs : List Document} {j : Json}
    (h : Means (.list shape) (.list docs) j) :
    ∃ items : List (Document × Json), docs = items.map (·.1) ∧ j = .list (items.map (·.2)) ∧
      ∀ p ∈ items, shape.Means p.1 p.2 := by
  cases h with
  | list h => exact ⟨_, rfl, rfl, h⟩

section

variable {shapes : List (Member Shape)} {members : List (List Char × Document)} {j : Json}

theorem Means.permute {members' : List (List Char × Document)} (perm : members.Perm members')
    (h : Means (.record shapes) (.object members) j) :
    Means (.record shapes) (.object members') j := by
  cases h with
  | record distinct spelled once other known left =>
    refine .record distinct (fun m mem => spelled m (perm.mem_iff.2 mem)) ?_
      (fun m mem => other m (perm.mem_iff.2 mem))
      (fun s listed m mem => known s listed m (perm.mem_iff.2 mem))
      (fun s listed none => left s listed fun m mem => none m (perm.mem_iff.1 mem))
    exact perm.pairwise once fun {m n} apart s listed both => apart s listed both.symm

/-- A member whose document can mean nothing but its default need not be there. -/
theorem Means.drop {s : Member Shape} (listed : s ∈ shapes)
    (h : Means (.record shapes) (.object ((quoted s.key, .ofJson s.preset) :: members)) j)
    (default : s.content.Means (.ofJson s.preset) s.preset) :
    Means (.record shapes) (.object members) j := by
  cases h with
  | record distinct spelled once other known left =>
    have later {m} : m ∈ members → m ∈ (quoted s.key, Document.ofJson s.preset) :: members :=
      List.mem_cons_of_mem _
    refine .record distinct (fun m mem => spelled m (later mem)) (List.pairwise_cons.1 once).2
      (fun m mem => other m (later mem)) (fun s listed m mem => known s listed m (later mem)) ?_
    intro t listed' none
    by_cases spells : Spells (quoted s.key) t.key
    · obtain rfl := eq_of_spells distinct listed listed' (spells_quoted s.key) spells
      exact (known s listed _ List.mem_cons_self spells).unique default
    · exact left t listed' (List.forall_mem_cons.2 ⟨spells, none⟩)

theorem Means.add {token : List Char} {key : String} {value : Document} (spells : Spells token key)
    (unknown : ∀ s ∈ shapes, s.key ≠ key) (valid : value.WellFormed)
    (h : Means (.record shapes) (.object members) j) :
    Means (.record shapes) (.object ((token, value) :: members)) j := by
  have new : ∀ s ∈ shapes, ¬ Spells token s.key :=
    fun s listed other => unknown s listed (other.unique spells)
  cases h with
  | record distinct spelled once other known left =>
    refine .record distinct (List.forall_mem_cons.2 ⟨⟨key, spells⟩, spelled⟩)
      (List.pairwise_cons.2 ⟨fun m _ s listed both => new s listed both.1, once⟩)
      (List.forall_mem_cons.2 ⟨fun _ => valid, other⟩)
      (fun s listed => List.forall_mem_cons.2 ⟨fun h => absurd h (new s listed), known s listed⟩)
      (fun s listed none => left s listed fun m mem => none m (List.mem_cons_of_mem _ mem))

/-- A member has another document that means all that the first one does. -/
theorem Means.replace {s : Member Shape} (listed : s ∈ shapes) {value value' : Document}
    (same : ∀ {k}, s.content.Means value k → s.content.Means value' k)
    (h : Means (.record shapes) (.object ((quoted s.key, value) :: members)) j) :
    Means (.record shapes) (.object ((quoted s.key, value') :: members)) j := by
  cases h with
  | record distinct spelled once other known left =>
    obtain ⟨here, once⟩ := List.pairwise_cons.1 once
    obtain ⟨spelled, spelled'⟩ := List.forall_mem_cons.1 spelled
    have none {t : Member Shape} : (∀ m ∈ (quoted s.key, value') :: members, ¬ Spells m.1 t.key) →
        ∀ m ∈ (quoted s.key, value) :: members, ¬ Spells m.1 t.key := by simp
    refine .record distinct (List.forall_mem_cons.2 ⟨spelled, spelled'⟩)
      (List.pairwise_cons.2 ⟨here, once⟩) (List.forall_mem_cons.2 ⟨fun unknown => ?_,
        (List.forall_mem_cons.1 other).2⟩)
      (fun t listed' => List.forall_mem_cons.2 ⟨fun spells => ?_,
        (List.forall_mem_cons.1 (known t listed')).2⟩)
      (fun t listed' absent => left t listed' (none absent))
    · exact absurd (spells_quoted s.key) (unknown s listed)
    · obtain rfl := eq_of_spells distinct listed listed' (spells_quoted s.key) spells
      exact same (known s listed _ List.mem_cons_self spells)

end

/-- A change keeps what is said. -/
theorem Edit.means {shape : Shape} {doc doc' : Document} (edit : shape.Edit doc doc')
    (regular : shape.Regular) {j : Json} (h : shape.Means doc j) : shape.Means doc' j := by
  induction edit generalizing j with
  | permute perm => exact h.permute perm
  | @drop shapes s listed members => exact h.drop listed (regular.presets s listed).means
  | add spells unknown valid => exact h.add spells unknown valid
  | @member shapes s value value' listed edit members ih =>
    exact h.replace listed (ih (regular.content s listed))
  | @item shape value value' edit before after ih =>
    obtain ⟨items, split, rfl, meant⟩ := h.items
    obtain ⟨front, rest, rfl, rfl, tail⟩ := List.map_eq_append_iff.1 split.symm
    obtain ⟨p, back, rfl, rfl, rfl⟩ := List.map_eq_cons_iff.1 tail
    have changed := ih regular.item (meant p (by simp))
    have all : ∀ q ∈ front ++ (value', p.2) :: back, shape.Means q.1 q.2 := by
      simp only [List.forall_mem_append, List.forall_mem_cons] at meant ⊢
      exact ⟨meant.1, changed, meant.2.2⟩
    simpa using Means.list all

/-- So do any number of changes. -/
theorem Edited.means {shape : Shape} {doc doc' : Document} (edited : shape.Edited doc doc')
    (regular : shape.Regular) {j : Json} (h : shape.Means doc j) : shape.Means doc' j := by
  induction edited with
  | refl => exact h
  | tail _ edit ih => exact edit.means regular ih

end Registrar.Json.Shape
