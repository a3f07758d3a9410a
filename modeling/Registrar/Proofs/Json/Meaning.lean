import Mathlib.Data.List.Nodup
import Registrar.Json.Library
import Registrar.Proofs.Json.Document

/-! What a document says where a value of a shape is expected, and what is known of libraries: they
write values as their documents, and read text as what its document says. Members stand in any
order, those that the shape does not know say nothing, and those that are left out say their
presets. -/
namespace Registrar.Json

namespace Shape

/-- The document says the value. A record has no known member twice. -/
inductive Means : Shape → Document → Json → Prop
  | text {token : List Char} {s : String} (h : Spells token s) : Means .text (.scalar token) (.text s)
  | yes : Means .flag (.scalar ['t', 'r', 'u', 'e']) (.flag true)
  | no : Means .flag (.scalar ['f', 'a', 'l', 's', 'e']) (.flag false)
  | nothing : Means .optionalText (.scalar ['n', 'u', 'l', 'l']) .null
  | something {token : List Char} {s : String} (h : Spells token s) :
      Means .optionalText (.scalar token) (.text s)
  | choice {names : List String} {token : List Char} {s : String} (h : Spells token s)
      (offered : s ∈ names) : Means (.choice names) (.scalar token) (.text s)
  | list {item : Shape} {items : List (Document × Json)} (h : ∀ p ∈ items, Means item p.1 p.2) :
      Means (.list item) (.list (items.map (·.1))) (.list (items.map (·.2)))
  | record {shapes : List (Member Shape)} {members : List (List Char × Document)}
      {value : String → Json} (distinct : (shapes.map (·.key)).Nodup)
      (spelled : ∀ m ∈ members, ∃ key, Spells m.1 key)
      (once : members.Pairwise fun m n => ∀ s ∈ shapes, ¬ (Spells m.1 s.key ∧ Spells n.1 s.key))
      (other : ∀ m ∈ members, (∀ s ∈ shapes, ¬ Spells m.1 s.key) → m.2.WellFormed)
      (known : ∀ s ∈ shapes, ∀ m ∈ members, Spells m.1 s.key → Means s.content m.2 (value s.key))
      (left : ∀ s ∈ shapes, (∀ m ∈ members, ¬ Spells m.1 s.key) → value s.key = s.preset) :
      Means (.record shapes) (.object members) (.object (shapes.map fun s => (s.key, value s.key)))

mutual

/-- How many lists and records stand in each other. -/
def depth : Shape → Nat
  | .list item => item.depth + 1
  | .record members => memberDepth members + 1
  | _ => 0

def memberDepth : List (Member Shape) → Nat
  | [] => 0
  | ⟨_, _, shape⟩ :: members => max shape.depth (memberDepth members)

end

end Shape

/-- No text is nested deeper than this where it is not skipped. -/
def depthLimit : Nat := 127

structure Library.Documented (lib : Library) : Prop where
  writes (j : Json) : (Document.ofJson j).WrittenAs (lib.write j)
  reads {shape : Shape} (shallow : shape.depth ≤ depthLimit) {doc : Document} {j : Json}
    (means : shape.Means doc j) {text : String} (written : doc.WrittenAs text) :
    lib.read shape text = .ok j

/-! ### Values of a shape -/

namespace Shape

/-- The value has the shape, with all members of its records in their order. -/
inductive Fits : Shape → Json → Prop
  | text (s : String) : Fits .text (.text s)
  | flag (b : Bool) : Fits .flag (.flag b)
  | nothing : Fits .optionalText .null
  | something (s : String) : Fits .optionalText (.text s)
  | choice {names : List String} {s : String} (offered : s ∈ names) : Fits (.choice names) (.text s)
  | list {item : Shape} {items : List Json} (h : ∀ j ∈ items, Fits item j) :
      Fits (.list item) (.list items)
  | record {shapes : List (Member Shape)} {value : String → Json}
      (distinct : (shapes.map (·.key)).Nodup) (h : ∀ s ∈ shapes, Fits s.content (value s.key)) :
      Fits (.record shapes) (.object (shapes.map fun s => (s.key, value s.key)))

/-- The presets of all members are values of their shapes. -/
inductive Regular : Shape → Prop
  | text : Regular .text
  | flag : Regular .flag
  | optionalText : Regular .optionalText
  | choice (names : List String) : Regular (.choice names)
  | list {item : Shape} (h : Regular item) : Regular (.list item)
  | record {shapes : List (Member Shape)} (presets : ∀ s ∈ shapes, s.content.Fits s.preset)
      (h : ∀ s ∈ shapes, Regular s.content) : Regular (.record shapes)

theorem Regular.item {item : Shape} (h : Regular (.list item)) : item.Regular := by
  cases h
  assumption

theorem Regular.presets {shapes : List (Member Shape)} (h : Regular (.record shapes)) :
    ∀ s ∈ shapes, s.content.Fits s.preset := by
  cases h
  assumption

theorem Regular.content {shapes : List (Member Shape)} (h : Regular (.record shapes)) :
    ∀ s ∈ shapes, s.content.Regular := by
  cases h
  assumption

/-- A token is the key of one shape only. -/
theorem eq_of_spells {shapes : List (Member Shape)} (distinct : (shapes.map (·.key)).Nodup)
    {token : List Char} {s t : Member Shape} (listed : s ∈ shapes) (listed' : t ∈ shapes)
    (spells : Spells token s.key) (spells' : Spells token t.key) : s = t :=
  List.inj_on_of_nodup_map distinct listed listed' (spells.unique spells')

/-- The document of a value says that value. -/
theorem Fits.means {shape : Shape} {j : Json} (h : shape.Fits j) : shape.Means (.ofJson j) j := by
  induction h with
  | text s => exact .text (spells_quoted s)
  | flag b =>
    cases b with
    | true => exact .yes
    | false => exact .no
  | nothing => exact .nothing
  | something s => exact .something (spells_quoted s)
  | choice offered => exact .choice (spells_quoted _) offered
  | @list item items _ ih =>
    have all : ∀ p ∈ items.map fun j => (Document.ofJson j, j), item.Means p.1 p.2 := by
      simpa using ih
    simpa [Document.ofJson, Document.ofItems_eq_map, Function.comp_def] using Means.list all
  | @record shapes value distinct _ ih =>
    rw [Document.ofJson, Document.ofMembers_eq_map, List.map_map]
    refine .record distinct ?_ ?_ ?_ ?_ ?_
    · intro m mem
      obtain ⟨s, _, rfl⟩ := List.mem_map.1 mem
      exact ⟨s.key, spells_quoted s.key⟩
    · refine List.pairwise_map.2 ((List.pairwise_map.1 distinct).imp fun apart t _ both => apart ?_)
      exact ((spells_quoted _).unique both.1).trans ((spells_quoted _).unique both.2).symm
    · intro m mem unknown
      obtain ⟨s, listed, rfl⟩ := List.mem_map.1 mem
      exact absurd (spells_quoted s.key) (unknown s listed)
    · intro t listed m mem spells
      obtain ⟨s, listed', rfl⟩ := List.mem_map.1 mem
      obtain rfl := eq_of_spells distinct listed' listed (spells_quoted s.key) spells
      exact ih s listed
    · intro s listed none
      exact absurd (spells_quoted s.key) (none _ (List.mem_map.2 ⟨s, listed, rfl⟩))

end Shape
end Registrar.Json
