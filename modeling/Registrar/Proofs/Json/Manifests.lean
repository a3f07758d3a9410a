import Mathlib.Data.List.Basic
import Registrar.Declarations.Format
import Registrar.Proofs.Json.Editing

/-! Manifests read back what they say. -/
namespace Registrar

open Json (Codec Document Field Library Shape)

namespace Json

/-! ### Codecs that lose nothing -/

/-- Data stand as values of their shape, and come back from them. -/
structure Codec.Lawful {α : Type} (c : Codec α) : Prop where
  regular : c.shape.Regular
  fits (a : α) : c.shape.Fits (c.toJson a)
  back (a : α) : c.ofJson (c.toJson a) = a

/-- What stands in a field is a value of its shape. -/
structure Field.Lawful {α : Type} (f : Field α) : Prop where
  regular : f.shape.Regular
  fits (a : α) : f.shape.Fits (f.get a)

namespace Codec

variable {α β : Type}

@[simp] theorem lawful_text : text.Lawful := ⟨.text, .text, fun _ => rfl⟩

@[simp] theorem lawful_flag : flag.Lawful := ⟨.flag, .flag, fun _ => rfl⟩

@[simp] theorem Lawful.list {c : Codec α} (h : c.Lawful) : c.list.Lawful where
  regular := .list h.regular
  fits as := .list (List.forall_mem_map.2 fun a _ => h.fits a)
  back as := by simp [Codec.list, asItems, Function.comp_def, h.back]

@[simp] theorem lawful_texts : texts.Lawful := lawful_text.list

@[simp] theorem Lawful.field {c : Codec β} (h : c.Lawful) (name : String) (get : α → β)
    (set : α → β → α) : (Field.of name c get set).Lawful :=
  ⟨h.regular, fun a => h.fits (get a)⟩

/-- What a field holds of some data is put into others. -/
@[simp] theorem Lawful.set_get {c : Codec β} (h : c.Lawful) (name : String) (get : α → β)
    (set : α → β → α) (a b : α) :
    (Field.of name c get set).set b ((Field.of name c get set).get a) = set b (get a) :=
  congrArg (set b) (h.back (get a))

section

variable {preset : α} {fields : List (Field α)}
  (distinct : (fields.map fun f => camelCase f.name).Nodup)

include distinct

/-- Under the key of each field stands what is in it. -/
theorem member?_toJson (a : α) {f : Field α} (listed : f ∈ fields) :
    ((struct preset fields).toJson a).member? (camelCase f.name) = some (f.get a) := by
  change (((fields.map fun g => (g.name, g.get a)).map fun g => (camelCase g.1, g.2)).lookup
    (camelCase f.name)) = _
  rw [List.map_map]
  induction fields with
  | nil => cases listed
  | cons g fields ih =>
    obtain ⟨new, distinct⟩ := List.nodup_cons.1 distinct
    rw [List.map_cons, List.lookup_cons]
    rcases List.mem_cons.1 listed with rfl | later
    · simp
    · have other : (camelCase f.name == camelCase g.name) = false := by
        rw [beq_eq_false_iff_ne]
        exact fun same => new (List.mem_map.2 ⟨f, later, same⟩)
      simpa [other] using ih distinct later

theorem fits_struct (h : ∀ f ∈ fields, f.Lawful) (a : α) :
    (struct preset fields).shape.Fits ((struct preset fields).toJson a) := by
  let value (key : String) := (((struct preset fields).toJson a).member? key).getD .null
  have held : ∀ f ∈ fields, value (camelCase f.name) = f.get a := by
    intro f listed
    simp only [value, member?_toJson distinct a listed, Option.getD_some]
  have whole : (struct preset fields).toJson a =
      .object ((fields.map fun f =>
        (⟨camelCase f.name, f.get preset, f.shape⟩ : Json.Member Shape)).map
          fun s => (s.key, value s.key)) := by
    simp only [struct, ofFields, List.map_map]
    exact congrArg object (List.map_congr_left fun f listed => by simp [held f listed])
  rw [whole]
  refine .record (by simpa [Function.comp_def] using distinct) (List.forall_mem_map.2 ?_)
  intro f listed
  rw [held f listed]
  exact (h f listed).fits a

/-- Each field is put where it was. -/
theorem ofJson_toJson (a : α) : (struct preset fields).ofJson ((struct preset fields).toJson a) =
    fields.foldl (fun b f => f.set b (f.get a)) preset := by
  refine List.foldl_ext _ _ preset fun b f listed => ?_
  rw [member?_toJson distinct a listed]
  rfl

/-- A struct loses nothing if its fields lose nothing and hold all there is. -/
theorem lawful_struct (h : ∀ f ∈ fields, f.Lawful)
    (back : ∀ a, fields.foldl (fun b f => f.set b (f.get a)) preset = a) :
    (struct preset fields).Lawful where
  regular := .record (List.forall_mem_map.2 fun f listed => (h f listed).fits preset)
    (List.forall_mem_map.2 fun f listed => (h f listed).regular)
  fits := fits_struct distinct h
  back a := (ofJson_toJson distinct a).trans (back a)

end

end Codec
end Json

/-! ### The structs of a manifest -/

open Json.Codec

@[simp] theorem ReflectiveClass.lawful_codec : codec.Lawful :=
  lawful_struct (by decide) (by simp) fun _ => by simp

@[simp] theorem ReflectiveField.lawful_codec : codec.Lawful :=
  lawful_struct (by decide) (by simp) fun _ => by simp

@[simp] theorem ReflectiveMethod.lawful_codec : codec.Lawful :=
  lawful_struct (by decide) (by simp) fun _ => by simp

@[simp] theorem JniAccess.lawful_codec : codec.Lawful :=
  lawful_struct (by decide) (by simp) fun _ => by simp

@[simp] theorem ResourceList.lawful_codec : codec.Lawful :=
  lawful_struct (by decide) (by simp) fun _ => by simp

@[simp] theorem ResourcePatterns.lawful_codec : codec.Lawful :=
  lawful_struct (by decide) (by simp) fun _ => by simp

@[simp] theorem ResourceBundle.lawful_codec : codec.Lawful :=
  lawful_struct (by decide) (by simp) fun _ => by simp

@[simp] theorem ServiceProvider.lawful_codec : codec.Lawful :=
  lawful_struct (by decide) (by simp) fun _ => by simp

@[simp] theorem ProxyDefinition.lawful_codec : codec.Lawful :=
  lawful_struct (by decide) (by simp) fun _ => by simp

@[simp] theorem RuntimeInitializedClass.lawful_codec : codec.Lawful :=
  lawful_struct (by decide) (by simp) fun _ => by simp

@[simp] theorem RuntimeInitializedPackage.lawful_codec : codec.Lawful :=
  lawful_struct (by decide) (by simp) fun _ => by simp

@[simp] theorem RuntimeReinitializedClass.lawful_codec : codec.Lawful :=
  lawful_struct (by decide) (by simp) fun _ => by simp

@[simp] theorem UnsafeAccessedField.lawful_codec : codec.Lawful :=
  lawful_struct (by decide) (by simp) fun _ => by simp

@[simp] theorem OrderedSet.lawful_codec : codec.Lawful where
  regular := lawful_texts.regular
  fits s := lawful_texts.fits s.toList
  back s := by
    change OrderedSet.ofList (texts.ofJson (texts.toJson s.toList)) = s
    rw [lawful_texts.back, ofList_toList]

@[simp] theorem CipherRequest.lawful_codec : codec.Lawful :=
  lawful_struct (by decide) (by simp) fun _ => by simp

theorem Declarations.lawful_codec : codec.Lawful :=
  lawful_struct (by decide +kernel) (by simp) fun _ => by simp

/-- Declarations are written as their document. However its members are ordered and spaced, whatever
defaults are left out and whatever else is added, it is read as the same declarations. -/
theorem Declarations.read_edited (lib : Library) (documented : lib.Documented) (d : Declarations) :
    (Document.ofJson (codec.toJson d)).WrittenAs (lib.write (codec.toJson d)) ∧
      ∀ doc text, codec.shape.Edited (.ofJson (codec.toJson d)) doc → doc.WrittenAs text →
        codec.read lib text = .ok d := by
  refine ⟨documented.writes _, fun doc text edited written => ?_⟩
  have start := (lawful_codec.fits d).means
  have means := edited.means lawful_codec.regular start
  have read := documented.reads (by decide) means written
  rw [Codec.read, read]
  exact congrArg Except.ok (lawful_codec.back d)

open Json in
/-- A default is left out of an inner record and the others of the outer one, whose members change
places with one that nobody knows. -/
theorem Declarations.read_edited_moved :
    let d : Declarations :=
      { unsafeAccessedFields := [⟨"", "f"⟩], cipherRequests := [⟨.ofList ["b", "a"]⟩] }
    Library.standard.Documented ∧
      Declarations.codec.read .standard
        "\x7b\"cipherTransformations\": [\x7b\"cipherTransformations\":[\"b\",\"a\"]\x7d],
 \"more\" : [1e999, \x7b\"k\":null\x7d],
 \"unsafeAccessedFields\":[\x7b\"fieldName\":\"f\"\x7d]\x7d " = .ok d := by
  intro d
  let known : List (Json.Member Shape) := match Declarations.codec.shape with
    | .record members => members
    | _ => []
  let more : Document := .list [.scalar ['1', 'e', '9', '9', '9'],
    .object [(quoted "k", .scalar ['n', 'u', 'l', 'l'])]]
  let name := (quoted (camelCase "field_name"), Document.ofJson (.text "f"))
  let fields (members : List (List Char × Document)) :=
    (quoted (camelCase "unsafe_accessed_fields"), Document.list [.object members])
  let ciphers := (quoted (camelCase "cipher_transformations"),
    Document.ofJson (.list (d.cipherRequests.map CipherRequest.codec.toJson)))
  have dropped : Declarations.codec.shape.Edited (.ofJson (Declarations.codec.toJson d)) (.object
      [fields [(quoted (camelCase "declaring_class"), .ofJson (.text "")), name], ciphers]) :=
    Shape.edited_drop (List.take_subset 12 known) _
  have inner : Declarations.codec.shape.Edit
      (.object [fields [(quoted (camelCase "declaring_class"), .ofJson (.text "")), name], ciphers])
      (.object [fields [name], ciphers]) :=
    .member (s := ⟨camelCase "unsafe_accessed_fields", .list [], .list UnsafeAccessedField.codec.shape⟩)
      (List.mem_of_getElem? (i := 12) rfl)
      (.item (.drop (s := ⟨camelCase "declaring_class", .text "", .text⟩)
        (List.mem_of_getElem? (i := 0) rfl) _) [] []) _
  have number : IsMagnitude (['1'] ++ ([] ++ 'e' :: ([] ++ ['9', '9', '9']))) :=
    .mk ⟨by simp, by simp⟩ (by simp) .none (.some (.inl rfl) (by simp) ⟨by simp, by simp⟩)
  have key : IsString (quoted "k") :=
    ⟨[['k']], by simpa using .plain (by decide) (by decide) (by decide), rfl⟩
  have valid : more.WellFormed := by
    refine .list (List.forall_mem_cons.2 ⟨.scalar (.positive number), List.forall_mem_singleton.2 ?_⟩)
    exact .object (List.forall_mem_singleton.2 key) (List.forall_mem_singleton.2 (.scalar .null))
  have added : Declarations.codec.shape.Edit (.object [fields [name], ciphers])
      (.object [(quoted "more", more), fields [name], ciphers]) :=
    .add (spells_quoted "more") (by decide +kernel) valid _
  have moved : Declarations.codec.shape.Edit
      (.object [(quoted "more", more), fields [name], ciphers])
      (.object [ciphers, (quoted "more", more), fields [name]]) :=
    .permute (show List.Perm ([_, _] ++ [_]) ([_] ++ [_, _]) from List.perm_append_comm)
  have documented := Library.standard_documented
  refine ⟨documented, (read_edited .standard documented d).2 _ _
    (((dropped.tail inner).tail added).tail moved) (Spaced.of_check (by decide +kernel))⟩

end Registrar
