import Registrar.Json.Library

/-! How data stand as JSON values. A struct is a record of its fields: their names are written in
camel case, and a field that is left out is the one of a preset value. -/
namespace Registrar.Json

/-- The words of a name without the underscores between them, each with a capital. -/
def pascalCase (capital : Bool) : List Char → List Char
  | [] => []
  | '_' :: cs => pascalCase true cs
  | c :: cs => (if capital then c.toUpper else c) :: pascalCase false cs

/-- The key of a field: only the words behind the first one have a capital. -/
def camelCase (name : String) : String :=
  match pascalCase true name.toList with
  | [] => ""
  | c :: cs => String.ofList (c.toLower :: cs)

example : camelCase "final_fields_writable" = "finalFieldsWritable" := by decide

/-- The object of some fields. -/
def ofFields (fields : List (String × Json)) : Json :=
  .object (fields.map fun f => (camelCase f.1, f.2))

/-- The shape of some data, and the way to their values and back. -/
structure Codec (α : Type) where
  shape : Shape
  toJson : α → Json
  ofJson : Json → α

/-- A field of a struct: its name, its shape, and the value that stands there. -/
structure Field (α : Type) where
  name : String
  shape : Shape
  get : α → Json
  set : α → Json → α

def Field.of {α β : Type} (name : String) (c : Codec β) (get : α → β) (set : α → β → α) :
    Field α :=
  ⟨name, c.shape, fun a => c.toJson (get a), fun a j => set a (c.ofJson j)⟩

namespace Codec

variable {α : Type}

def text : Codec String := ⟨.text, .text, asText⟩

def flag : Codec Bool := ⟨.flag, .flag, asFlag⟩

def optionalText : Codec (Option String) := ⟨.optionalText, fun s => s.elim .null .text, asText?⟩

def list (c : Codec α) : Codec (List α) :=
  ⟨.list c.shape, fun as => .list (as.map c.toJson), fun j => j.asItems.map c.ofJson⟩

def texts : Codec (List String) := list text

/-- A struct whose fields are preset. -/
def struct (preset : α) (fields : List (Field α)) : Codec α where
  shape := .record (fields.map fun f => ⟨camelCase f.name, f.get preset, f.shape⟩)
  toJson a := ofFields (fields.map fun f => (f.name, f.get a))
  ofJson j := fields.foldl (fun a f => (j.member? (camelCase f.name)).elim a (f.set a)) preset

/-- Reads data from JSON text. -/
def read (c : Codec α) (lib : Library) (text : String) : Except Fault α :=
  c.ofJson <$> lib.read c.shape text

end Codec
end Registrar.Json
