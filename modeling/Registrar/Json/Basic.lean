/-! The values that manifests, options and plans are made of. Objects keep the order of their
members, and there are no numbers. -/
namespace Registrar

inductive Json where
  | null
  | flag (value : Bool)
  | text (value : String)
  | list (items : List Json)
  | object (members : List (String × Json))

namespace Json

def texts (values : List String) : Json := .list (values.map .text)

/-- The member of an object under a key. -/
def member? (j : Json) (key : String) : Option Json :=
  match j with
  | object members => members.lookup key
  | _ => none

/-! What a value is as data of one kind; a value of another kind is empty. -/

def asText? : Json → Option String
  | text s => some s
  | _ => none

def asText (j : Json) : String := j.asText?.getD ""

def asFlag : Json → Bool
  | flag b => b
  | _ => false

def asItems : Json → List Json
  | list items => items
  | _ => []

end Json
end Registrar
