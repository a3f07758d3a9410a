import Registrar.OrderedSet

/-! What is registered for one class, once all that is declared for it has been brought together. -/
namespace Registrar

/-- The capabilities that are asked for a class. -/
structure Capabilities where
  constructors : Bool := false
  methods : Bool := false
  fields : Bool := false
  finalFieldsWritable : Bool := false
  weak : Bool := false
  serialization : Bool := false
  deriving DecidableEq

namespace Capabilities

/-- What either of the two asks for. -/
def union (a b : Capabilities) : Capabilities where
  constructors := a.constructors || b.constructors
  methods := a.methods || b.methods
  fields := a.fields || b.fields
  finalFieldsWritable := a.finalFieldsWritable || b.finalFieldsWritable
  weak := a.weak || b.weak
  serialization := a.serialization || b.serialization

instance : Union Capabilities := ⟨union⟩

/-- The capabilities that are asked for, named and in their fixed order. -/
def names (c : Capabilities) : List String :=
  (if c.constructors then ["CONSTRUCTORS"] else []) ++ (if c.methods then ["METHODS"] else []) ++
    (if c.fields then ["FIELDS"] else []) ++
    (if c.finalFieldsWritable then ["FINAL_FIELDS_WRITABLE"] else []) ++
    (if c.weak then ["WEAK"] else []) ++ (if c.serialization then ["SERIALIZATION"] else [])

def text (c : Capabilities) : String := " | ".intercalate c.names

/-- One bit for each capability, the first of them the lowest. -/
def bits (c : Capabilities) : Nat :=
  c.constructors.toNat + 2 * c.methods.toNat + 4 * c.fields.toNat +
    8 * c.finalFieldsWritable.toNat + 16 * c.weak.toNat + 32 * c.serialization.toNat

/-- Bits above the sixth are dropped. -/
def ofBits (bits : Nat) : Capabilities where
  constructors := bits.testBit 0
  methods := bits.testBit 1
  fields := bits.testBit 2
  finalFieldsWritable := bits.testBit 3
  weak := bits.testBit 4
  serialization := bits.testBit 5

theorem union_assoc (a b c : Capabilities) : a ∪ b ∪ c = a ∪ (b ∪ c) := by
  simp [Union.union, union, Bool.or_assoc]

theorem union_comm (a b : Capabilities) : a ∪ b = b ∪ a := by
  simp [Union.union, union, Bool.or_comm]

@[simp] theorem union_self (a : Capabilities) : a ∪ a = a := by
  simp [Union.union, union]

@[simp] theorem union_none (a : Capabilities) : a ∪ {} = a := by
  simp [Union.union, union]

end Capabilities

/-- The name and the exact parameter types of a method or constructor. -/
structure Signature where
  name : String
  params : List String
  deriving DecidableEq

/-- All that is registered for one class that is reached by reflection. -/
structure ClassRecord where
  className : String
  capabilities : Capabilities := {}
  constructors : OrderedSet Signature := .empty
  methods : OrderedSet Signature := .empty
  fields : OrderedSet String := .empty
  deriving DecidableEq

/-- What is registered for one class that is reached from native code. -/
structure JniRecord where
  className : String
  constructors : Bool
  methods : Bool
  fields : Bool
  finalFieldsWritable : Bool
  deriving DecidableEq

end Registrar
