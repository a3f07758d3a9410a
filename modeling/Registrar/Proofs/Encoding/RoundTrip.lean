import Registrar.Proofs.Encoding.Recognition
import Registrar.Proofs.Encoding.Writing

/-! Decoding undoes encoding. What is written for a unit is one of its forms, if its strings can be
read back from their places and its lengths fit; the pool that the encoder makes has a place for
every string of the unit. -/
namespace Registrar
open Reader

/-! ### Lists -/

theorem Row.flatMap {α : Type} {form : α → List UInt8 → Prop} {write : α → List UInt8}
    {as : List α} (h : ∀ a ∈ as, form a (write a)) : Row form as (as.flatMap write) := by
  induction as with
  | nil => exact .nil
  | cons a as ih =>
    exact .cons (h a List.mem_cons_self) (ih fun b hb => h b (List.mem_cons_of_mem a hb))

/-- A list whose length fits has it written in front. -/
theorem Row.counted {α : Type} {form : α → List UInt8 → Prop} {as : List α} {bytes : List UInt8}
    (h : Row form as bytes) (fits : as.length < UInt32.size) :
    Counted form as (countBytes as.length ++ bytes) :=
  .row _ (UInt32.toNat_ofNat_of_lt' fits).symm h

/-! ### Parts of units -/

theorem form_optionalValue (v : Option ValueId) : OptionalForm v (optionalValueBytes v) := by
  cases v with
  | none => exact .absent
  | some v => exact .present (by decide) v

theorem form_modifiers (m : Modifiers) : ModifiersForm m (halfBytes m.bits) := by
  obtain ⟨isPublic, isPrivate, isStatic⟩ := m
  cases isPublic <;> cases isPrivate <;> cases isStatic <;> exact .bits _ rfl rfl rfl

theorem form_text {s : String} (fits : s.utf8ByteSize < UInt32.size) :
    TextForm s (countBytes s.utf8ByteSize ++ textBytes s) :=
  .utf8 _ (by rw [length_textBytes, UInt32.toNat_ofNat_of_lt' fits])

section

variable {pool : List String} {place : String → UInt32}

/-- From the place that is written for a string, the pool gives the string back. -/
def Placed (pool : Array String) (place : String → UInt32) (s : String) : Prop :=
  pool[(place s).toNat]? = some s

theorem form_string {s : String} (h : Placed pool.toArray place s) :
    StringForm pool s (stringBytes place s) :=
  .place _ (by rwa [Placed, List.getElem?_toArray] at h)

theorem form_stringList {ss : List String} (h : ∀ s ∈ ss, Placed pool.toArray place s)
    (fits : ss.length < UInt32.size) :
    Counted (StringForm pool) ss (stringListBytes place ss) :=
  (Row.flatMap fun s hs => form_string (h s hs)).counted fits

theorem form_method {m : MethodRef} (owner : Placed pool.toArray place m.owner)
    (name : Placed pool.toArray place m.name) (params : ∀ s ∈ m.params, Placed pool.toArray place s)
    (returns : Placed pool.toArray place m.returns) (fits : m.params.length < UInt32.size) :
    MethodForm pool m (m.bytes place) := by
  simp only [MethodRef.bytes, List.append_assoc]
  exact .parts (form_string owner) (form_string name) (form_stringList params fits)
    (form_string returns)

mutual

theorem form_instruction (i : Instruction) (strings : ∀ s ∈ i.strings, Placed pool.toArray place s)
    (fits : ∀ e ∈ i.extents, e.fits = true) : InstructionForm pool i (i.bytes place) := by
  cases i with
  | const d v =>
    cases v with
    | null => exact .constNull d
    | bool b =>
      cases b with
      | false => exact .constFalse d
      | true => exact .constTrue d (by decide)
    | int n => exact .constInt d n
    | str s => exact .constStr d (form_string (strings s (by simp [Instruction.strings])))
  | loadClass d c => exact .loadClass d (form_string (strings c (by simp [Instruction.strings])))
  | param d index => exact .param d index
  | invoke d k m r as =>
    have params : m.params.length < UInt32.size := by simpa [Extent.fits] using fits _ (.head _)
    have count : as.length < UInt32.size := by simpa [Extent.fits] using fits _ (.tail _ (.head _))
    have method : MethodForm pool m (m.bytes place) := by
      refine form_method ?_ ?_ ?_ ?_ params
      · exact strings m.owner (by simp [Instruction.strings])
      · exact strings m.name (by simp [Instruction.strings])
      · exact fun s hs => strings s (by simp [Instruction.strings, hs])
      · exact strings m.returns (by simp [Instruction.strings])
    have args : Row (fun v bytes => bytes = ValueId.bytes v) as (as.flatMap ValueId.bytes) :=
      .flatMap fun _ _ => rfl
    simp only [Instruction.bytes, List.cons_append, List.append_assoc]
    exact .invoke d k method (form_optionalValue r) (args.counted count)
  | newInstance d c => exact .newInstance d (form_string (strings c (by simp [Instruction.strings])))
  | newArray d c n =>
    simp only [Instruction.bytes, List.cons_append, List.append_assoc]
    exact .newArray d n (form_string (strings c (by simp [Instruction.strings])))
  | store a index v =>
    simp only [Instruction.bytes, List.cons_append, List.append_assoc]
    exact .store a index v
  | declare d t => exact .declare d (form_string (strings t (by simp [Instruction.strings])))
  | assign t v => exact .assign t v
  | branch c a b =>
    simp only [Instruction.strings, Instruction.extents, List.mem_append, List.mem_cons,
      List.cons_append] at strings fits
    have onTrue := form_block a (fun s hs => strings s (by simp [hs]))
      fun e he => fits e (by simp [he])
    have onFalse := form_block b (fun s hs => strings s (by simp [hs]))
      fun e he => fits e (by simp [he])
    have first : a.length < UInt32.size := by
      simpa [Extent.fits] using fits ⟨"instruction", a.length⟩ (by simp)
    have second : b.length < UInt32.size := by
      simpa [Extent.fits] using fits ⟨"instruction", b.length⟩ (by simp)
    have whole := InstructionForm.branch c (onTrue.counted first) (onFalse.counted second)
    simpa only [Instruction.bytes, List.cons_append, List.append_assoc] using whole
  | isolate b e v h =>
    simp only [Instruction.strings, Instruction.extents, List.mem_append, List.mem_cons,
      List.cons_append] at strings fits
    have body := form_block b (fun s hs => strings s (by simp [hs]))
      fun e he => fits e (by simp [he])
    have handler := form_block h (fun s hs => strings s (by simp [hs]))
      fun e he => fits e (by simp [he])
    have first : b.length < UInt32.size := by
      simpa [Extent.fits] using fits ⟨"instruction", b.length⟩ (by simp)
    have second : h.length < UInt32.size := by
      simpa [Extent.fits] using fits ⟨"instruction", h.length⟩ (by simp)
    have whole := InstructionForm.isolate v (body.counted first)
      (form_string (strings e (by simp))) (handler.counted second)
    simpa only [Instruction.bytes, List.cons_append, List.append_assoc] using whole
  | leave v => exact .leave (form_optionalValue v)

theorem form_block (is : List Instruction)
    (strings : ∀ s ∈ Block.strings is, Placed pool.toArray place s)
    (fits : ∀ e ∈ Block.extents is, e.fits = true) :
    Row (InstructionForm pool) is (Block.bytes place is) := by
  cases is with
  | nil => exact .nil
  | cons i is =>
    simp only [Block.strings, List.mem_append] at strings
    simp only [Block.extents, List.mem_append] at fits
    have first := form_instruction i (fun s hs => strings s (.inl hs)) fun e he => fits e (.inl he)
    have others := form_block is (fun s hs => strings s (.inr hs)) fun e he => fits e (.inr he)
    exact .cons first others

end

theorem form_routine (r : Routine) (strings : ∀ s ∈ r.strings, Placed pool.toArray place s)
    (fits : ∀ e ∈ r.extents, e.fits = true) : RoutineForm pool r (r.bytes place) := by
  simp only [Routine.strings, List.cons_append, List.mem_cons, List.mem_append] at strings
  simp only [Routine.extents, List.mem_cons] at fits
  have body := form_block r.body (fun s hs => strings s (by simp [hs]))
    fun e he => fits e (by simp [he])
  have params : r.params.length < UInt32.size := by
    simpa [Extent.fits] using fits ⟨"string list", r.params.length⟩ (by simp)
  have length : r.body.length < UInt32.size := by
    simpa [Extent.fits] using fits ⟨"instruction", r.body.length⟩ (by simp)
  simp only [Routine.bytes, List.append_assoc]
  exact .parts (form_string (strings _ (by simp))) (form_modifiers r.modifiers)
    (form_stringList (fun s hs => strings s (by simp [hs])) params)
    (form_string (strings _ (by simp))) (body.counted length)

end

namespace CodeUnit

variable {pool : List String} {place : String → UInt32}

theorem form_body (u : CodeUnit) (strings : ∀ s ∈ u.strings, Placed pool.toArray place s)
    (fits : ∀ e ∈ u.extents, e.fits = true) : BodyForm pool u (u.bodyBytes place) := by
  simp only [CodeUnit.strings, List.cons_append, List.mem_cons, List.mem_append,
    List.mem_flatMap] at strings
  simp only [extents, List.cons_append, List.mem_cons, List.mem_append, List.mem_flatMap] at fits
  have routine : ∀ r ∈ u.routines, RoutineForm pool r (r.bytes place) := fun r hr =>
    form_routine r (fun s hs => strings s (by grind)) fun e he => fits e (by grind)
  have interfaces : u.interfaces.length < UInt32.size := by
    simpa [Extent.fits] using fits ⟨"string list", u.interfaces.length⟩ (by simp)
  have annotations : u.annotations.length < UInt32.size := by
    simpa [Extent.fits] using fits ⟨"string list", u.annotations.length⟩ (by simp)
  have length : u.routines.length < UInt32.size := by
    simpa [Extent.fits] using fits ⟨"routine", u.routines.length⟩ (by simp)
  simp only [bodyBytes, List.append_assoc]
  exact .parts (form_string (strings _ (by simp))) (form_string (strings _ (by simp)))
    (form_stringList (fun s hs => strings s (by simp [hs])) interfaces)
    (form_stringList (fun s hs => strings s (by simp [hs])) annotations)
    ((Row.flatMap routine).counted length)

/-- The pool of a unit has every string of the unit in the place where it is written to be. -/
theorem placed_pool {u : CodeUnit} (fits : u.pool.length < UInt32.size) {s : String}
    (hs : s ∈ u.strings) : Placed u.pool.toArray (fun s => (u.pool.idxOf s).toUInt32) s := by
  have mem : s ∈ u.pool := List.mem_eraseDups.2 hs
  have lt := List.idxOf_lt_length_of_mem mem
  have index : (u.pool.idxOf s).toUInt32.toNat = u.pool.idxOf s :=
    UInt32.toNat_ofNat_of_lt' (Nat.lt_trans lt fits)
  simp [Placed, index, List.getElem?_idxOf mem]

theorem pool_fits {u : CodeUnit} (fits : ∀ e ∈ u.extents, e.fits = true) :
    u.pool.length < UInt32.size := by
  simpa [Extent.fits] using fits ⟨"string pool", u.pool.length⟩ (by simp [extents])

theorem form_texts {u : CodeUnit} (fits : ∀ e ∈ u.extents, e.fits = true) :
    Counted TextForm u.pool (countBytes u.pool.length ++
      u.pool.flatMap fun s => countBytes s.utf8ByteSize ++ textBytes s) := by
  have text : ∀ s ∈ u.pool, s.utf8ByteSize < UInt32.size := by
    intro s hs
    have mem : ⟨"string byte", s.utf8ByteSize⟩ ∈ u.extents := by
      simp only [extents, List.cons_append, List.mem_cons, List.mem_append, List.mem_map]
      exact .inr (.inr (.inr (.inr (.inr ⟨s, hs, rfl⟩))))
    simpa [Extent.fits] using fits _ mem
  exact (Row.flatMap fun s hs => form_text (text s hs)).counted (pool_fits fits)

/-- What is written for a unit is a form of it. -/
theorem form_unit (u : CodeUnit) (fits : ∀ e ∈ u.extents, e.fits = true) : UnitForm u u.bytes := by
  have body : BodyForm u.pool u (u.bodyBytes fun s => (u.pool.idxOf s).toUInt32) :=
    form_body u (fun s hs => placed_pool (pool_fits fits) hs) fits
  have whole := UnitForm.parts u.pool (form_texts fits) body
  simpa only [bytes, List.append_assoc] using whole

theorem reads_unit (u : CodeUnit) (depth : Nat) (deep : u.bytes.length ≤ depth)
    (fits : ∀ e ∈ u.extents, e.fits = true) : Reads (readUnit depth) u.bytes u :=
  reads_unitForm depth (u.form_unit fits) deep

/-- Whatever was encoded comes back. -/
theorem decode_of_encode {u : CodeUnit} {bytes : List UInt8} (h : u.encode = .ok bytes) :
    decode bytes = .ok u := by
  obtain ⟨fits, rfl⟩ := encode_eq_ok_iff.1 h
  have decoded := reads_unit u _ (Nat.le_succ _) fits []
  rw [List.append_nil] at decoded
  simp [decode, decoded]

/-- A unit whose lengths all fit has an encoded form, and from that form the unit comes back. -/
theorem decode_encode (u : CodeUnit) (fits : ∀ e ∈ u.extents, e.fits = true) :
    ∃ bytes, u.encode = .ok bytes ∧ decode bytes = .ok u := by
  have decoded := reads_unit u _ (Nat.le_succ _) fits []
  rw [List.append_nil] at decoded
  exact ⟨u.bytes, encode_eq_ok_iff.2 ⟨fits, rfl⟩, by simp [decode, decoded]⟩

/-- A region in a branch, with strings that come twice, are empty, or are not ASCII. -/
def nestedUnit : CodeUnit where
  name := "a/Ünit"
  superClass := ""
  interfaces := ["a/Ünit", ""]
  annotations := []
  routines := [
    { name := "run", modifiers := { isPrivate := true, isStatic := true }, params := ["", "x"]
      returns := void, valueCount := 4
      body := [
        .const ⟨0⟩ (.bool true),
        .branch ⟨0⟩
          [.isolate [.const ⟨1⟩ (.int (-2)), .const ⟨2⟩ (.str "日本")] throwable ⟨3⟩
            [.invoke ⟨1⟩ .virtual ⟨"x", "run", ["日本"], void⟩ (some ⟨3⟩) [⟨0⟩, ⟨0⟩]]]
          [],
        .leave (some ⟨0⟩)] }]

theorem decode_encode_nestedUnit :
    (∀ e ∈ nestedUnit.extents, e.fits = true) ∧
      ∃ bytes, nestedUnit.encode = .ok bytes ∧ decode bytes = .ok nestedUnit :=
  ⟨by decide, decode_encode nestedUnit (by decide)⟩

end CodeUnit

end Registrar
