import Registrar.Proofs.Encoding.Grammar
import Registrar.Proofs.Encoding.Reading
import Mathlib.Data.Nat.Bitwise

/-! Decoding accepts the forms of the grammar and nothing else. Whatever a reader takes from the
front of its input is a form of what it gives, and from a form it gives back what the form is of. -/
namespace Registrar
namespace Reader

variable {α β : Type}

/-! ### Lists -/

theorem Sound.times {r : Reader α} {form : α → List UInt8 → Prop} (h : Sound r form) (n : Nat) :
    Sound (times r n) fun as bytes => as.length = n ∧ Row form as bytes := by
  induction n with
  | zero => exact .pure ⟨rfl, .nil⟩
  | succ n ih =>
    refine h.bind fun a front first => ih.last (a :: ·) fun as back rest => ?_
    exact ⟨congrArg Nat.succ rest.1, .cons first rest.2⟩

theorem Sound.counted {r : Reader α} {form : α → List UInt8 → Prop} (h : Sound r form) :
    Sound (counted r) (Counted form) := by
  refine sound_word.bind_written fun n => ?_
  intro input as rest took
  obtain ⟨front, split, length, row⟩ := h.times n.toNat input as rest took
  exact ⟨front, split, .row n length row⟩

/-! ### Texts -/

theorem sound_text : Sound readText TextForm := by
  refine sound_word.bind_written fun count => ?_
  intro input s rest h
  cases took : takeExactly count.toNat input with
  | none =>
    simp only [took] at h
    cases h
  | some parts =>
    obtain ⟨front, behind⟩ := parts
    simp only [took] at h
    cases valid : String.fromUTF8? ⟨front.toArray⟩ with
    | none =>
      simp only [valid] at h
      cases h
    | some text =>
      simp only [valid] at h
      cases h
      obtain ⟨rfl, length⟩ := takeExactly_eq_some took
      have bytes := textBytes_of_fromUTF8? valid
      refine ⟨front, rfl, ?_⟩
      rw [← bytes] at length ⊢
      exact .utf8 count length

/-! ### Parts of an instruction -/

theorem sound_optionalValue : Sound readOptionalValue OptionalForm := by
  refine sound_byte.bind_written fun flag => ?_
  split
  case isTrue zero =>
    subst zero
    exact .pure .absent
  case isFalse set => exact sound_value.last_written some fun v => .present set v

theorem sound_invokeKind : Sound readInvokeKind fun k bytes => bytes = [k.code] := by
  refine sound_byte.bind_written fun code => ?_
  split
  · exact .pure rfl
  · exact .pure rfl
  · exact .pure rfl
  · exact .fail _

section

variable {pool : List String}

theorem sound_string : Sound (readString pool.toArray) (StringForm pool) := by
  refine sound_word.bind_written fun index => ?_
  rw [List.getElem?_toArray]
  cases there : pool[index.toNat]? with
  | none => exact .fail _
  | some s => exact .pure (by rw [List.append_nil]; exact .place index there)

theorem sound_strings : Sound (counted (readString pool.toArray)) (Counted (StringForm pool)) :=
  sound_string.counted

theorem sound_method : Sound (readMethod pool.toArray) (MethodForm pool) :=
  sound_string.bind fun _ _ owner => sound_string.bind fun _ _ name =>
    sound_strings.bind fun _ _ params => sound_string.last _ fun _ _ returns =>
      .parts owner name params returns

/-- The induction is on the depth. -/
theorem sound_instruction (depth : Nat) :
    Sound (readInstruction pool.toArray depth) (InstructionForm pool) := by
  induction depth with
  | zero => exact .fail _
  | succ depth ih =>
    have block := ih.counted
    unfold readInstruction
    refine sound_byte.bind_written fun op => ?_
    -- The codes from 1 on, in their order, and at the end all others.
    split
    · exact sound_value.last_written _ fun d => .constNull d
    · refine sound_value.bind_written fun d => sound_byte.last_written _ fun flag => ?_
      cases set : flag != 0
      · rw [bne_eq_false_iff_eq.1 set]
        exact .constFalse d
      · exact .constTrue d (bne_iff_ne.1 set)
    · refine sound_value.bind_written fun d => sound_word.last_written _ fun n => ?_
      exact .constInt d n.toInt32
    · exact sound_value.bind_written fun d => sound_string.last _ fun _ _ text => .constStr d text
    · exact sound_value.bind_written fun d => sound_string.last _ fun _ _ name => .loadClass d name
    · exact sound_value.bind_written fun d => sound_half.last_written _ fun index => .param d index
    · refine sound_value.bind_written fun d => sound_invokeKind.bind_written fun k => ?_
      refine sound_method.bind fun _ _ method => sound_optionalValue.bind fun _ _ receiver => ?_
      exact sound_value.counted.last _ fun _ _ args =>
        (InstructionForm.invoke d k method receiver args :)
    · exact sound_value.bind_written fun d => sound_string.last _ fun _ _ name => .newInstance d name
    · refine sound_value.bind_written fun d => sound_string.bind fun _ _ component => ?_
      exact sound_word.last_written _ fun length => .newArray d length component
    · refine sound_value.bind_written fun array => sound_word.bind_written fun index => ?_
      exact sound_value.last_written _ fun v => .store array index v
    · exact sound_value.bind_written fun d => sound_string.last _ fun _ _ name => .declare d name
    · refine sound_value.bind_written fun target => ?_
      exact sound_value.last_written _ fun v => .assign target v
    · refine sound_value.bind_written fun condition => block.bind fun _ _ onTrue => ?_
      exact block.last _ fun _ _ onFalse => .branch condition onTrue onFalse
    · refine block.bind fun _ _ body => sound_string.bind fun _ _ type => ?_
      refine sound_value.bind_written fun caught => block.last _ fun _ _ handler => ?_
      exact .isolate caught body type handler
    · exact sound_optionalValue.last _ fun _ _ value => .leave value
    · exact .fail _

/-! ### Routines and units -/

/-- Testing a bit of a half word by a mask. -/
theorem and_ne_zero_eq_testBit (word mask : UInt16) {k : Nat} (is : mask.toNat = 2 ^ k) :
    (word &&& mask != 0) = word.toNat.testBit k := by
  have masked : (word &&& mask).toNat = (word.toNat.testBit k).toNat * 2 ^ k := by
    rw [UInt16.toNat_and, is, Nat.and_two_pow]
  rw [Bool.eq_iff_iff, bne_iff_ne, ne_eq, ← UInt16.toNat_inj, masked]
  cases word.toNat.testBit k <;> simp

theorem sound_modifiers : Sound (Modifiers.ofBits <$> half) ModifiersForm := by
  refine sound_half.map _ fun word _ is => ?_
  subst is
  exact .bits word (and_ne_zero_eq_testBit word 1 rfl) (and_ne_zero_eq_testBit word 2 rfl)
    (and_ne_zero_eq_testBit word 8 rfl)

theorem sound_routine (depth : Nat) :
    Sound (readRoutine pool.toArray depth) (RoutineForm pool) := by
  refine sound_string.bind fun _ _ name => sound_modifiers.bind fun _ _ modifiers => ?_
  refine sound_strings.bind fun _ _ params => sound_string.bind fun _ _ returns => ?_
  refine sound_word.bind_written fun count => ?_
  refine (sound_instruction depth).counted.last _ fun _ _ body => ?_
  exact .parts (r := ⟨_, _, _, _, count, _⟩) name modifiers params returns body

theorem sound_body (depth : Nat) : Sound (readBody pool.toArray depth) (BodyForm pool) := by
  refine sound_string.bind fun _ _ name => sound_string.bind fun _ _ superClass => ?_
  refine sound_strings.bind fun _ _ interfaces => sound_strings.bind fun _ _ annotations => ?_
  refine (sound_routine depth).counted.last _ fun _ _ routines => ?_
  exact .parts (u := ⟨_, _, _, _, _⟩) name superClass interfaces annotations routines

end

theorem sound_magic : Sound readMagic fun _ bytes => bytes = magic := by
  refine sound_byte.bind_written fun a => sound_byte.bind_written fun b => ?_
  refine sound_byte.bind_written fun c => sound_byte.bind_written fun d => ?_
  dsimp only
  split
  case isTrue => exact .fail _
  case isFalse same => exact .pure (not_not.1 same)

theorem sound_version : Sound readVersion fun _ bytes => bytes = wordBytes formatVersion := by
  refine sound_word.bind_written fun version => ?_
  split
  case isTrue => exact .fail _
  case isFalse same =>
    rw [not_not.1 same]
    exact .pure rfl

theorem sound_unit (depth : Nat) : Sound (readUnit depth) UnitForm := by
  refine sound_magic.bind_written fun _ => sound_version.bind_written fun _ => ?_
  exact sound_text.counted.bind fun pool _ texts => (sound_body depth).mono fun _ _ body =>
    .parts pool texts body

/-! ### Reading forms -/

section

variable {α : Type} {r : Reader α} {form : α → List UInt8 → Prop} {n : Nat}
  (each : ∀ a front, form a front → front.length ≤ n → Reads r front a)

include each

/-- Items that are read from their forms, as long as these are short, are read in a row. -/
theorem reads_row {as : List α} {bytes : List UInt8} (row : Row form as bytes)
    (short : bytes.length ≤ n) : Reads (times r as.length) bytes as := by
  induction row with
  | nil => exact .pure []
  | @cons a as front back first _ ih =>
    rw [List.length_append] at short
    exact (each a front first (by omega)).bind ((ih (by omega)).bind_pure (a :: ·))

theorem reads_counted {as : List α} {bytes : List UInt8} (list : Counted form as bytes)
    (short : bytes.length ≤ n) : Reads (counted r) bytes as := by
  obtain ⟨count, length, row⟩ := list
  rw [List.length_append] at short
  refine (reads_word count).bind ?_
  rw [← length]
  exact reads_row each row (by omega)

end

theorem reads_textForm {s : String} {bytes : List UInt8} (h : TextForm s bytes) :
    Reads readText bytes s := by
  obtain ⟨count, length⟩ := h
  refine (reads_word count).bind ?_
  intro rest
  simp only [← length, takeExactly_append, fromUTF8?_textBytes]

theorem reads_optionalForm {v : Option ValueId} {bytes : List UInt8} (h : OptionalForm v bytes) :
    Reads readOptionalValue bytes v := by
  cases h with
  | absent => exact .cons (.pure none)
  | @present flag set v =>
    refine .cons ?_
    rw [if_neg set]
    exact (reads_value v).bind_pure some

section

variable {pool : List String}

theorem reads_stringForm {s : String} {bytes : List UInt8} (h : StringForm pool s bytes) :
    Reads (readString pool.toArray) bytes s := by
  obtain ⟨index, there⟩ := h
  have step : Reads (readString pool.toArray) (wordBytes index ++ []) s := by
    refine (reads_word index).bind ?_
    rw [List.getElem?_toArray, there]
    exact .pure s
  rwa [List.append_nil] at step

theorem reads_stringForms {ss : List String} {bytes : List UInt8}
    (h : Counted (StringForm pool) ss bytes) :
    Reads (counted (readString pool.toArray)) bytes ss :=
  reads_counted (fun _ _ form _ => reads_stringForm form) h le_rfl

theorem reads_methodForm {m : MethodRef} {bytes : List UInt8} (h : MethodForm pool m bytes) :
    Reads (readMethod pool.toArray) bytes m := by
  obtain ⟨owner, name, params, returns⟩ := h
  refine (reads_stringForm owner).bind ((reads_stringForm name).bind ?_)
  exact (reads_stringForms params).bind ((reads_stringForm returns).bind_pure _)

/-- No form of an instruction has fewer bytes than its nesting has levels. -/
theorem reads_instructionForm (depth : Nat) {i : Instruction} {bytes : List UInt8}
    (h : InstructionForm pool i bytes) (short : bytes.length ≤ depth) :
    Reads (readInstruction pool.toArray depth) bytes i := by
  -- An inner block is shorter than its instruction, so that the depth is enough for it, too.
  induction depth generalizing i bytes with
  | zero => cases h <;> simp at short
  | succ depth ih =>
    have block {is : List Instruction} {bytes : List UInt8}
        (list : Counted (InstructionForm pool) is bytes) (short : bytes.length ≤ depth) :
        Reads (counted (readInstruction pool.toArray depth)) bytes is :=
      reads_counted (fun _ _ form short => ih form short) list short
    cases h with
    | constNull d => exact .cons ((reads_value d).bind_pure _)
    | constFalse d => exact .cons ((reads_value d).bind (.cons (.pure _)))
    | @constTrue d flag set =>
      have given : Reads (byte >>= fun b => pure (Instruction.const d (.bool (b != 0)))) [flag]
          (.const d (.bool true)) := by
        rw [← bne_iff_ne.2 set]
        exact .cons (.pure _)
      exact .cons ((reads_value d).bind given)
    | constInt d n => exact .cons ((reads_value d).bind ((reads_word n.toUInt32).bind_pure _))
    | constStr d text => exact .cons ((reads_value d).bind ((reads_stringForm text).bind_pure _))
    | loadClass d name => exact .cons ((reads_value d).bind ((reads_stringForm name).bind_pure _))
    | param d index => exact .cons ((reads_value d).bind ((reads_half index).bind_pure _))
    | invoke d k method receiver args =>
      refine .cons ((reads_value d).bind ((reads_invokeKind k).bind ?_))
      refine (reads_methodForm method).bind ((reads_optionalForm receiver).bind ?_)
      refine (reads_counted (fun v _ is _ => ?_) args le_rfl).bind_pure _
      subst is
      exact reads_value v
    | newInstance d name => exact .cons ((reads_value d).bind ((reads_stringForm name).bind_pure _))
    | newArray d length component =>
      refine .cons ((reads_value d).bind ((reads_stringForm component).bind ?_))
      exact (reads_word length).bind_pure _
    | store array index v =>
      refine .cons ((reads_value array).bind ((reads_word index).bind ?_))
      exact (reads_value v).bind_pure _
    | declare d name => exact .cons ((reads_value d).bind ((reads_stringForm name).bind_pure _))
    | assign target v => exact .cons ((reads_value target).bind ((reads_value v).bind_pure _))
    | branch condition onTrue onFalse =>
      simp only [List.length_cons, List.length_append] at short
      refine .cons ((reads_value condition).bind ((block onTrue (by omega)).bind ?_))
      exact (block onFalse (by omega)).bind_pure _
    | isolate caught body type handler =>
      simp only [List.length_cons, List.length_append] at short
      refine .cons ((block body (by omega)).bind ((reads_stringForm type).bind ?_))
      exact (reads_value caught).bind ((block handler (by omega)).bind_pure _)
    | leave value => exact .cons ((reads_optionalForm value).bind_pure _)

/-! ### Reading units -/

theorem ofBits_of_form {m : Modifiers} {word : UInt16}
    (isPublic : m.isPublic = word.toNat.testBit 0) (isPrivate : m.isPrivate = word.toNat.testBit 1)
    (isStatic : m.isStatic = word.toNat.testBit 3) : Modifiers.ofBits word = m := by
  rw [← and_ne_zero_eq_testBit word 1 rfl] at isPublic
  rw [← and_ne_zero_eq_testBit word 2 rfl] at isPrivate
  rw [← and_ne_zero_eq_testBit word 8 rfl] at isStatic
  obtain ⟨_, _, _⟩ := m
  cases isPublic
  cases isPrivate
  cases isStatic
  rfl

theorem reads_modifiersForm {m : Modifiers} {bytes : List UInt8} (h : ModifiersForm m bytes) :
    Reads (Modifiers.ofBits <$> half) bytes m := by
  obtain ⟨word, isPublic, isPrivate, isStatic⟩ := h
  rw [← ofBits_of_form isPublic isPrivate isStatic]
  exact (reads_half word).map Modifiers.ofBits

theorem reads_routineForm (depth : Nat) {r : Routine} {bytes : List UInt8}
    (h : RoutineForm pool r bytes) (short : bytes.length ≤ depth) :
    Reads (readRoutine pool.toArray depth) bytes r := by
  obtain ⟨name, modifiers, params, returns, body⟩ := h
  simp only [List.length_append] at short
  refine (reads_stringForm name).bind ((reads_modifiersForm modifiers).bind ?_)
  refine (reads_stringForms params).bind ((reads_stringForm returns).bind ?_)
  refine (reads_word _).bind (Reads.bind_pure ?_ _)
  exact reads_counted (fun _ _ => reads_instructionForm depth) body (by omega)

theorem reads_bodyForm (depth : Nat) {u : CodeUnit} {bytes : List UInt8}
    (h : BodyForm pool u bytes) (short : bytes.length ≤ depth) :
    Reads (readBody pool.toArray depth) bytes u := by
  obtain ⟨name, superClass, interfaces, annotations, routines⟩ := h
  simp only [List.length_append] at short
  refine (reads_stringForm name).bind ((reads_stringForm superClass).bind ?_)
  refine (reads_stringForms interfaces).bind ((reads_stringForms annotations).bind ?_)
  exact (reads_counted (fun _ _ => reads_routineForm depth) routines (by omega)).bind_pure _

end

theorem reads_unitForm (depth : Nat) {u : CodeUnit} {bytes : List UInt8} (h : UnitForm u bytes)
    (short : bytes.length ≤ depth) : Reads (readUnit depth) bytes u := by
  obtain ⟨pool, texts, body⟩ := h
  simp only [List.length_append] at short
  have front : Reads readMagic magic () := fun rest => rfl
  have version : Reads readVersion (wordBytes formatVersion) () := fun rest => rfl
  refine front.bind (version.bind ?_)
  have texts' : Reads (counted readText) _ pool :=
    reads_counted (fun _ _ form _ => reads_textForm form) texts le_rfl
  exact texts'.bind (reads_bodyForm depth body (by omega))

end Reader

/-- Exactly the forms of a unit are decoded to it. -/
theorem CodeUnit.decode_eq_ok_iff (bytes : List UInt8) (u : CodeUnit) :
    decode bytes = .ok u ↔ UnitForm u bytes := by
  unfold decode
  constructor
  · intro decoded
    split at decoded
    case h_1 => cases decoded
    case h_2 u' ran =>
      cases decoded
      obtain ⟨front, split, form⟩ := Reader.sound_unit _ _ _ _ ran
      rw [List.append_nil] at split
      rwa [split]
    case h_3 => cases decoded
  · intro form
    have read := Reader.reads_unitForm (bytes.length + 1) form (Nat.le_succ _) []
    rw [List.append_nil] at read
    rw [read]

end Registrar
