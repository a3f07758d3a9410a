import Registrar.Proofs.Encoding.Recognition

/-! Encoded units end where they say. A reader that has more bytes behind its input does the same as
before and leaves them over. One that has too few of them finds that the data ends, or that a text of
the pool is longer than what remains. -/
namespace Registrar
namespace Reader

variable {α β : Type}

/-! ### Longer inputs -/

/-- On a longer input the second reader does what the first does on this one, unless the first has
failed for want of bytes. -/
structure Continues (wants : FormatError → Prop) (r r' : Reader α) (input : List UInt8) : Prop where
  ok : ∀ more a rest, r input = .ok (a, rest) → r' (input ++ more) = .ok (a, rest ++ more)
  error : ∀ more e, r input = .error e → wants e ∨ r' (input ++ more) = .error e

theorem bind_of_ok {x : Reader α} {f : α → Reader β} {input rest : List UInt8} {a : α}
    (h : x input = .ok (a, rest)) : (x >>= f) input = f a rest := by
  change Except.bind (x input) (fun p => f p.1 p.2) = _
  rw [h]
  rfl

theorem bind_of_error {x : Reader α} {f : α → Reader β} {input : List UInt8} {e : FormatError}
    (h : x input = .error e) : (x >>= f) input = .error e := by
  change Except.bind (x input) (fun p => f p.1 p.2) = _
  rw [h]
  rfl

namespace Continues

variable {wants : FormatError → Prop} {x x' : Reader α} {f f' : α → Reader β} {input : List UInt8}

theorem mono {wants' : FormatError → Prop} (h : Continues wants x x' input)
    (imp : ∀ e, wants e → wants' e) : Continues wants' x x' input where
  ok := h.ok
  error := fun more e failed => (h.error more e failed).imp_left (imp e)

/-- What the second of two readers is left with is known from what the first has taken. -/
protected theorem bind (hx : Continues wants x x' input)
    (hf : ∀ a rest, x input = .ok (a, rest) → Continues wants (f a) (f' a) rest) :
    Continues wants (x >>= f) (x' >>= f') input := by
  constructor
  case ok =>
    intro more b rest ran
    obtain ⟨a, between, first, second⟩ := ok_of_bind ran
    rw [bind_of_ok (hx.ok more a between first)]
    exact (hf a between first).ok more b rest second
  case error =>
    intro more e ran
    cases first : x input with
    | error e' =>
      rw [bind_of_error first] at ran
      obtain rfl := Except.error.inj ran
      exact (hx.error more e' first).imp_right bind_of_error
    | ok taken =>
      obtain ⟨a, between⟩ := taken
      rw [bind_of_ok first] at ran
      rw [bind_of_ok (hx.ok more a between first)]
      exact (hf a between first).error more e ran

end Continues

/-- Whatever the input, the readers want no more than that it goes on. -/
def Steady (r r' : Reader α) : Prop := ∀ input, Continues (· = .endOfData) r r' input

namespace Steady

variable {r r' x x' : Reader α} {f f' : α → Reader β}

protected theorem pure (a : α) : Steady (pure a) (pure a) := by
  intro input
  constructor
  · rintro more _ _ ⟨⟩
    rfl
  · rintro more _ ⟨⟩

protected theorem fail (e : FormatError) : Steady (α := α) (fail e) (fail e) := by
  intro input
  constructor
  · rintro more _ _ ⟨⟩
  · rintro more _ ⟨⟩
    exact .inr rfl

/-- A reader that only says that the data ends may be continued by any other. -/
theorem ended (r : Reader α) : Steady (fail .endOfData) r := by
  intro input
  constructor
  · rintro more _ _ ⟨⟩
  · rintro more _ ⟨⟩
    exact .inl rfl

protected theorem bind (hx : Steady x x') (hf : ∀ a, Steady (f a) (f' a)) :
    Steady (x >>= f) (x' >>= f') :=
  fun input => (hx input).bind fun a rest _ => hf a rest

/-- A last step that reads nothing further. -/
theorem last (hx : Steady x x') (g : α → β) :
    Steady (x >>= fun a => pure (g a)) (x' >>= fun a => pure (g a)) :=
  hx.bind fun a => .pure (g a)

theorem map (hx : Steady x x') (g : α → β) : Steady (g <$> x) (g <$> x') := by
  rw [map_eq_pure_bind, map_eq_pure_bind]
  exact hx.last g

theorem byte : Steady byte byte := by
  intro input
  cases input with
  | nil => exact ⟨nofun, fun _ _ h => .inl (Except.error.inj h).symm⟩
  | cons b input =>
    constructor
    · rintro more _ _ ⟨⟩
      rfl
    · exact nofun

theorem half : Steady half half := by
  intro input
  match input with
  | [] | [_] => exact ⟨nofun, fun _ _ h => .inl (Except.error.inj h).symm⟩
  | a :: b :: input =>
    constructor
    · rintro more _ _ ⟨⟩
      rfl
    · exact nofun

theorem word : Steady word word := by
  intro input
  match input with
  | [] | [_] | [_, _] | [_, _, _] => exact ⟨nofun, fun _ _ h => .inl (Except.error.inj h).symm⟩
  | a :: b :: c :: d :: input =>
    constructor
    · rintro more _ _ ⟨⟩
      rfl
    · exact nofun

theorem times (h : Steady r r') (n : Nat) : Steady (times r n) (times r' n) := by
  induction n with
  | zero => exact .pure []
  | succ n ih => exact h.bind fun a => ih.last (a :: ·)

theorem counted (h : Steady r r') : Steady (counted r) (counted r') :=
  word.bind fun n => h.times n.toNat

theorem value : Steady readValue readValue := word.map ValueId.mk

theorem optionalValue : Steady readOptionalValue readOptionalValue := by
  refine byte.bind fun flag => ?_
  split
  · exact .pure none
  · exact value.last some

theorem invokeKind : Steady readInvokeKind readInvokeKind := by
  refine byte.bind fun code => ?_
  split
  · exact .pure InvokeKind.static
  · exact .pure InvokeKind.virtual
  · exact .pure InvokeKind.interface
  · exact .fail _

section

variable (pool : Array String)

theorem string : Steady (readString pool) (readString pool) := by
  refine word.bind fun place => ?_
  split
  · exact .pure _
  · exact .fail _

theorem strings : Steady (Reader.counted (readString pool)) (Reader.counted (readString pool)) :=
  (string pool).counted

theorem method : Steady (readMethod pool) (readMethod pool) :=
  (string pool).bind fun _ => (string pool).bind fun _ => (strings pool).bind fun _ =>
    (string pool).last _

/-- A deeper reader continues one that is less deep, for which too deep a nesting is the end of the
data. The induction is on the depth of the latter. -/
theorem instruction {depth depth' : Nat} (deeper : depth ≤ depth') :
    Steady (readInstruction pool depth) (readInstruction pool depth') := by
  induction depth generalizing depth' with
  | zero => exact ended _
  | succ depth ih =>
    obtain ⟨depth', rfl⟩ := Nat.exists_eq_add_of_lt deeper
    have block := (ih (Nat.le_add_right depth depth')).counted
    unfold readInstruction
    refine byte.bind fun op => ?_
    -- The codes from 1 on, in their order, and at the end all others.
    split
    · exact value.last _
    · exact value.bind fun d => byte.last _
    · exact value.bind fun d => word.last _
    · exact value.bind fun d => (string pool).last _
    · exact value.bind fun d => (string pool).last _
    · exact value.bind fun d => half.last _
    · refine value.bind fun d => invokeKind.bind fun k => (method pool).bind fun m => ?_
      exact optionalValue.bind fun r => value.counted.last _
    · exact value.bind fun d => (string pool).last _
    · exact value.bind fun d => (string pool).bind fun c => word.last _
    · exact value.bind fun array => word.bind fun index => value.last _
    · exact value.bind fun d => (string pool).last _
    · exact value.bind fun target => value.last _
    · exact value.bind fun condition => block.bind fun onTrue => block.last _
    · refine block.bind fun body => (string pool).bind fun type => ?_
      exact value.bind fun caught => block.last _
    · exact optionalValue.last _
    · exact .fail _

theorem routine {depth depth' : Nat} (deeper : depth ≤ depth') :
    Steady (readRoutine pool depth) (readRoutine pool depth') := by
  refine (string pool).bind fun name => (half.map _).bind fun modifiers => ?_
  refine (strings pool).bind fun params => (string pool).bind fun returns => ?_
  exact word.bind fun count => (instruction pool deeper).counted.last _

theorem body {depth depth' : Nat} (deeper : depth ≤ depth') :
    Steady (readBody pool depth) (readBody pool depth') := by
  refine (string pool).bind fun name => (string pool).bind fun superClass => ?_
  refine (strings pool).bind fun interfaces => (strings pool).bind fun annotations => ?_
  exact (routine pool deeper).counted.last _

end

theorem magic : Steady readMagic readMagic := by
  refine byte.bind fun a => byte.bind fun b => byte.bind fun c => byte.bind fun d => ?_
  dsimp only
  split
  · exact .fail _
  · exact .pure ()

theorem version : Steady readVersion readVersion := by
  refine word.bind fun version => ?_
  split
  · exact .fail _
  · exact .pure ()

end Steady

end Reader

/-! ### Pools that break off -/

/-- The bytes end within one of so many texts. Of the `count` bytes that are announced for it there
are only as many as `present` says. -/
inductive EndsInTexts : Nat → List UInt8 → (count : UInt32) → (present : Nat) → Prop
  | here {n : Nat} (count : UInt32) {part : List UInt8} (cut : part.length < count.toNat) :
      EndsInTexts (n + 1) (wordBytes count ++ part) count part.length
  | later {n : Nat} {s : String} {text rest : List UInt8} {count : UInt32} {present : Nat}
      (first : TextForm s text) (others : EndsInTexts n rest count present) :
      EndsInTexts (n + 1) (text ++ rest) count present

/-- The beginning of an encoded unit that ends within a text of the pool, behind its length. -/
inductive EndsInPool : List UInt8 → (count : UInt32) → (present : Nat) → Prop
  | cut (size : UInt32) {texts : List UInt8} {count : UInt32} {present : Nat}
      (inTexts : EndsInTexts size.toNat texts count present) :
      EndsInPool (magic ++ (wordBytes formatVersion ++ (wordBytes size ++ texts))) count present

namespace Reader

theorem takeExactly_eq_none {n : Nat} {bytes : List UInt8} :
    takeExactly n bytes = none ↔ bytes.length < n := by
  induction n generalizing bytes with
  | zero => simp [takeExactly]
  | succ n ih =>
    cases bytes with
    | nil => simp [takeExactly]
    | cons b bytes => simp [takeExactly, ih]

/-- A text of which bytes are missing is longer than what remains. -/
theorem readText_cut {count : UInt32} {part : List UInt8} (cut : part.length < count.toNat) :
    readText (wordBytes count ++ part) = .error (.lengthOutOfBounds count part.length) := by
  refine (bind_of_ok (reads_word count part)).trans ?_
  simp only [takeExactly_eq_none.2 cut]

theorem times_readText_cut {n : Nat} {bytes : List UInt8} {count : UInt32} {present : Nat}
    (h : EndsInTexts n bytes count present) :
    times readText n bytes = .error (.lengthOutOfBounds count present) := by
  induction h with
  | here count cut => exact bind_of_error (readText_cut cut)
  | later first _ ih => exact (bind_of_ok (reads_textForm first _)).trans (bind_of_error ih)

theorem readUnit_cut (depth : Nat) {bytes : List UInt8} {count : UInt32} {present : Nat}
    (h : EndsInPool bytes count present) :
    readUnit depth bytes = .error (.lengthOutOfBounds count present) := by
  obtain ⟨size, inTexts⟩ := h
  have front : Reads readMagic magic () := fun rest => rfl
  have version : Reads readVersion (wordBytes formatVersion) () := fun rest => rfl
  refine (bind_of_ok (front _)).trans ((bind_of_ok (version _)).trans (bind_of_error ?_))
  exact (bind_of_ok (reads_word size _)).trans (times_readText_cut inTexts)

/-- Bytes are missing at the end, of some text of the pool or of anything else. -/
def Wanting (broken : UInt32 → Nat → Prop) (e : FormatError) : Prop :=
  e = .endOfData ∨ ∃ count present, broken count present ∧ e = .lengthOutOfBounds count present

theorem Wanting.mono {broken broken' : UInt32 → Nat → Prop}
    (imp : ∀ count present, broken count present → broken' count present) {e : FormatError}
    (h : Wanting broken e) : Wanting broken' e :=
  h.imp_right fun ⟨count, present, cut, is⟩ => ⟨count, present, imp count present cut, is⟩

namespace Continues

/-- A text breaks off within its length, or within its bytes. -/
theorem text (n : Nat) (input : List UInt8) :
    Continues (Wanting (EndsInTexts (n + 1) input)) readText readText input := by
  refine ((Steady.word input).mono fun _ => .inl).bind fun count rest ran => ?_
  obtain ⟨front, rfl, rfl⟩ := sound_word _ _ _ ran
  -- With too few bytes the text is cut; with enough of them more input changes nothing, not even
  -- where they are no text.
  cases took : takeExactly count.toNat rest with
  | none =>
    have cut := takeExactly_eq_none.1 took
    constructor
    · intro more s left h
      simp only [took] at h
      cases h
    · intro more e h
      simp only [took] at h
      cases h
      exact .inl (.inr ⟨count, rest.length, .here count cut, rfl⟩)
  | some parts =>
    obtain ⟨bytes, behind⟩ := parts
    obtain ⟨rfl, length⟩ := takeExactly_eq_some took
    have longer (more : List UInt8) :
        takeExactly count.toNat (bytes ++ behind ++ more) = some (bytes, behind ++ more) := by
      rw [← length, List.append_assoc, takeExactly_append]
    constructor
    · intro more s left h
      simp only [took] at h
      simp only [longer]
      split at h
      · cases h
        rfl
      · cases h
    · intro more e h
      simp only [took] at h
      simp only [longer]
      split at h
      · cases h
      · cases h
        exact .inr rfl

theorem texts (n : Nat) (input : List UInt8) :
    Continues (Wanting (EndsInTexts n input)) (times readText n) (times readText n) input := by
  induction n generalizing input with
  | zero => exact (Steady.pure [] input).mono fun _ => .inl
  | succ n ih =>
    refine (text n input).bind fun s rest ran => ?_
    obtain ⟨front, rfl, form⟩ := sound_text _ _ _ ran
    refine ((ih rest).mono fun _ => Wanting.mono fun _ _ => .later form).bind fun ss left _ => ?_
    exact (Steady.pure (s :: ss) left).mono fun _ => .inl

/-- Everything but the texts of the pool is steady. -/
theorem unit {depth depth' : Nat} (deeper : depth ≤ depth') (input : List UInt8) :
    Continues (Wanting (EndsInPool input)) (readUnit depth) (readUnit depth') input := by
  refine ((Steady.magic input).mono fun _ => .inl).bind fun _ rest ran => ?_
  obtain ⟨front, rfl, rfl⟩ := sound_magic _ _ _ ran
  refine ((Steady.version rest).mono fun _ => .inl).bind fun _ rest ran => ?_
  obtain ⟨front, rfl, rfl⟩ := sound_version _ _ _ ran
  refine Continues.bind ?_ fun pool rest _ => ((Steady.body _ deeper) rest).mono fun _ => .inl
  refine ((Steady.word rest).mono fun _ => .inl).bind fun size rest ran => ?_
  obtain ⟨front, rfl, rfl⟩ := sound_word _ _ _ ran
  exact (texts size.toNat rest).mono fun _ => Wanting.mono fun _ _ => .cut size

end Continues

end Reader

namespace CodeUnit

open Reader

theorem readUnit_of_decode {bytes : List UInt8} {u : CodeUnit} (accepted : decode bytes = .ok u) :
    readUnit (bytes.length + 1) bytes = .ok (u, []) := by
  unfold decode at accepted
  split at accepted
  case h_1 => cases accepted
  case h_2 u' ran =>
    cases accepted
    exact ran
  case h_3 => cases accepted

theorem decode_of_error {bytes : List UInt8} {e : FormatError}
    (h : readUnit (bytes.length + 1) bytes = .error e) : decode bytes = .error e := by
  unfold decode
  rw [h]

/-- From what is cut off nothing is read, for want of bytes. -/
theorem decode_front {front back : List UInt8} {u : CodeUnit}
    (accepted : decode (front ++ back) = .ok u) (cut : back ≠ []) :
    ∃ e, decode front = .error e ∧ Wanting (EndsInPool front) e := by
  have whole := readUnit_of_decode accepted
  have deeper : front.length + 1 ≤ (front ++ back).length + 1 := by simp
  have continues := Continues.unit deeper front
  cases ran : readUnit (front.length + 1) front with
  | ok read =>
    obtain ⟨v, rest⟩ := read
    have same := whole.symm.trans (continues.ok back v rest ran)
    have left : rest ++ back = [] := (Prod.mk.inj (Except.ok.inj same)).2.symm
    exact absurd (List.append_eq_nil_iff.1 left).2 cut
  | error e =>
    refine ⟨e, decode_of_error ran, (continues.error back e ran).resolve_right ?_⟩
    rw [whole]
    exact nofun

/-- An encoded unit ends where it says. If it is cut off within a text of the pool, the length of the
text is named and what is left of it; cut off anywhere else, it ends too early; and whatever follows
it is counted as left over. -/
theorem decode_cut {bytes : List UInt8} {u : CodeUnit} (accepted : decode bytes = .ok u) :
    (∀ front back, bytes = front ++ back → back ≠ [] →
      (∀ count present, EndsInPool front count present →
        decode front = .error (.lengthOutOfBounds count present)) ∧
      ((¬∃ count present, EndsInPool front count present) → decode front = .error .endOfData)) ∧
    ∀ more, more ≠ [] → decode (bytes ++ more) = .error (.trailingData more.length) := by
  constructor
  · rintro front back rfl cut
    obtain ⟨e, failed, wanting⟩ := decode_front accepted cut
    refine ⟨fun count present inPool => decode_of_error (readUnit_cut _ inPool), fun outside => ?_⟩
    rcases wanting with rfl | ⟨count, present, inPool, -⟩
    · exact failed
    · exact absurd ⟨count, present, inPool⟩ outside
  · intro more some
    have deeper : bytes.length + 1 ≤ (bytes ++ more).length + 1 := by simp
    have ran := (Continues.unit deeper bytes).ok more u [] (readUnit_of_decode accepted)
    unfold decode
    rw [ran]
    cases more with
    | nil => exact absurd rfl some
    | cons b more => rfl

/-- The bytes of `leavingUnit`. Its only text takes two of them. -/
def leavingBytes : List UInt8 := [
  0x4E, 0x46, 0x45, 0x55, 2, 0, 0, 0,
  1, 0, 0, 0, 2, 0, 0, 0, 0xC3, 0x9C,
  0, 0, 0, 0, 0, 0, 0, 0, 0, 0, 0, 0, 0, 0, 0, 0, 1, 0, 0, 0,
  0, 0, 0, 0, 9, 0, 0, 0, 0, 0, 0, 0, 0, 0, 0, 0, 0, 0, 1, 0, 0, 0, 0x0F, 0]

def leavingUnit : CodeUnit where
  name := "Ü"
  superClass := "Ü"
  interfaces := []
  annotations := []
  routines := [
    { name := "Ü", modifiers := { isPublic := true, isStatic := true }, params := []
      returns := "Ü", valueCount := 0, body := [.leave none] }]

theorem decode_cut_leavingUnit :
    decode leavingBytes = .ok leavingUnit ∧
      decode (leavingBytes.take 17) = .error (.lengthOutOfBounds 2 1) ∧
      decode (leavingBytes.take 10) = .error .endOfData ∧
      decode (leavingBytes ++ [0]) = .error (.trailingData 1) := by
  have accepted : decode leavingBytes = .ok leavingUnit := by rfl
  have cuts (n : Nat) (short : leavingBytes.drop n ≠ []) :=
    (decode_cut accepted).1 _ _ (List.take_append_drop n leavingBytes).symm short
  refine ⟨accepted, (cuts 17 (by decide)).1 2 1 ?_, (cuts 10 (by decide)).2 ?_,
    (decode_cut accepted).2 [0] (by decide)⟩
  · have missing : ([0xC3] : List UInt8).length < (2 : UInt32).toNat := by decide
    exact .cut 1 (.here 2 missing)
  · rintro ⟨count, present, inPool⟩
    have failed := readUnit_cut 0 inPool
    cases failed

end CodeUnit
end Registrar
