import Registrar.CodeUnit.Decoding
import Mathlib.Data.List.Basic

/-! What readers take from the front of their input, and the smallest parts of an encoded unit, words
and texts. A reader may be known by bytes that it gives a result for, whatever follows them, or by
what is true of all bytes that it takes. -/
namespace Registrar
namespace Reader

variable {α β : Type}

/-- The reader takes exactly these bytes, whatever follows them, and gives this result. -/
def Reads (r : Reader α) (bytes : List UInt8) (a : α) : Prop :=
  ∀ rest, r (bytes ++ rest) = .ok (a, rest)

namespace Reads

protected theorem pure (a : α) : Reads (pure a) [] a := fun _ => rfl

protected theorem bind {x : Reader α} {f : α → Reader β} {front back : List UInt8} {a : α} {b : β}
    (hx : Reads x front a) (hf : Reads (f a) back b) : Reads (x >>= f) (front ++ back) b := by
  intro rest
  change Except.bind (x (front ++ back ++ rest)) (fun p => f p.1 p.2) = _
  rw [List.append_assoc, hx]
  exact hf rest

/-- A last step that reads nothing further. -/
theorem bind_pure {x : Reader α} {bytes : List UInt8} {a : α} (hx : Reads x bytes a) (g : α → β) :
    Reads (x >>= fun a => pure (g a)) bytes (g a) := by
  have h : Reads (x >>= fun a => pure (g a)) (bytes ++ []) (g a) := hx.bind (Reads.pure _)
  rwa [List.append_nil] at h

protected theorem map {x : Reader α} {bytes : List UInt8} {a : α} (hx : Reads x bytes a)
    (g : α → β) : Reads (g <$> x) bytes (g a) := by
  intro rest
  change Except.bind (x (bytes ++ rest)) (fun p => Except.ok (g p.1, p.2)) = _
  rw [hx]
  rfl

end Reads

/-- Whatever the reader takes from the front of an input is a form of what it gives. -/
def Sound (r : Reader α) (form : α → List UInt8 → Prop) : Prop :=
  ∀ input a rest, r input = .ok (a, rest) → ∃ front, input = front ++ rest ∧ form a front

/-- What comes of two readers, one behind the other. -/
theorem ok_of_bind {x : Reader α} {f : α → Reader β} {input rest : List UInt8} {b : β}
    (h : (x >>= f) input = .ok (b, rest)) :
    ∃ a between, x input = .ok (a, between) ∧ f a between = .ok (b, rest) := by
  change Except.bind (x input) (fun p => f p.1 p.2) = _ at h
  rcases ran : x input with e | ⟨a, between⟩
  · rw [ran] at h
    cases h
  · rw [ran] at h
    exact ⟨a, between, rfl, h⟩

namespace Sound

variable {x r : Reader α} {f : α → Reader β} {form : α → List UInt8 → Prop}
  {whole : β → List UInt8 → Prop}

protected theorem pure {a : α} (h : form a []) : Sound (pure a) form := by
  rintro input _ rest ⟨⟩
  exact ⟨[], rfl, h⟩

protected theorem fail (e : FormatError) : Sound (fail e) form := fun _ _ _ h => nomatch h

theorem mono {form' : α → List UInt8 → Prop} (h : Sound x form)
    (imp : ∀ a front, form a front → form' a front) : Sound x form' := by
  intro input a rest ran
  obtain ⟨front, split, took⟩ := h input a rest ran
  exact ⟨front, split, imp a front took⟩

/-- The second reader completes the form whose front the first one has taken. -/
protected theorem bind (hx : Sound x form)
    (hf : ∀ a front, form a front → Sound (f a) fun b back => whole b (front ++ back)) :
    Sound (x >>= f) whole := by
  intro input b rest h
  obtain ⟨a, between, first, second⟩ := ok_of_bind h
  obtain ⟨front, rfl, took⟩ := hx input a between first
  obtain ⟨back, rfl, done⟩ := hf a front took between b rest second
  exact ⟨front ++ back, (List.append_assoc ..).symm, done⟩

/-- A last step that reads nothing further. -/
theorem last (hx : Sound x form) (g : α → β) (h : ∀ a front, form a front → whole (g a) front) :
    Sound (x >>= fun a => pure (g a)) whole :=
  hx.bind fun a front took => .pure (by rw [List.append_nil]; exact h a front took)

/-- The first reader takes just what is written for its result. -/
theorem bind_written {write : α → List UInt8} (hx : Sound x fun a bytes => bytes = write a)
    (hf : ∀ a, Sound (f a) fun b back => whole b (write a ++ back)) : Sound (x >>= f) whole :=
  hx.bind fun a _ is => is ▸ hf a

theorem last_written {write : α → List UInt8} (hx : Sound x fun a bytes => bytes = write a)
    (g : α → β) (h : ∀ a, whole (g a) (write a)) : Sound (x >>= fun a => pure (g a)) whole :=
  hx.last g fun a _ is => is ▸ h a

theorem map (hx : Sound x form) (g : α → β) (h : ∀ a front, form a front → whole (g a) front) :
    Sound (g <$> x) whole := by
  rw [map_eq_pure_bind]
  exact hx.last g h

end Sound

/-! ### Bytes -/

theorem sound_byte : Sound byte fun b bytes => bytes = [b] := by
  intro input b rest h
  cases input with
  | nil => cases h
  | cons first input =>
    cases h
    exact ⟨[b], rfl, rfl⟩

theorem reads_byte (b : UInt8) : Reads byte [b] b := fun _ => rfl

/-- What follows a byte is read with the byte known. -/
theorem Reads.cons {f : UInt8 → Reader α} {b : UInt8} {bytes : List UInt8} {a : α}
    (h : Reads (f b) bytes a) : Reads (byte >>= f) (b :: bytes) a :=
  (reads_byte b).bind h

/-! ### Words -/

/-- The two bytes of a half word make up the half word. -/
theorem half_join (w : UInt16) :
    w.toUInt8.toUInt16 ||| (w >>> 8).toUInt8.toUInt16 <<< 8 = w := by
  apply UInt16.toBitVec_inj.1
  simp only [UInt16.toBitVec_or, UInt16.toBitVec_shiftLeft, UInt8.toBitVec_toUInt16,
    UInt16.toBitVec_toUInt8, UInt16.toBitVec_shiftRight]
  apply BitVec.eq_of_getLsbD_eq
  intro i hi
  simp
  grind

/-- The four bytes of a word make up the word. -/
theorem word_join (w : UInt32) :
    w.toUInt8.toUInt32 ||| (w >>> 8).toUInt8.toUInt32 <<< 8 |||
      (w >>> 16).toUInt8.toUInt32 <<< 16 ||| (w >>> 24).toUInt8.toUInt32 <<< 24 = w := by
  apply UInt32.toBitVec_inj.1
  simp only [UInt32.toBitVec_or, UInt32.toBitVec_shiftLeft, UInt8.toBitVec_toUInt32,
    UInt32.toBitVec_toUInt8, UInt32.toBitVec_shiftRight]
  apply BitVec.eq_of_getLsbD_eq
  intro i hi
  simp
  grind

/-- A half word that is made up of two bytes has these two bytes. -/
theorem halfBytes_join (a b : UInt8) :
    halfBytes (a.toUInt16 ||| b.toUInt16 <<< 8) = [a, b] := by
  simp only [halfBytes, List.cons.injEq, and_true]
  constructor
  all_goals
    apply UInt8.toBitVec_inj.1
    simp only [UInt16.toBitVec_or, UInt16.toBitVec_shiftLeft, UInt8.toBitVec_toUInt16,
      UInt16.toBitVec_toUInt8, UInt16.toBitVec_shiftRight]
    apply BitVec.eq_of_getLsbD_eq
    intro i hi
    simp <;> grind

theorem wordBytes_join (a b c d : UInt8) :
    wordBytes (a.toUInt32 ||| b.toUInt32 <<< 8 ||| c.toUInt32 <<< 16 ||| d.toUInt32 <<< 24) =
      [a, b, c, d] := by
  simp only [wordBytes, List.cons.injEq, and_true]
  refine ⟨?_, ?_, ?_, ?_⟩
  all_goals
    apply UInt8.toBitVec_inj.1
    simp only [UInt32.toBitVec_or, UInt32.toBitVec_shiftLeft, UInt8.toBitVec_toUInt32,
      UInt32.toBitVec_toUInt8, UInt32.toBitVec_shiftRight]
    apply BitVec.eq_of_getLsbD_eq
    intro i hi
    simp <;> grind

theorem reads_half (w : UInt16) : Reads half (halfBytes w) w := by
  intro rest
  change Except.ok (w.toUInt8.toUInt16 ||| (w >>> 8).toUInt8.toUInt16 <<< 8, rest) = _
  rw [half_join]

theorem reads_word (w : UInt32) : Reads word (wordBytes w) w := by
  intro rest
  change Except.ok (w.toUInt8.toUInt32 ||| (w >>> 8).toUInt8.toUInt32 <<< 8 |||
    (w >>> 16).toUInt8.toUInt32 <<< 16 ||| (w >>> 24).toUInt8.toUInt32 <<< 24, rest) = _
  rw [word_join]

theorem reads_value (v : ValueId) : Reads readValue v.bytes v :=
  (reads_word v.number).map ValueId.mk

theorem reads_invokeKind (k : InvokeKind) : Reads readInvokeKind [k.code] k := by
  cases k <;> exact Reads.cons (Reads.pure _)

theorem sound_half : Sound half fun w bytes => bytes = halfBytes w := by
  intro input w rest h
  match input with
  | [] | [_] => cases h
  | a :: b :: input =>
    cases h
    exact ⟨[a, b], rfl, (halfBytes_join a b).symm⟩

theorem sound_word : Sound word fun w bytes => bytes = wordBytes w := by
  intro input w rest h
  match input with
  | [] | [_] | [_, _] | [_, _, _] => cases h
  | a :: b :: c :: d :: input =>
    cases h
    exact ⟨[a, b, c, d], rfl, (wordBytes_join a b c d).symm⟩

theorem sound_value : Sound readValue fun v bytes => bytes = v.bytes :=
  sound_word.map ValueId.mk fun _ _ is => is

/-! ### Texts -/

theorem takeExactly_append (front rest : List α) :
    takeExactly front.length (front ++ rest) = some (front, rest) := by
  induction front with
  | nil => rfl
  | cons a front ih => simp [takeExactly, ih]

theorem takeExactly_eq_some {n : Nat} {bytes front rest : List UInt8}
    (h : takeExactly n bytes = some (front, rest)) : bytes = front ++ rest ∧ front.length = n := by
  induction n generalizing bytes front with
  | zero =>
    cases h
    exact ⟨rfl, rfl⟩
  | succ n ih =>
    cases bytes with
    | nil => cases h
    | cons b bytes =>
      obtain ⟨⟨front, rest⟩, took, same⟩ := Option.map_eq_some_iff.1 h
      cases same
      obtain ⟨rfl, length⟩ := ih took
      exact ⟨rfl, congrArg Nat.succ length⟩

/-- The bytes from an index on, behind those that were gone through. -/
theorem toListLoop_eq (bs : ByteArray) (i : Nat) (seen : List UInt8) :
    ByteArray.toList.loop bs i seen = seen.reverse ++ bs.data.toList.drop i := by
  fun_induction ByteArray.toList.loop bs i seen with
  | case1 i seen h ih =>
    have hi : i < bs.data.toList.length := by simpa using h
    rw [ih, List.drop_eq_getElem_cons hi]
    simp [ByteArray.get!, h]
  | case2 i seen h =>
    have hi : bs.data.toList.length ≤ i := by simpa using h
    rw [List.drop_eq_nil_of_le hi, List.append_nil]

theorem textBytes_eq (s : String) : textBytes s = s.toByteArray.data.toList := by
  rw [textBytes, ByteArray.toList, toListLoop_eq]
  rfl

@[simp] theorem length_textBytes (s : String) : (textBytes s).length = s.utf8ByteSize := by
  rw [textBytes_eq]
  simp

theorem fromUTF8?_textBytes (s : String) : String.fromUTF8? ⟨(textBytes s).toArray⟩ = some s := by
  have h : (⟨(textBytes s).toArray⟩ : ByteArray) = s.toByteArray := by simp [textBytes_eq]
  simp [h, String.fromUTF8?, String.fromUTF8, s.isValidUTF8]

theorem textBytes_of_fromUTF8? {bytes : List UInt8} {s : String}
    (h : String.fromUTF8? ⟨bytes.toArray⟩ = some s) : textBytes s = bytes := by
  unfold String.fromUTF8? at h
  split at h
  · cases h
    rw [textBytes_eq]
    rfl
  · cases h

end Reader
end Registrar
