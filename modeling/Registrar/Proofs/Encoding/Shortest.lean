import Registrar.Proofs.Encoding.RoundTrip
import Registrar.Proofs.Encoding.Truncation

/-! The encoded form that is written for a unit is the shortest of its forms. All of them have bodies of
one length, since a string takes a word wherever it stands; so only the pools differ, and the pool that
is written has nothing but the strings of the unit, each once and in the order of their first use. -/
namespace Registrar
open Reader

/-! ### What forms have in common -/

/-- What a form tells of the thing that it is a form of: its strings are in the pool and its lengths
fit, and the form is as long as what is written for it. -/
structure Accounts (pool strings : List String) (extents : List Extent)
    (written bytes : List UInt8) : Prop where
  known : ∀ s ∈ strings, s ∈ pool
  fits : ∀ e ∈ extents, e.fits = true
  length : bytes.length = written.length

namespace Accounts

variable {pool ss ts : List String} {es fs : List Extent} {written written' bytes bytes' : List UInt8}

theorem append (first : Accounts pool ss es written bytes)
    (second : Accounts pool ts fs written' bytes') :
    Accounts pool (ss ++ ts) (es ++ fs) (written ++ written') (bytes ++ bytes') where
  known s hs := (List.mem_append.1 hs).elim (first.known s) (second.known s)
  fits e he := (List.mem_append.1 he).elim (first.fits e) (second.fits e)
  length := by simp [first.length, second.length]

/-- Bytes that tell of no strings and no lengths. -/
theorem plain (same : bytes.length = written.length) : Accounts pool [] [] written bytes :=
  ⟨nofun, nofun, same⟩

theorem fixed (bytes : List UInt8) : Accounts pool [] [] bytes bytes := plain rfl

theorem behind (front : List UInt8) (rest : Accounts pool ss es written bytes) :
    Accounts pool ss es (front ++ written) (front ++ bytes) :=
  (fixed front).append rest

/-- A length that is written in front of a list. -/
theorem count {n : ℕ} {word : UInt32} (what : String) (is : n = word.toNat)
    (rest : Accounts pool ss es written bytes) :
    Accounts pool ss (⟨what, n⟩ :: es) (countBytes n ++ written) (wordBytes word ++ bytes) where
  known := rest.known
  fits e he := by
    rcases List.mem_cons.1 he with rfl | he
    · simpa [Extent.fits, is] using word.toNat_lt
    · exact rest.fits e he
  length := by simp [countBytes, rest.length]

/-- What is written for half words does not tell of their value. -/
theorem half (w w' : UInt16) : Accounts pool [] [] (halfBytes w) (halfBytes w') := plain rfl

section

variable (place : String → UInt32)

theorem string {s : String} (form : StringForm pool s bytes) :
    Accounts pool [s] [] (stringBytes place s) bytes := by
  obtain ⟨index, there⟩ := form
  refine ⟨fun t ht => ?_, nofun, by simp [stringBytes]⟩
  rw [List.mem_singleton.1 ht]
  exact List.mem_of_getElem? there

theorem row {α : Type} {form : α → List UInt8 → Prop} {strings : α → List String}
    {extents : α → List Extent} {write : α → List UInt8} {as : List α}
    (each : ∀ a bytes, form a bytes → Accounts pool (strings a) (extents a) (write a) bytes)
    (items : Row form as bytes) :
    Accounts pool (as.flatMap strings) (as.flatMap extents) (as.flatMap write) bytes := by
  induction items with
  | nil => exact plain rfl
  | cons first _ ih => exact (each _ _ first).append ih

theorem counted {α : Type} {form : α → List UInt8 → Prop} {as : List α} (what : String)
    (each : ∀ bytes, Row form as bytes → Accounts pool ss es written bytes)
    (list : Counted form as bytes) :
    Accounts pool ss (⟨what, as.length⟩ :: es) (countBytes as.length ++ written) bytes := by
  obtain ⟨word, length, items⟩ := list
  exact (each _ items).count what length

theorem strings (list : Counted (StringForm pool) ss bytes) :
    Accounts pool ss [⟨"string list", ss.length⟩] (stringListBytes place ss) bytes := by
  refine counted "string list" (fun bytes items => ?_) list
  have none : (ss.flatMap fun _ => ([] : List Extent)) = [] := by simp
  have parts := row (fun s _ form => string place form) items
  rwa [List.flatMap_singleton', none] at parts

theorem optionalValue {v : Option ValueId} (form : OptionalForm v bytes) :
    Accounts pool [] [] (optionalValueBytes v) bytes := by
  cases form with
  | absent => exact plain rfl
  | present => exact plain rfl

theorem method {m : MethodRef} (form : MethodForm pool m bytes) :
    Accounts pool (m.owner :: m.name :: m.params ++ [m.returns])
      [⟨"string list", m.params.length⟩] (m.bytes place) bytes := by
  obtain ⟨owner, name, params, returns⟩ := form
  have parts := (string place owner).append ((string place name).append
    ((strings place params).append (string place returns)))
  simpa [MethodRef.bytes] using parts

theorem arguments {as : List ValueId}
    (list : Counted (fun v bytes => bytes = ValueId.bytes v) as bytes) :
    Accounts pool [] [⟨"argument", as.length⟩] (countBytes as.length ++ as.flatMap ValueId.bytes)
      bytes := by
  refine counted "argument" (fun bytes items => ?_) list
  have none {β : Type} : (as.flatMap fun _ => ([] : List β)) = [] := by simp
  have parts := row (fun v _ form => (plain (congrArg List.length form) : Accounts pool ..)) items
  rwa [none, none] at parts

mutual

theorem instruction (i : Instruction) {bytes : List UInt8} (form : InstructionForm pool i bytes) :
    Accounts pool i.strings i.extents (i.bytes place) bytes := by
  cases i with
  | const d v =>
    cases form with
    | constStr _ text => exact (string place text).behind (0x04 :: d.bytes)
    | constNull | constFalse | constTrue | constInt => exact plain rfl
  | loadClass d c =>
    cases form with
    | loadClass _ name => exact (string place name).behind (0x05 :: d.bytes)
  | invoke d k m r as =>
    cases form with
    | invoke _ _ called receiver args =>
      have parts := ((method place called).append
        ((optionalValue receiver).append (arguments args))).behind (0x07 :: (d.bytes ++ [k.code]))
      simpa [Instruction.strings, Instruction.extents, Instruction.bytes] using parts
  | newInstance d c =>
    cases form with
    | newInstance _ name => exact (string place name).behind (0x08 :: d.bytes)
  | newArray d c n =>
    cases form with
    | newArray _ _ component =>
      have parts := ((string place component).append
        (fixed (wordBytes n))).behind (0x09 :: d.bytes)
      simpa [Instruction.strings, Instruction.extents, Instruction.bytes] using parts
  | declare d t =>
    cases form with
    | declare _ name => exact (string place name).behind (0x0B :: d.bytes)
  | branch c a b =>
    cases form with
    | branch _ onTrue onFalse =>
      have parts := ((counted "instruction" (fun _ items => block a items) onTrue).append
        (counted "instruction" (fun _ items => block b items) onFalse)).behind (0x0D :: c.bytes)
      simpa [Instruction.strings, Instruction.extents, Instruction.bytes] using parts
  | isolate b e v h =>
    cases form with
    | isolate _ body type handler =>
      have parts := (((counted "instruction" (fun _ items => block b items) body).append
        (string place type)).append
        ((counted "instruction" (fun _ items => block h items) handler).behind v.bytes)).behind
        [0x0E]
      simpa [Instruction.strings, Instruction.extents, Instruction.bytes] using parts
  | leave v =>
    cases form with
    | leave value => exact (optionalValue value).behind [0x0F]
  | param | store | assign =>
    cases form
    exact plain rfl

theorem block (is : List Instruction) {bytes : List UInt8}
    (items : Row (InstructionForm pool) is bytes) :
    Accounts pool (Block.strings is) (Block.extents is) (Block.bytes place is) bytes := by
  cases is with
  | nil =>
    cases items
    exact plain rfl
  | cons i is =>
    cases items with
    | cons first rest => exact (instruction i first).append (block is rest)

end

theorem routine {r : Routine} (form : RoutineForm pool r bytes) :
    Accounts pool r.strings r.extents (r.bytes place) bytes := by
  obtain ⟨name, ⟨word, -, -, -⟩, params, returns, body⟩ := form
  have body := counted "instruction" (fun _ items => block place r.body items) body
  have parts := (string place name).append
    (((half r.modifiers.bits word).append
      (strings place params)).append
    ((string place returns).append (body.behind (wordBytes r.valueCount))))
  simpa [Routine.strings, Routine.extents, Routine.bytes] using parts

theorem body {u : CodeUnit} (form : BodyForm pool u bytes) :
    Accounts pool u.strings (⟨"string list", u.interfaces.length⟩ ::
      ⟨"string list", u.annotations.length⟩ :: ⟨"routine", u.routines.length⟩ ::
      u.routines.flatMap Routine.extents) (u.bodyBytes place) bytes := by
  obtain ⟨name, superClass, interfaces, annotations, routines⟩ := form
  have each (r : Routine) (bytes : List UInt8) (form : RoutineForm pool r bytes) :
      Accounts pool r.strings r.extents (r.bytes place) bytes := routine place form
  have routines := counted "routine" (fun _ items => row each items) routines
  have parts := (string place name).append ((string place superClass).append
    ((strings place interfaces).append
    ((strings place annotations).append routines)))
  simpa [CodeUnit.strings, CodeUnit.bodyBytes] using parts

end

end Accounts

/-! ### Pools -/

/-- The bytes that a text of the pool takes, with its length in front. -/
def textSize (s : String) : ℕ := 4 + s.utf8ByteSize

theorem textSize_pos (s : String) : 0 < textSize s := by
  unfold textSize
  omega

theorem Row.texts {pool : List String} {bytes : List UInt8} (items : Row TextForm pool bytes) :
    bytes.length = (pool.map textSize).sum ∧ ∀ s ∈ pool, s.utf8ByteSize < UInt32.size := by
  induction items with
  | nil => exact ⟨rfl, nofun⟩
  | @cons s pool front back first _ ih =>
    obtain ⟨count, length⟩ := first
    rw [length_textBytes] at length
    refine ⟨by simp [ih.1, textSize, length, Nat.add_assoc], fun t ht => ?_⟩
    rcases List.mem_cons.1 ht with rfl | ht
    · exact length ▸ count.toNat_lt
    · exact ih.2 t ht

namespace CodeUnit

/-- The bytes are a form of a unit, and this is the pool in front of it. -/
inductive PoolForm (u : CodeUnit) (pool : List String) : List UInt8 → Prop
  | parts {texts body : List UInt8} (poolForm : Counted TextForm pool texts)
      (bodyForm : BodyForm pool u body) :
      PoolForm u pool (magic ++ (wordBytes formatVersion ++ (texts ++ body)))

variable {u : CodeUnit} {pool : List String} {bytes : List UInt8}

/-- A form has one pool only. -/
theorem PoolForm.unique {pool' : List String} (form : PoolForm u pool bytes)
    (form' : PoolForm u pool' bytes) : pool' = pool := by
  obtain @⟨_, body, texts, -⟩ := form
  generalize whole : magic ++ (wordBytes formatVersion ++ (_ ++ _)) = bytes at form'
  obtain ⟨texts', -⟩ := form'
  have same := List.append_cancel_left (List.append_cancel_left whole)
  have reads {pool : List String} {bytes : List UInt8} (texts : Counted TextForm pool bytes) :
      Reads (counted readText) bytes pool :=
    reads_counted (fun _ _ form _ => reads_textForm form) texts le_rfl
  have first := reads texts body
  rw [same, reads texts'] at first
  exact (Prod.mk.inj (Except.ok.inj first)).1

/-- Any form of a unit shows that the unit can be encoded. -/
theorem PoolForm.fits (form : PoolForm u pool bytes) : ∀ e ∈ u.extents, e.fits = true := by
  obtain ⟨⟨count, length, items⟩, bodyForm⟩ := form
  have body := Accounts.body (fun _ => 0) bodyForm
  have known : u.pool ⊆ pool := fun s hs => body.known s (List.mem_eraseDups.1 hs)
  have short := (nodup_eraseDups u.strings).length_le_of_subset known
  intro e he
  simp only [extents, List.cons_append, List.mem_cons, List.mem_append, List.mem_map] at he
  rcases he with rfl | rfl | rfl | he | rfl | ⟨s, hs, rfl⟩
  · exact body.fits _ (by simp)
  · exact body.fits _ (by simp)
  · exact body.fits _ (by simp)
  · exact body.fits e (by simpa using .inr (.inr (.inr (List.mem_flatMap.1 he))))
  · have lt : pool.length < UInt32.size := length ▸ count.toNat_lt
    exact decide_eq_true (lt_of_le_of_lt short lt)
  · simpa [Extent.fits] using items.texts.2 s (known hs)

theorem PoolForm.length (form : PoolForm u pool bytes) (place : String → UInt32) :
    bytes.length = 12 + (pool.map textSize).sum + (u.bodyBytes place).length := by
  obtain ⟨⟨count, length, items⟩, bodyForm⟩ := form
  have body := (Accounts.body place bodyForm).length
  simp [items.texts.1, body, magic]
  omega

theorem poolForm_bytes (fits : ∀ e ∈ u.extents, e.fits = true) : PoolForm u u.pool u.bytes := by
  have body : BodyForm u.pool u (u.bodyBytes fun s => (u.pool.idxOf s).toUInt32) :=
    form_body u (fun s hs => placed_pool (pool_fits fits) hs) fits
  have whole := PoolForm.parts (form_texts fits) body
  simpa only [bytes, List.append_assoc] using whole

/-- Whatever was decoded can be encoded, and no form of it is shorter than the one that is written. A
form is as short only if its pool has each string of the unit once and nothing else. When the writer is
done with the body, its pool has these strings in the order in which they come first in the body, and
the body gives each of them by its place in the pool. -/
theorem encode_shortest (accepted : decode bytes = .ok u) :
    ∃ pool written w, PoolForm u pool bytes ∧ (∀ other, PoolForm u other bytes → other = pool) ∧
      u.encode = .ok written ∧ written.length ≤ bytes.length ∧
      (written.length = bytes.length ↔ ∀ s, pool.count s = if s ∈ u.strings then 1 else 0) ∧
      u.write.run {} = .ok ((), w) ∧
      (∃ texts, written = magic ++ (wordBytes formatVersion ++ (texts ++ w.bytes.toList)) ∧
        Counted TextForm w.pool.toList texts) ∧
      (∀ s, s ∈ w.pool.toList ↔ s ∈ u.strings) ∧
      (w.pool.toList.Pairwise fun s t => u.strings.idxOf s < u.strings.idxOf t) ∧
      w.bytes.toList = u.bodyBytes w.pool.place ∧
      (Spells u.strings fun place => u.bodyBytes place) ∧
      ∀ s ∈ u.strings, (w.pool.place s).toNat < w.pool.toList.length ∧
        w.pool.toList[(w.pool.place s).toNat]? = some s := by
  obtain ⟨pool, texts, body⟩ := (decode_eq_ok_iff bytes u).1 accepted
  have form : PoolForm u pool _ := .parts texts body
  have fits := form.fits
  obtain ⟨w, ran, pooled, written⟩ := u.run_write
  have mem (s : String) : s ∈ w.pool.toList ↔ s ∈ u.strings := by
    rw [pooled]
    exact List.mem_eraseDups
  -- All forms of a unit have the same length but for their pools, and each pool has what is used.
  have known : w.pool.toList ⊆ pool := fun s hs =>
    (Accounts.body (fun _ => 0) body).known s ((mem s).1 hs)
  have sizes := sum_map_le_of_subset textSize textSize_pos w.pool.nodup known
  have once : pool.Perm w.pool.toList ↔ ∀ s, pool.count s = if s ∈ u.strings then 1 else 0 := by
    simp only [List.perm_iff_count, w.pool.nodup.count, mem]
  have length := form.length fun _ => 0
  have length' := (poolForm_bytes fits).length fun _ => 0
  rw [← pooled] at length'
  have ended : checked (⟨"string list", u.interfaces.length⟩ ::
      ⟨"string list", u.annotations.length⟩ :: ⟨"routine", u.routines.length⟩ ::
      u.routines.flatMap Routine.extents) ((), w) = .ok ((), w) :=
    checked_eq_ok_iff.2 ⟨fun e he => fits e (List.mem_append_left _ he), rfl⟩
  have place (s : String) : w.pool.place s = (u.pool.idxOf s).toUInt32 := by
    rw [OrderedSet.place, pooled]
  refine ⟨pool, u.bytes, w, form, fun other => form.unique, encode_eq_ok_iff.2 ⟨fits, rfl⟩,
    by omega, ?_, ran.trans ended, ⟨_, ?_, pooled ▸ form_texts fits⟩, mem, ?_, written,
    (Writer.Part.body u).spells, fun s hs => ?_⟩
  · rw [← once, ← sizes.2, length, length']
    omega
  · rw [pooled, written, funext place]
    simp only [CodeUnit.bytes, List.append_assoc]
  · rw [pooled]
    exact pairwise_eraseDups u.strings
  · have placed := placed_pool (pool_fits fits) hs
    rw [Placed, List.getElem?_toArray] at placed
    rw [place, pooled]
    exact ⟨(List.getElem?_eq_some_iff.1 placed).1, placed⟩

/-- A longer form of `leavingUnit`: its pool has an empty text for nothing, and its text twice. -/
def paddedBytes : List UInt8 := [
  0x4E, 0x46, 0x45, 0x55, 2, 0, 0, 0,
  3, 0, 0, 0, 2, 0, 0, 0, 0xC3, 0x9C, 0, 0, 0, 0, 2, 0, 0, 0, 0xC3, 0x9C,
  2, 0, 0, 0, 0, 0, 0, 0, 0, 0, 0, 0, 0, 0, 0, 0, 1, 0, 0, 0,
  0, 0, 0, 0, 9, 0, 0, 0, 0, 0, 2, 0, 0, 0, 0, 0, 0, 0, 1, 0, 0, 0, 0x0F, 0]

theorem encode_shortest_padded :
    decode paddedBytes = .ok leavingUnit ∧ leavingUnit.encode = .ok leavingBytes ∧
      leavingBytes.length < paddedBytes.length ∧
      ∃ pool, PoolForm leavingUnit pool paddedBytes ∧
        ¬∀ s, pool.count s = if s ∈ leavingUnit.strings then 1 else 0 := by
  have accepted : decode paddedBytes = .ok leavingUnit := by rfl
  have encoded : leavingUnit.encode = .ok leavingBytes := by decide +kernel
  obtain ⟨pool, written, _, form, -, is, -, exact_, -⟩ := encode_shortest accepted
  obtain rfl : leavingBytes = written := Except.ok.inj (encoded.symm.trans is)
  have longer : leavingBytes.length < paddedBytes.length := by decide
  exact ⟨accepted, encoded, longer, pool, form, fun once => longer.ne (exact_.2 once)⟩

end CodeUnit
end Registrar
