import Registrar.Proofs.Distinct
import Registrar.Proofs.Encoding.Layout

/-! What the writer does, part by part. The pool grows at its end only, so that a place that has been
written stays right, whatever comes later; and the bytes are those that the layout has with the places
of the pool in which the writer ends. -/
namespace Registrar

/-! ### Pools that grow -/

namespace OrderedSet

variable {α : Type} [DecidableEq α]

/-- The place that is answered is the one in the pool as it is then. -/
theorem intern_eq (s : OrderedSet α) (a : α) :
    s.intern a = ((s.insert a).toList.idxOf a, s.insert a) := by
  have known := List.idxOf_eq_getD_idxOf? a s.toList
  unfold intern
  cases found : s.toList.idxOf? a with
  | some place =>
    have old : a ∈ s.toList := List.isSome_idxOf?.1 (by rw [found]; rfl)
    have same : s.insert a = s := eq_of_toList (by rw [toList_insert, if_pos old])
    rw [found, Option.getD_some] at known
    rw [same, known]
  | none =>
    have new : a ∉ s.toList := List.idxOf?_eq_none_iff.1 found
    rw [toList_insert, if_neg new, List.idxOf_append_of_notMem new, List.idxOf_cons_self,
      Nat.add_zero]

/-- The place of an element in the set, as a word. -/
def place (s : OrderedSet α) (a : α) : UInt32 := (s.toList.idxOf a).toUInt32

/-- A place stays what it is when the set grows. -/
theorem place_eq_of_prefix {s t : OrderedSet α} (grown : s.toList <+: t.toList) {a : α}
    (mem : a ∈ s.toList) : t.place a = s.place a := by
  rw [place, place, grown.idxOf_eq_of_mem mem]

end OrderedSet

/-! ### Where strings stand -/

/-- Whatever places the strings have, what is written are some fixed bytes and, in between and in this
order, the words of these places. -/
inductive Spells : List String → ((String → UInt32) → List UInt8) → Prop
  | nil : Spells [] fun _ => []
  | byte (b : UInt8) {ss : List String} {write : (String → UInt32) → List UInt8}
      (rest : Spells ss write) : Spells ss fun place => b :: write place
  | string (s : String) {ss : List String} {write : (String → UInt32) → List UInt8}
      (rest : Spells ss write) : Spells (s :: ss) fun place => stringBytes place s ++ write place

namespace Spells

theorem append {ss ts : List String} {write write' : (String → UInt32) → List UInt8}
    (first : Spells ss write) (second : Spells ts write') :
    Spells (ss ++ ts) fun place => write place ++ write' place := by
  induction first with
  | nil => exact second
  | byte b _ ih => exact .byte b ih
  | string s _ ih =>
    simp only [List.append_assoc, List.cons_append]
    exact .string s ih

theorem fixed (bytes : List UInt8) : Spells [] fun _ => bytes := by
  induction bytes with
  | nil => exact .nil
  | cons b bytes ih => exact .byte b ih

theorem one (s : String) : Spells [s] fun place => stringBytes place s := by
  simpa using Spells.nil.string s

end Spells

/-! ### Lengths that do not fit -/

/-- The result, unless a length does not fit; the first that does not is named instead. -/
def checked {α : Type} (es : List Extent) (a : α) : Except FormatError α :=
  match es.find? (!·.fits) with
  | some e => .error (.tooLarge e.what e.count)
  | none => .ok a

theorem checked_eq_ok_iff {α : Type} {es : List Extent} {a b : α} :
    checked es a = .ok b ↔ (∀ e ∈ es, e.fits = true) ∧ b = a := by
  unfold checked
  cases found : es.find? (!·.fits) with
  | none =>
    have fits : ∀ e ∈ es, e.fits = true := by simpa using found
    simp only [Except.ok.injEq]
    exact ⟨fun same => ⟨fits, same.symm⟩, fun ⟨_, same⟩ => same.symm⟩
  | some e =>
    have long : ¬∀ e ∈ es, e.fits = true := fun fits => by
      simpa [fits e (List.mem_of_find?_eq_some found)] using List.find?_some found
    simp [long]

/-- What comes later is checked later. -/
theorem checked_bind {α β : Type} {es fs : List Extent} {a : α} {b : β}
    {next : α → Except FormatError β} (later : next a = checked fs b) :
    checked es a >>= next = checked (es ++ fs) b := by
  unfold checked at later ⊢
  rw [List.find?_append]
  cases es.find? (!·.fits) with
  | some e => rfl
  | none =>
    rw [Option.none_or, ← later]
    rfl

/-- What is made of a result does not need to be checked. -/
theorem checked_map {α β : Type} (es : List Extent) (a : α) (f : α → β) :
    (do return f (← checked es a)) = checked es (f a) := by
  unfold checked
  cases es.find? (!·.fits) <;> rfl

theorem countWord_eq (what : String) (n : ℕ) :
    countWord what n = checked [⟨what, n⟩] (countBytes n) := by
  by_cases small : n < UInt32.size <;> simp [countWord, checked, Extent.fits, small]

/-! ### Parts of the writer -/

section

variable {ss ts : List String} {es fs : List Extent}
  {write write' : (String → UInt32) → List UInt8} {w w' w'' : Writing} {x y : Writer Unit}

/-- From one state to a later one: the pool has grown by these strings, and the bytes behind those of
the earlier state have the places of the strings in any pool into which this one grows. -/
structure Writing.Extends (ss : List String) (write : (String → UInt32) → List UInt8)
    (w w' : Writing) : Prop where
  pool : w'.pool = ss.foldl OrderedSet.insert w.pool
  bytes : ∀ later : OrderedSet String, w'.pool.toList <+: later.toList →
    w'.bytes.toList = w.bytes.toList ++ write later.place

theorem Writing.Extends.trans (first : Extends ss write w w') (second : Extends ts write' w' w'') :
    Extends (ss ++ ts) (fun place => write place ++ write' place) w w'' where
  pool := by rw [List.foldl_append, ← first.pool, second.pool]
  bytes later grown := by
    have grown' : w'.pool.toList <+: later.toList := by
      refine List.IsPrefix.trans ?_ grown
      rw [second.pool]
      exact OrderedSet.prefix_foldl_insert ..
    rw [second.bytes later grown, first.bytes later grown', List.append_assoc]

/-- A part of the writer refers to these strings, writes these lengths and leaves these bytes, whatever
state it finds. It stops at the first length that does not fit, and at nothing else. -/
structure Writer.Part (x : Writer Unit) (ss : List String) (es : List Extent)
    (write : (String → UInt32) → List UInt8) : Prop where
  spells : Spells ss write
  runs : ∀ w, ∃ w', x.run w = checked es ((), w') ∧ Writing.Extends ss write w w'

namespace Writer.Part

theorem andThen (first : Part x ss es write) (second : Part y ts fs write') :
    Part (do x; y) (ss ++ ts) (es ++ fs) fun place => write place ++ write' place where
  spells := first.spells.append second.spells
  runs w := by
    obtain ⟨w', ran, extended⟩ := first.runs w
    obtain ⟨w'', ran', extended'⟩ := second.runs w'
    refine ⟨w'', ?_, extended.trans extended'⟩
    rw [StateT.run_bind, ran]
    exact checked_bind ran'

theorem nothing : Part (pure ()) [] [] fun _ => [] where
  spells := .nil
  runs w := ⟨w, rfl, rfl, fun _ _ => (List.append_nil _).symm⟩

theorem put (bytes : List UInt8) : Part (put bytes) [] [] fun _ => bytes where
  spells := .fixed bytes
  runs w := ⟨{ w with bytes := w.bytes ++ bytes }, rfl, rfl, fun _ _ => by simp⟩

theorem count (what : String) (n : ℕ) :
    Part (count what n) [] [⟨what, n⟩] fun _ => countBytes n where
  spells := .fixed _
  runs w := by
    refine ⟨{ w with bytes := w.bytes ++ countBytes n }, ?_, rfl, fun _ _ => by simp⟩
    rw [Writer.count, countWord_eq, StateT.run_bind]
    exact (bind_map_left ..).trans
      (checked_map _ _ fun bytes : List UInt8 => ((), { w with bytes := w.bytes ++ bytes }))

/-- The place that is written is the one that the string has from then on. -/
theorem string (s : String) : Part (string s) [s] [] fun place => stringBytes place s where
  spells := .one s
  runs w := by
    have ran : (Writer.string s).run w = .ok ((), { pool := w.pool.insert s
                                                    bytes := w.bytes ++
                                                      wordBytes ((w.pool.insert s).place s) }) := by
      simp only [Writer.string, StateT.run_bind, StateT.run_get, pure_bind, w.pool.intern_eq s]
      rfl
    refine ⟨_, ran, rfl, fun later grown => ?_⟩
    have mem : s ∈ (w.pool.insert s).toList := (OrderedSet.mem_insert ..).2 (.inr rfl)
    rw [stringBytes, OrderedSet.place_eq_of_prefix grown mem]
    simp

/-- Bytes in front of a part. -/
theorem behind (bytes : List UInt8) (rest : Part x ss es write) :
    Part (do Writer.put bytes; x) ss es fun place => bytes ++ write place :=
  (put bytes).andThen rest

/-- A length in front of a part. -/
theorem counted (what : String) (n : ℕ) (rest : Part x ss es write) :
    Part (do Writer.count what n; x) ss (⟨what, n⟩ :: es) fun place => countBytes n ++ write place :=
  (count what n).andThen rest

/-- A string in front of a part. -/
theorem after (s : String) (rest : Part x ss es write) :
    Part (do Writer.string s; x) (s :: ss) es fun place => stringBytes place s ++ write place :=
  (string s).andThen rest

theorem forM {α : Type} {f : α → Writer Unit} {strings : α → List String}
    {extents : α → List Extent} {write : (String → UInt32) → α → List UInt8}
    (each : ∀ a, Part (f a) (strings a) (extents a) fun place => write place a) (as : List α) :
    Part (as.forM f) (as.flatMap strings) (as.flatMap extents) fun place =>
      as.flatMap (write place) := by
  induction as with
  | nil => exact nothing
  | cons a as ih =>
    simp only [List.flatMap_cons]
    exact (each a).andThen ih

theorem strings (ss : List String) :
    Part (stringList ss) ss [⟨"string list", ss.length⟩] fun place => stringListBytes place ss := by
  have items := forM string ss
  rw [List.flatMap_singleton'] at items
  have none : (ss.flatMap fun _ => ([] : List Extent)) = [] := by simp
  rw [none] at items
  exact items.counted _ _

theorem values (vs : List ValueId) :
    Part (vs.forM value) [] [] fun _ => vs.flatMap ValueId.bytes := by
  have items := forM (fun v : ValueId => put v.bytes) vs
  have none {β : Type} : (vs.flatMap fun _ => ([] : List β)) = [] := by simp
  rwa [none, none] at items

theorem method (m : MethodRef) :
    Part m.write (m.owner :: m.name :: m.params ++ [m.returns]) [⟨"string list", m.params.length⟩]
      fun place => m.bytes place := by
  have parts := (((strings m.params).andThen (string m.returns)).after m.name).after m.owner
  simpa [MethodRef.write, MethodRef.bytes] using parts

mutual

theorem instruction (i : Instruction) :
    Part i.write i.strings i.extents fun place => i.bytes place := by
  cases i with
  | const d v =>
    cases v with
    | str s => exact ((string s).behind d.bytes).behind [0x04]
    | null => exact (put d.bytes).behind [0x01]
    | bool b => exact ((put [if b then 1 else 0]).behind d.bytes).behind [0x02]
    | int n => exact ((put (wordBytes n.toUInt32)).behind d.bytes).behind [0x03]
  | loadClass d c => exact ((string c).behind d.bytes).behind [0x05]
  | param d index => exact ((put (halfBytes index)).behind d.bytes).behind [0x06]
  | invoke d k m r as =>
    have args := ((values as).counted "argument" as.length).behind (optionalValueBytes r)
    have parts := ((((method m).andThen args).behind [k.code]).behind d.bytes).behind [0x07]
    simpa [Instruction.write, Instruction.strings, Instruction.extents, Instruction.bytes]
      using parts
  | newInstance d c => exact ((string c).behind d.bytes).behind [0x08]
  | newArray d c n =>
    have parts := ((((put (wordBytes n)).after c)).behind d.bytes).behind [0x09]
    simpa [Instruction.write, Instruction.strings, Instruction.extents, Instruction.bytes]
      using parts
  | store a index v =>
    have parts := (((put v.bytes).behind (wordBytes index)).behind a.bytes).behind [0x0A]
    simpa [Instruction.write, Instruction.strings, Instruction.extents, Instruction.bytes]
      using parts
  | declare d t => exact ((string t).behind d.bytes).behind [0x0B]
  | assign t v => exact ((put v.bytes).behind t.bytes).behind [0x0C]
  | branch c a b =>
    have onFalse := (block b).counted "instruction" b.length
    have parts := ((((block a).andThen onFalse).counted "instruction" a.length).behind
      c.bytes).behind [0x0D]
    simpa [Instruction.write, Instruction.strings, Instruction.extents, Instruction.bytes]
      using parts
  | isolate b e v h =>
    have handler := (((block h).counted "instruction" h.length).behind v.bytes).after e
    have parts := (((block b).andThen handler).counted "instruction" b.length).behind [0x0E]
    simpa [Instruction.write, Instruction.strings, Instruction.extents, Instruction.bytes]
      using parts
  | leave v => exact (put (optionalValueBytes v)).behind [0x0F]

theorem block (is : List Instruction) :
    Part (Block.write is) (Block.strings is) (Block.extents is) fun place =>
      Block.bytes place is := by
  cases is with
  | nil => exact nothing
  | cons i is => exact (instruction i).andThen (block is)

end

theorem routine (r : Routine) : Part r.write r.strings r.extents fun place => r.bytes place := by
  have body := ((block r.body).counted "instruction" r.body.length).behind (wordBytes r.valueCount)
  have parts := (((strings r.params).andThen (body.after r.returns)).behind
    (halfBytes r.modifiers.bits)).after r.name
  simpa [Routine.write, Routine.strings, Routine.extents, Routine.bytes] using parts

theorem body (u : CodeUnit) :
    Part u.write u.strings (⟨"string list", u.interfaces.length⟩ ::
      ⟨"string list", u.annotations.length⟩ :: ⟨"routine", u.routines.length⟩ ::
      u.routines.flatMap Routine.extents) fun place => u.bodyBytes place := by
  have routines := (forM routine u.routines).counted "routine" u.routines.length
  have lists := (strings u.interfaces).andThen ((strings u.annotations).andThen routines)
  have parts := (lists.after u.superClass).after u.name
  simpa [CodeUnit.write, CodeUnit.strings, CodeUnit.bodyBytes] using parts

end Writer.Part

end

/-! ### The whole form -/

theorem pooledText_eq (s : String) :
    pooledText s =
      checked [⟨"string byte", s.utf8ByteSize⟩] (countBytes s.utf8ByteSize ++ textBytes s) := by
  rw [pooledText, countWord_eq]
  exact checked_map ..

theorem mapM_pooledText (pool : List String) :
    pool.mapM pooledText = checked (pool.map fun s => ⟨"string byte", s.utf8ByteSize⟩)
      (pool.map fun s => countBytes s.utf8ByteSize ++ textBytes s) := by
  induction pool with
  | nil => rfl
  | cons s pool ih =>
    rw [List.mapM_cons, pooledText_eq, ih]
    exact checked_bind (checked_map ..)

theorem Writing.form_eq (w : Writing) :
    w.form = checked (⟨"string pool", w.pool.toList.length⟩ ::
        w.pool.toList.map fun s => ⟨"string byte", s.utf8ByteSize⟩)
      (magic ++ wordBytes formatVersion ++ countBytes w.pool.toList.length ++
        w.pool.toList.flatMap (fun s => countBytes s.utf8ByteSize ++ textBytes s) ++
        w.bytes.toList) := by
  rw [form, countWord_eq, mapM_pooledText, List.flatMap_def]
  exact checked_bind (checked_map ..)

namespace CodeUnit

variable (u : CodeUnit)

/-- From nothing the writer comes to the strings of the unit, each where it is used first, and to the
bytes that refer to their places in it. -/
theorem run_write : ∃ w, u.write.run {} = checked (⟨"string list", u.interfaces.length⟩ ::
      ⟨"string list", u.annotations.length⟩ :: ⟨"routine", u.routines.length⟩ ::
      u.routines.flatMap Routine.extents) ((), w) ∧
    w.pool.toList = u.pool ∧ w.bytes.toList = u.bodyBytes w.pool.place := by
  obtain ⟨w, ran, pool, bytes⟩ := (Writer.Part.body u).runs {}
  refine ⟨w, ran, ?_, ?_⟩
  · rw [pool, OrderedSet.toList_foldl_insert]
    rfl
  · simpa using bytes w.pool List.prefix_rfl

/-- The encoded form, unless a length does not fit. -/
theorem encode_eq : u.encode = checked u.extents u.bytes := by
  obtain ⟨w, ran, pool, bytes⟩ := u.run_write
  have place (s : String) : w.pool.place s = (u.pool.idxOf s).toUInt32 := by
    rw [OrderedSet.place, pool]
  have form := w.form_eq
  rw [pool, bytes, funext place] at form
  rw [encode, ran]
  exact checked_bind form

theorem encode_eq_ok_iff {u : CodeUnit} {bytes : List UInt8} :
    u.encode = .ok bytes ↔ (∀ e ∈ u.extents, e.fits = true) ∧ bytes = u.bytes := by
  rw [encode_eq, checked_eq_ok_iff]

end CodeUnit
end Registrar
