import Registrar.Proofs.Json.Meaning
import Registrar.Proofs.Json.Skipping

/-! Reading from front to back: the text of a document is read as what the document says. -/
namespace Registrar.Json

namespace Shape

/-- The text of the document is read, up to what follows it, as the value. -/
def Reads (shape : Shape) (doc : Document) (j : Json) : Prop :=
  ∀ rest cs, Spaced (doc.tokens ++ rest) cs → ∃ later,
    shape.scan cs = .ok (j, later) ∧ Spaced rest later

theorem Means.leads {shape : Shape} {doc : Document} {j : Json} (h : shape.Means doc j) :
    Leads doc.tokens := by
  cases h with
  | text h | something h | choice h _ =>
    obtain ⟨t, rfl, _⟩ := h.readString
    exact ⟨_, _, _, rfl, by decide⟩
  | _ => exact ⟨_, _, _, rfl, by decide⟩

end Shape

section

variable {tokens : List (List Char)} {token cs : List Char}

theorem scanString_spaced {s : String} (h : Spells token s) (spaced : Spaced (token :: tokens) cs) :
    ∃ later, scanString cs = .ok (s, later) ∧ Spaced tokens later := by
  obtain ⟨t, rfl, read⟩ := h.readString
  obtain ⟨later, eq, spaced⟩ := spaced.skipBlanks_cons (by decide)
  exact ⟨later, by simp [scanString, eq, read], spaced⟩

theorem expectColon_spaced (spaced : Spaced ([':'] :: tokens) cs) :
    ∃ later, expectColon cs = .ok later ∧ Spaced tokens later := by
  obtain ⟨later, eq, spaced⟩ := spaced.skipBlanks_cons (by decide)
  exact ⟨later, by rw [expectColon, eq]; rfl, spaced⟩

theorem closeList_spaced (spaced : Spaced ([']'] :: tokens) cs) :
    ∃ later, closeList cs = .ok later ∧ Spaced tokens later := by
  obtain ⟨later, eq, spaced⟩ := spaced.skipBlanks_cons (by decide)
  exact ⟨later, by rw [closeList, eq]; rfl, spaced⟩

theorem closeObject_spaced (spaced : Spaced (['\x7d'] :: tokens) cs) :
    ∃ later, closeObject cs = .ok later ∧ Spaced tokens later := by
  obtain ⟨later, eq, spaced⟩ := spaced.skipBlanks_cons (by decide)
  exact ⟨later, by rw [closeObject, eq]; rfl, spaced⟩

theorem nextItem_close (first : Bool) (spaced : Spaced ([']'] :: tokens) cs) :
    nextItem first cs = .ok none := by
  obtain ⟨later, eq, _⟩ := spaced.skipBlanks_cons (by decide)
  rw [nextItem, eq]; rfl

/-- A separator is passed, and the blanks before the next item. -/
theorem nextItem_separator (first : Bool) (leads : Leads tokens)
    (spaced : Spaced (separator first ++ tokens) cs) :
    ∃ later, nextItem first cs = .ok (some later) ∧ Spaced tokens later := by
  cases first with
  | true =>
    obtain ⟨c, later, eq, starts, spaced⟩ := spaced.lead leads
    exact ⟨c :: later, by simp [nextItem, eq, starts.2.1], spaced⟩
  | false =>
    obtain ⟨behind, comma, spaced⟩ := spaced.skipBlanks_cons (by decide)
    obtain ⟨c, later, eq, starts, spaced⟩ := spaced.lead leads
    exact ⟨c :: later, by simp [nextItem, comma, eq, starts.2.1], spaced⟩

theorem nextKey_close (first : Bool) (spaced : Spaced (['\x7d'] :: tokens) cs) :
    nextKey first cs = .ok none := by
  obtain ⟨later, eq, _⟩ := spaced.skipBlanks_cons (by decide)
  rw [nextKey, eq]; rfl

/-- A separator is passed, and the opening quote of the next key. -/
theorem nextKey_separator (first : Bool)
    (spaced : Spaced (separator first ++ ('"' :: token) :: tokens) cs) :
    ∃ later, nextKey first cs = .ok (some (token ++ later)) ∧ Spaced tokens later := by
  cases first with
  | true =>
    obtain ⟨later, eq, spaced⟩ := spaced.skipBlanks_cons (by decide)
    exact ⟨later, by simp [nextKey, eq], spaced⟩
  | false =>
    obtain ⟨behind, comma, spaced⟩ := spaced.skipBlanks_cons (by decide)
    obtain ⟨later, eq, spaced⟩ := spaced.skipBlanks_cons (by decide)
    exact ⟨later, by simp [nextKey, comma, eq], spaced⟩

end

/-- Items are read one after the other, up to the closing bracket. -/
theorem scanItems_spaced {item : Shape} {items : List (Document × Json)}
    (leads : ∀ p ∈ items, Leads p.1.tokens) (reads : ∀ p ∈ items, item.Reads p.1 p.2) (first : Bool)
    (fuel : Nat) {rest : List (List Char)} {cs : List Char}
    (spaced : Spaced (Document.itemTokens first (items.map (·.1)) ++ [']'] :: rest) cs) :
    ∃ later, scanItems item.scan first (items.length + 1 + fuel) cs =
        .ok (items.map (·.2), later) ∧
      Spaced ([']'] :: rest) later := by
  induction items generalizing first cs with
  | nil =>
    refine ⟨cs, ?_, spaced⟩
    rw [List.length_nil, Nat.add_right_comm, scanItems, nextItem_close first spaced]
    rfl
  | cons p items ih =>
    simp only [List.map_cons, Document.itemTokens, List.append_assoc] at spaced
    obtain ⟨start, next, spaced⟩ :=
      nextItem_separator first ((leads p List.mem_cons_self).append _) spaced
    obtain ⟨behind, scanned, spaced⟩ := reads p List.mem_cons_self _ _ spaced
    obtain ⟨later, scanned', spaced⟩ :=
      ih (fun q mem => leads q (List.mem_cons_of_mem _ mem))
        (fun q mem => reads q (List.mem_cons_of_mem _ mem)) false spaced
    refine ⟨later, ?_, spaced⟩
    rw [List.length_cons, Nat.add_right_comm, scanItems]
    simp [next, scanned, scanned', bind, Except.bind, pure, Except.pure]

theorem Shape.scans_eq_map (shapes : List (Member Shape)) :
    Shape.scans shapes = shapes.map fun s => ⟨s.key, s.preset, s.content.scan⟩ := by
  induction shapes with
  | nil => rfl
  | cons s shapes ih => simp [Shape.scans, ih]

/-- Under the key of each member that is known stands what it means, and nothing under other keys. -/
def Gathers (shapes : List (Member Shape)) (value : String → Json)
    (members : List (List Char × Document)) (read : List (String × Json)) : Prop :=
  ∀ s ∈ shapes,
    ((∃ m ∈ members, Spells m.1 s.key) → read.lookup s.key = some (value s.key)) ∧
      ((∀ m ∈ members, ¬ Spells m.1 s.key) → read.lookup s.key = none)

section

variable {shapes : List (Member Shape)} {value : String → Json}
  {members : List (List Char × Document)} {read : List (String × Json)} {token : List Char}
  {doc : Document}

theorem gathers_nil : Gathers shapes value [] [] := by
  simp [Gathers]

/-- A member that is not known adds nothing. -/
theorem Gathers.other (gathers : Gathers shapes value members read)
    (unknown : ∀ s ∈ shapes, ¬ Spells token s.key) :
    Gathers shapes value ((token, doc) :: members) read := by
  refine fun s listed => ⟨fun given => (gathers s listed).1 ?_, fun none => (gathers s listed).2 ?_⟩
  · obtain ⟨m, mem, spells⟩ := given
    rcases List.mem_cons.1 mem with rfl | mem
    · exact absurd spells (unknown s listed)
    · exact ⟨m, mem, spells⟩
  · exact fun m mem => none m (List.mem_cons_of_mem _ mem)

/-- A member that is known is added under its key. -/
theorem Gathers.known (gathers : Gathers shapes value members read) {s : Member Shape}
    (spells : Spells token s.key) :
    Gathers shapes value ((token, doc) :: members) ((s.key, value s.key) :: read) := by
  intro t listed
  rw [List.lookup_cons]
  by_cases same : t.key = s.key
  · rw [same]
    simp only [BEq.rfl]
    exact ⟨fun _ => trivial, fun none => absurd spells (none _ List.mem_cons_self)⟩
  · have other : (t.key == s.key) = false := by simpa using same
    rw [other]
    refine ⟨fun given => (gathers t listed).1 ?_, fun none =>
      (gathers t listed).2 fun m mem => none m (List.mem_cons_of_mem _ mem)⟩
    obtain ⟨m, mem, spells'⟩ := given
    rcases List.mem_cons.1 mem with rfl | mem
    · exact absurd (spells'.unique spells) same
    · exact ⟨m, mem, spells'⟩

/-- With those that are left out at their presets, these are all members of the record. -/
theorem Gathers.fill_eq (gathers : Gathers shapes value members read)
    (left : ∀ s ∈ shapes, (∀ m ∈ members, ¬ Spells m.1 s.key) → value s.key = s.preset) :
    fill (Shape.scans shapes) read = .object (shapes.map fun s => (s.key, value s.key)) := by
  rw [fill, Shape.scans_eq_map, List.map_map]
  refine congrArg object (List.map_congr_left fun s listed => ?_)
  by_cases given : ∃ m ∈ members, Spells m.1 s.key
  · simp [(gathers s listed).1 given]
  · push Not at given
    simp [(gathers s listed).2 given, left s listed given]

theorem find?_scans_none {key : String} (unknown : ∀ s ∈ shapes, s.key ≠ key) :
    (Shape.scans shapes).find? (·.key == key) = none := by
  simpa [Shape.scans_eq_map] using unknown

variable (distinct : (shapes.map (·.key)).Nodup)

include distinct

/-- A known key finds the shape of its member. -/
theorem find?_scans {s : Member Shape} (mem : s ∈ shapes) :
    (Shape.scans shapes).find? (·.key == s.key) = some ⟨s.key, s.preset, s.content.scan⟩ := by
  rw [Shape.scans_eq_map]
  induction shapes with
  | nil => cases mem
  | cons t shapes ih =>
    obtain ⟨new, distinct⟩ := List.nodup_cons.1 distinct
    rcases List.mem_cons.1 mem with rfl | later
    · simp
    · have other : t.key ≠ s.key := fun same => new (List.mem_map.2 ⟨s, later, same.symm⟩)
      simpa [other] using ih distinct later

/-- Members are read one after the other, up to the closing bracket. -/
theorem scanMembers_spaced (spelled : ∀ m ∈ members, ∃ key, Spells m.1 key)
    (once : members.Pairwise fun m n => ∀ s ∈ shapes, ¬ (Spells m.1 s.key ∧ Spells n.1 s.key))
    (other : ∀ m ∈ members, (∀ s ∈ shapes, ¬ Spells m.1 s.key) → m.2.WellFormed)
    (known : ∀ s ∈ shapes, ∀ m ∈ members, Spells m.1 s.key → s.content.Reads m.2 (value s.key))
    (seen : List (String × Json))
    (fresh : ∀ s ∈ shapes, ∀ m ∈ members, Spells m.1 s.key → ∀ p ∈ seen, p.1 ≠ s.key) (first : Bool)
    (fuel : Nat) {rest : List (List Char)} {cs : List Char}
    (spaced : Spaced (Document.memberTokens first members ++ ['\x7d'] :: rest) cs) :
    ∃ read later,
      scanMembers (Shape.scans shapes) first seen (members.length + 1 + fuel) cs =
        .ok (seen.reverse ++ read, later) ∧
      Spaced (['\x7d'] :: rest) later ∧ Gathers shapes value members read := by
  -- No key that has been seen is spelled by a member that is still to come.
  induction members generalizing first seen cs with
  | nil =>
    refine ⟨[], cs, ?_, spaced, gathers_nil⟩
    rw [List.length_nil, Nat.add_right_comm, scanMembers, nextKey_close first spaced]
    simp [bind, Except.bind, pure, Except.pure]
  | cons m members ih =>
    obtain ⟨token, doc⟩ := m
    obtain ⟨key, spells⟩ := spelled _ List.mem_cons_self
    obtain ⟨t, rfl, readKey⟩ := spells.readString
    simp only [Document.memberTokens, List.append_assoc, List.cons_append] at spaced
    obtain ⟨start, next, spaced⟩ := nextKey_separator first spaced
    obtain ⟨behind, colon, spaced⟩ := expectColon_spaced spaced
    obtain ⟨apart, once⟩ := List.pairwise_cons.1 once
    have ih := @ih (fun n mem => spelled n (List.mem_cons_of_mem _ mem)) once
      (fun n mem => other n (List.mem_cons_of_mem _ mem))
      (fun s listed n mem => known s listed n (List.mem_cons_of_mem _ mem))
    have fresh' := fun s listed n mem => fresh s listed n (List.mem_cons_of_mem _ mem)
    by_cases unknown : ∀ s ∈ shapes, ¬ Spells ('"' :: t) s.key
    · have follow : Spaced.Follow (Document.memberTokens false members ++ ['\x7d'] :: rest) := by
        rw [Frame.memberTokens_eq_parts]
        exact Frame.object.follow_parts members rest
      obtain ⟨between, skipped, spaced⟩ :=
        (other _ List.mem_cons_self unknown).skipValue follow spaced
      obtain ⟨read, later, scanned, spaced, gathers⟩ := ih seen fresh' false spaced
      have none := find?_scans_none fun s listed same => unknown s listed (same ▸ spells)
      refine ⟨read, later, ?_, spaced, gathers.other unknown⟩
      rw [List.length_cons, Nat.add_right_comm, scanMembers]
      simp [next, readKey, none, colon, skipped, scanned, bind, Except.bind]
    · -- The key has not been seen, and is not spelled again: no member is refused.
      push Not at unknown
      obtain ⟨s, listed, spells'⟩ := unknown
      obtain rfl := spells.unique spells'
      obtain ⟨between, scanned, spaced⟩ :=
        known s listed _ List.mem_cons_self spells _ _ spaced
      have fresh' : ∀ t ∈ shapes, ∀ n ∈ members, Spells n.1 t.key →
          ∀ p ∈ (s.key, value s.key) :: seen, p.1 ≠ t.key := by
        intro t listed' n mem spells' p read same
        rcases List.mem_cons.1 read with rfl | read
        · obtain rfl := List.inj_on_of_nodup_map distinct listed listed' same
          exact apart n mem s listed ⟨spells, spells'⟩
        · exact fresh' t listed' n mem spells' p read same
      obtain ⟨read, later, scanned', spaced, gathers⟩ := ih ((s.key, value s.key) :: seen) fresh' false spaced
      have new : seen.any (·.1 == s.key) = false := by
        simpa using fresh s listed _ List.mem_cons_self spells
      refine ⟨(s.key, value s.key) :: read, later, ?_, spaced, gathers.known spells⟩
      rw [List.length_cons, Nat.add_right_comm, scanMembers]
      simp [next, readKey, find?_scans distinct listed, new, colon, scanned, scanned', bind,
        Except.bind]

end

/-- No token is empty, so that a text has a character for each of its tokens. -/
theorem exists_fuel {n : Nat} {tokens rest : List (List Char)} {cs : List Char}
    (few : n ≤ tokens.length) (spaced : Spaced (tokens ++ rest) cs) :
    ∃ fuel, cs.length + 1 = n + 1 + fuel := by
  have long := spaced.length_le
  rw [List.length_append] at long
  exact Nat.exists_eq_add_of_le (by omega)

namespace Shape

/-- A list is read if its items are. -/
theorem reads_list {item : Shape} {items : List (Document × Json)}
    (leads : ∀ p ∈ items, Leads p.1.tokens) (reads : ∀ p ∈ items, item.Reads p.1 p.2) :
    (list item).Reads (.list (items.map (·.1))) (.list (items.map (·.2))) := by
  intro rest cs spaced
  simp only [Document.tokens, List.cons_append, List.append_assoc, List.nil_append] at spaced
  obtain ⟨inner, opened, spaced⟩ := spaced.skipBlanks_cons (by decide)
  have few := Document.length_le_itemTokens true (items.map (·.1))
  rw [List.length_map] at few
  obtain ⟨fuel, enough⟩ := exists_fuel few spaced
  obtain ⟨behind, scanned, spaced⟩ := scanItems_spaced leads reads true fuel spaced
  obtain ⟨later, closed, spaced⟩ := closeList_spaced spaced
  refine ⟨later, ?_, spaced⟩
  simp [scan, scanList, opened, enough, scanned, closed, bind, Except.bind, pure, Except.pure]

/-- A record is read if its known members are. -/
theorem reads_record {shapes : List (Member Shape)} {members : List (List Char × Document)}
    {value : String → Json} (distinct : (shapes.map (·.key)).Nodup)
    (spelled : ∀ m ∈ members, ∃ key, Spells m.1 key)
    (once : members.Pairwise fun m n => ∀ s ∈ shapes, ¬ (Spells m.1 s.key ∧ Spells n.1 s.key))
    (other : ∀ m ∈ members, (∀ s ∈ shapes, ¬ Spells m.1 s.key) → m.2.WellFormed)
    (known : ∀ s ∈ shapes, ∀ m ∈ members, Spells m.1 s.key → s.content.Reads m.2 (value s.key))
    (left : ∀ s ∈ shapes, (∀ m ∈ members, ¬ Spells m.1 s.key) → value s.key = s.preset) :
    (record shapes).Reads (.object members) (.object (shapes.map fun s => (s.key, value s.key))) := by
  intro rest cs spaced
  simp only [Document.tokens, List.cons_append, List.append_assoc, List.nil_append] at spaced
  obtain ⟨inner, opened, spaced⟩ := spaced.skipBlanks_cons (by decide)
  obtain ⟨fuel, enough⟩ := exists_fuel (Document.length_le_memberTokens true members) spaced
  obtain ⟨read, behind, scanned, spaced, gathers⟩ := scanMembers_spaced distinct
    spelled once other known [] (by simp) true fuel spaced
  obtain ⟨later, closed, spaced⟩ := closeObject_spaced spaced
  refine ⟨later, ?_, spaced⟩
  rw [← gathers.fill_eq left]
  simp [scan, scanRecord, opened, enough, scanned, closed, bind, Except.bind, pure, Except.pure]

/-- A text is read as what its document says. -/
theorem Means.reads {shape : Shape} {doc : Document} {j : Json} (h : shape.Means doc j) :
    shape.Reads doc j := by
  induction h with
  | @text token s h =>
    intro rest cs spaced
    obtain ⟨later, scanned, spaced⟩ := scanString_spaced h spaced
    exact ⟨later, by simp [scan, scanText, scanned, Except.map], spaced⟩
  | yes =>
    intro rest cs spaced
    obtain ⟨later, eq, spaced⟩ := spaced.skipBlanks_cons (by decide)
    exact ⟨later, by simp [scan, scanFlag, eq, expectWord, Except.map], spaced⟩
  | no =>
    intro rest cs spaced
    obtain ⟨later, eq, spaced⟩ := spaced.skipBlanks_cons (by decide)
    exact ⟨later, by simp [scan, scanFlag, eq, expectWord, Except.map], spaced⟩
  | nothing =>
    intro rest cs spaced
    obtain ⟨later, eq, spaced⟩ := spaced.skipBlanks_cons (by decide)
    have again := skipBlanks_of_visible (c := 'n') rfl ('u' :: 'l' :: 'l' :: later)
    exact ⟨later, by
      simp [scan, scanOptionalText, scanNull, eq, again, expectWord, Except.map], spaced⟩
  | @something token s h =>
    intro rest cs spaced
    obtain ⟨t, rfl, read⟩ := h.readString
    obtain ⟨later, eq, spaced⟩ := spaced.skipBlanks_cons (by decide)
    have again := skipBlanks_of_visible (c := '"') rfl (t ++ later)
    exact ⟨later, by
      simp [scan, scanOptionalText, scanText, scanString, eq, again, read, Except.map], spaced⟩
  | @choice names token s h offered =>
    intro rest cs spaced
    obtain ⟨t, rfl, read⟩ := h.readString
    obtain ⟨later, eq, spaced⟩ := spaced.skipBlanks_cons (by decide)
    have again := skipBlanks_of_visible (c := '"') rfl (t ++ later)
    exact ⟨later, by
      simp [scan, scanChoice, scanName, scanString, eq, again, read, offered, bind, Except.bind,
        pure, Except.pure, Except.map], spaced⟩
  | list h ih => exact reads_list (fun p mem => (h p mem).leads) ih
  | record distinct spelled once other _ left ih =>
    exact reads_record distinct spelled once other ih left

theorem Means.read {shape : Shape} {doc : Document} {j : Json} (h : shape.Means doc j)
    {text : String} (written : doc.WrittenAs text) : shape.read text = .ok j := by
  obtain ⟨later, scanned, spaced⟩ := h.reads [] text.toList (by
    rw [List.append_nil]; exact written)
  simp [Shape.read, scanned, spaced.skipBlanks_nil, bind, Except.bind, pure, Except.pure]

end Shape

/-- Writing and reading keep to what is known of libraries, with any depth. -/
theorem Library.standard_documented : Library.standard.Documented where
  writes := writtenAs_pretty
  reads _ _ _ means _ written := means.read written

/-- The document of a value says one value only. -/
theorem Shape.Means.unique {shape : Shape} {i j k : Json} (hj : shape.Means (.ofJson i) j)
    (hk : shape.Means (.ofJson i) k) : j = k := by
  have written := writtenAs_pretty i
  exact Except.ok.inj ((hj.read written).symm.trans (hk.read written))

end Registrar.Json
