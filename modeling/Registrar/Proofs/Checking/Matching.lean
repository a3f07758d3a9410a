import Registrar.Text.Pattern
import Mathlib.Computability.Language

/-! What patterns stand for. A match is a word between what stands before it in the text and what
stands behind, so that the ends of the text can be asked for. A pattern that asks for neither stands
for the words of a regular language, wherever it is put. -/
namespace Registrar.Text

open scoped Computability

/-- The words of a single character with a property. -/
def oneOf (good : Char → Prop) : Language Char := {w | ∃ c, good c ∧ w = [c]}

namespace Pattern

/-! ### Matches -/

/-- The pattern stands for a word between two parts of a text. -/
inductive Matches : Pattern → (before word after : List Char) → Prop
  | start {after : List Char} : Matches start [] [] after
  | stop {before : List Char} : Matches stop before [] []
  | char {c : Char} {before after : List Char} : Matches (char c) before [c] after
  | oneOf {items : List ClassItem} {c : Char} {before after : List Char}
      (listed : ∃ item ∈ items, item.holds c) : Matches (oneOf items) before [c] after
  | seq {p q : Pattern} {before v w after : List Char} (left : Matches p before v (w ++ after))
      (right : Matches q (before ++ v) w after) : Matches (seq p q) before (v ++ w) after
  | left {p q : Pattern} {before w after : List Char} (one : Matches p before w after) :
      Matches (alt p q) before w after
  | right {p q : Pattern} {before w after : List Char} (one : Matches q before w after) :
      Matches (alt p q) before w after
  | never {p : Pattern} {before after : List Char} : Matches (many p) before [] after
  | again {p : Pattern} {before v w after : List Char} (once : Matches p before v (w ++ after))
      (others : Matches (many p) (before ++ v) w after) : Matches (many p) before (v ++ w) after
  | some {p : Pattern} {before v w after : List Char} (once : Matches p before v (w ++ after))
      (others : Matches (many p) (before ++ v) w after) : Matches (some p) before (v ++ w) after
  | group {p : Pattern} {before w after : List Char} (one : Matches p before w after) :
      Matches (group p) before w after

section

variable {p q : Pattern} {before w after : List Char}

theorem matches_start : start.Matches before w after ↔ before = [] ∧ w = [] := by
  constructor
  · rintro ⟨⟩
    exact ⟨rfl, rfl⟩
  · rintro ⟨rfl, rfl⟩
    exact .start

theorem matches_stop : stop.Matches before w after ↔ w = [] ∧ after = [] := by
  constructor
  · rintro ⟨⟩
    exact ⟨rfl, rfl⟩
  · rintro ⟨rfl, rfl⟩
    exact .stop

theorem matches_char {c : Char} : (char c).Matches before w after ↔ w = [c] := by
  constructor
  · rintro ⟨⟩
    rfl
  · rintro rfl
    exact .char

theorem matches_oneOf {items : List ClassItem} :
    (oneOf items).Matches before w after ↔ ∃ c, (∃ item ∈ items, item.holds c) ∧ w = [c] := by
  constructor
  · rintro ⟨⟩
    exact ⟨_, ‹_›, rfl⟩
  · rintro ⟨c, listed, rfl⟩
    exact .oneOf listed

theorem matches_seq : (seq p q).Matches before w after ↔
    ∃ v u, v ++ u = w ∧ p.Matches before v (u ++ after) ∧ q.Matches (before ++ v) u after := by
  constructor
  · rintro ⟨⟩
    exact ⟨_, _, rfl, ‹_›, ‹_›⟩
  · rintro ⟨v, u, rfl, left, right⟩
    exact .seq left right

theorem matches_alt :
    (alt p q).Matches before w after ↔ p.Matches before w after ∨ q.Matches before w after := by
  constructor
  · rintro (_ | _)
    · exact .inl ‹_›
    · exact .inr ‹_›
  · rintro (one | one)
    · exact .left one
    · exact .right one

theorem matches_some : (some p).Matches before w after ↔
    ∃ v u, v ++ u = w ∧ p.Matches before v (u ++ after) ∧ (many p).Matches (before ++ v) u after := by
  constructor
  · rintro ⟨⟩
    exact ⟨_, _, rfl, ‹_›, ‹_›⟩
  · rintro ⟨v, u, rfl, once, others⟩
    exact .some once others

theorem matches_group : (group p).Matches before w after ↔ p.Matches before w after := by
  constructor
  · rintro ⟨⟩
    assumption
  · exact .group

end

/-- Some part of the text is a match. -/
def FoundIn (p : Pattern) (s : String) : Prop :=
  ∃ before word after, before ++ word ++ after = s.toList ∧ p.Matches before word after

end Pattern

/-- The matcher answers whether a text holds a match. -/
def Matcher.Documented (m : Matcher) : Prop := ∀ p s, m.isMatch p s ↔ p.FoundIn s

/-! ### The search for a match -/

namespace Place

/-- The place between two parts of a text. -/
def between (before after : List Char) : Place := ⟨before.isEmpty, after⟩

variable {before rest : List Char} {there : Place}

theorem mem_step {good : Char → Bool} :
    there ∈ (between before rest).step good ↔
      ∃ c after, c :: after = rest ∧ good c ∧ there = between (before ++ [c]) after := by
  cases rest with
  | nil => simp [between, step]
  | cons c rest =>
    have moved : between (before ++ [c]) rest = ⟨false, rest⟩ := by simp [between]
    by_cases h : good c <;> simp [step, between, h, ← moved]

theorem mem_onwards {atStart : Bool} :
    there ∈ onwards atStart rest ↔
      ∃ before after, before ++ after = rest ∧ there = ⟨atStart && before.isEmpty, after⟩ := by
  induction rest generalizing atStart with
  | nil => simp [onwards]
  | cons c rest ih =>
    rw [onwards, List.mem_cons, ih]
    constructor
    · rintro (rfl | ⟨before, after, rfl, rfl⟩)
      · exact ⟨[], c :: rest, rfl, by simp⟩
      · exact ⟨c :: before, after, rfl, by simp⟩
    · rintro ⟨before, after, eq, rfl⟩
      cases before with
      | nil =>
        obtain rfl : after = c :: rest := eq
        exact .inl (by simp)
      | cons d before =>
        obtain ⟨rfl, rfl⟩ := List.cons.inj eq
        exact .inr ⟨before, after, rfl, by simp⟩

end Place

namespace Pattern

open Registrar.Text.Place (between)

/-- The places that a search gives are the ends of the words that stand for something behind the
place where it starts. -/
def Finds (search : Place → List Place) (stands : (before word after : List Char) → Prop) : Prop :=
  ∀ (before rest : List Char) (there : Place), there ∈ search (between before rest) ↔
    ∃ w after, w ++ after = rest ∧ stands before w after ∧ there = between (before ++ w) after

/-- One search from all ends of another finds the words in two parts. -/
theorem Finds.andThen {f g : Place → List Place} {r s : (before word after : List Char) → Prop}
    (first : Finds f r) (second : Finds g s) :
    Finds (fun here => (f here).flatMap g) fun before w after =>
      ∃ v u, v ++ u = w ∧ r before v (u ++ after) ∧ s (before ++ v) u after := by
  intro before rest there
  rw [List.mem_flatMap]
  constructor
  · rintro ⟨next, once, later⟩
    obtain ⟨v, rest, rfl, left, rfl⟩ := (first _ _ _).1 once
    obtain ⟨u, after, rfl, right, rfl⟩ := (second _ _ _).1 later
    exact ⟨v ++ u, after, by simp, ⟨v, u, rfl, left, right⟩, by simp⟩
  · rintro ⟨_, after, rfl, ⟨v, u, rfl, left, right⟩, rfl⟩
    refine ⟨between (before ++ v) (u ++ after), (first _ _ _).2 ?_, (second _ _ _).2 ?_⟩
    · exact ⟨v, u ++ after, by simp, left, rfl⟩
    · exact ⟨u, after, rfl, right, by simp⟩

variable {p : Pattern} {before w after rest : List Char} {there : Place}

/-- Every repetition that the search follows is one of the pattern. -/
theorem matches_of_mem_repeated (finds : Finds p.ends p.Matches) {turns : Nat}
    (h : there ∈ repeated p.ends turns (between before rest)) :
    ∃ w after, w ++ after = rest ∧ (many p).Matches before w after ∧
      there = between (before ++ w) after := by
  have none : ∃ w after, w ++ after = rest ∧ (many p).Matches before w after ∧
      between before rest = between (before ++ w) after :=
    ⟨[], rest, rfl, .never, by simp⟩
  induction turns generalizing before rest with
  | zero =>
    obtain rfl := List.mem_singleton.1 h
    exact none
  | succ turns ih =>
    simp only [repeated, List.mem_cons, List.mem_flatMap, List.mem_filter] at h
    obtain rfl | ⟨next, ⟨once, -⟩, later⟩ := h
    · exact none
    · obtain ⟨v, rest, rfl, one, rfl⟩ := (finds _ _ _).1 once
      obtain ⟨w, after, rfl, others, rfl⟩ := ih later ⟨[], rest, rfl, .never, by simp⟩
      exact ⟨v ++ w, after, by simp, .again one others, by simp⟩

/-- As many turns as there are characters left are enough: a turn that takes none can be left
out. -/
theorem mem_repeated_of_matches (finds : Finds p.ends p.Matches)
    (h : (many p).Matches before w after) {turns : Nat} (enough : w.length + after.length ≤ turns) :
    between (before ++ w) after ∈ repeated p.ends turns (between before (w ++ after)) := by
  generalize eq : many p = q at h
  induction h generalizing turns with
  | @never q before after =>
    cases turns <;> simp [repeated]
  | @again q before v w after once others _ ih =>
    obtain rfl := Pattern.many.inj eq
    rcases v with - | ⟨c, v⟩
    · simpa using ih enough rfl
    · cases turns with
      | zero => simp at enough
      | succ turns =>
        rw [List.length_append, List.length_cons] at enough
        have later : between (before ++ c :: v ++ w) after ∈
            repeated p.ends turns (between (before ++ c :: v) (w ++ after)) := ih (by omega) rfl
        rw [repeated, List.mem_cons, List.mem_flatMap]
        refine .inr ⟨between (before ++ c :: v) (w ++ after), ?_, by simpa using later⟩
        rw [List.mem_filter, finds]
        refine ⟨⟨c :: v, w ++ after, by simp, once, rfl⟩, decide_eq_true ?_⟩
        simp only [between, List.length_append, List.length_cons]
        omega
  | _ => cases eq

theorem finds_repeated (finds : Finds p.ends p.Matches) :
    Finds (fun here => repeated p.ends here.rest.length here) (many p).Matches := by
  intro before rest there
  constructor
  · exact matches_of_mem_repeated finds
  · rintro ⟨w, after, rfl, h, rfl⟩
    exact mem_repeated_of_matches finds h (by simp [between])

theorem finds_ends (p : Pattern) : Finds p.ends p.Matches := by
  induction p with
  | start =>
    intro before rest there
    cases before <;> simp [ends, between, matches_start]
  | stop =>
    intro before rest there
    cases rest <;> simp [ends, between, matches_stop]
  | char c =>
    intro before rest there
    simp [ends, Place.mem_step, matches_char]
  | oneOf items =>
    intro before rest there
    simp only [ends, Place.mem_step, matches_oneOf, List.any_eq_true]
    constructor
    · rintro ⟨c, after, rfl, holds, rfl⟩
      exact ⟨[c], after, rfl, ⟨c, holds, rfl⟩, rfl⟩
    · rintro ⟨_, after, rfl, ⟨c, holds, rfl⟩, rfl⟩
      exact ⟨c, after, rfl, holds, rfl⟩
  | seq p q first second =>
    intro before rest there
    simpa only [ends, matches_seq] using first.andThen second before rest there
  | alt p q first second =>
    intro before rest there
    simp only [ends, List.mem_append, first before rest there, second before rest there,
      matches_alt, or_and_right, and_or_left, exists_or]
  | many p once => exact finds_repeated once
  | some p once =>
    intro before rest there
    simpa only [ends, matches_some] using once.andThen (finds_repeated once) before rest there
  | group p one =>
    intro before rest there
    simpa only [ends, matches_group] using one before rest there

end Pattern

/-- The search gives the answer that is asked of matchers. -/
theorem Matcher.standard_documented : Matcher.standard.Documented := by
  intro p s
  rw [standard, List.any_eq_true]
  constructor
  · rintro ⟨here, listed, some⟩
    obtain ⟨before, rest, eq, rfl⟩ := Place.mem_onwards.1 listed
    obtain ⟨there, reached⟩ := List.exists_mem_of_ne_nil _ (by simpa using some)
    obtain ⟨w, after, rfl, found, -⟩ := (p.finds_ends before rest there).1 reached
    exact ⟨before, w, after, by simpa using eq, found⟩
  · rintro ⟨before, w, after, eq, found⟩
    have reached := (p.finds_ends before (w ++ after) _).2 ⟨w, after, rfl, found, rfl⟩
    refine ⟨.between before (w ++ after), Place.mem_onwards.2 ⟨before, w ++ after, ?_, rfl⟩, ?_⟩
    · simpa using eq
    · simpa using List.ne_nil_of_mem reached

/-! ### Words -/

namespace Pattern

/-- The pattern asks for no end of the text. -/
def Plain : Pattern → Prop
  | start | stop => False
  | char _ | oneOf _ => True
  | seq p q | alt p q => p.Plain ∧ q.Plain
  | many p | some p | group p => p.Plain

/-- The words that a plain pattern stands for. -/
def words : Pattern → Language Char
  | start | stop => 0
  | char c => {[c]}
  | oneOf items => Text.oneOf fun c => ∃ item ∈ items, item.holds c
  | seq p q => p.words * q.words
  | alt p q => p.words + q.words
  | many p => p.words∗
  | some p => p.words * p.words∗
  | group p => p.words

/-- The pattern stands for its words wherever they are. -/
def Everywhere (p : Pattern) : Prop :=
  ∀ before w after, p.Matches before w after ↔ w ∈ p.words

variable {p : Pattern} {before w after : List Char}

theorem Everywhere.many (once : p.Everywhere) : (many p).Everywhere := by
  intro before w after
  constructor
  · intro h
    generalize eq : Pattern.many p = q at h
    induction h with
    | never => exact Language.nil_mem_kstar _
    | again one others _ ih =>
      obtain rfl := Pattern.many.inj eq
      rw [words, ← Language.one_add_self_mul_kstar_eq_kstar, Language.mem_add, Language.mem_mul]
      exact .inr ⟨_, (once _ _ _).1 one, _, ih rfl, rfl⟩
    | _ => cases eq
  · rintro ⟨parts, rfl, all⟩
    induction parts generalizing before with
    | nil => exact .never
    | cons part parts ih =>
      have one := (once before part (parts.flatten ++ after)).2 (all part (by simp))
      exact .again one (ih _ fun other listed => all other (by simp [listed]))

/-- A plain pattern stands for the same words wherever it is put. -/
theorem everywhere_of_plain (plain : p.Plain) : p.Everywhere := by
  induction p with
  | start => cases plain
  | stop => cases plain
  | char c => exact fun _ _ _ => matches_char
  | oneOf items => exact fun _ _ _ => matches_oneOf
  | seq p q first second =>
    intro before w after
    simp only [matches_seq, first plain.1 _ _ _, second plain.2 _ _ _, words, Language.mem_mul]
    grind
  | alt p q left right =>
    intro before w after
    rw [matches_alt, left plain.1, right plain.2]
    rfl
  | many p once => exact (once plain).many
  | some p once =>
    intro before w after
    simp only [matches_some, once plain _ _ _, (once plain).many _ _ _, words, Language.mem_mul]
    grind
  | group p one => exact fun _ _ _ => matches_group.trans (one plain _ _ _)

/-- Between both ends there is room for the whole text only. -/
theorem foundIn_start_stop (plain : p.Plain) {s : String} :
    (start ++ p ++ stop).FoundIn s ↔ s.toList ∈ p.words := by
  have parts {before w after : List Char} : (start ++ p ++ stop).Matches before w after ↔
      before = [] ∧ w ∈ p.words ∧ after = [] := by
    change (seq (seq start p) stop).Matches before w after ↔ _
    simp only [matches_seq, matches_start, matches_stop, everywhere_of_plain plain _ _ _]
    grind
  simp only [FoundIn, parts]
  constructor
  · rintro ⟨_, w, _, eq, rfl, mem, rfl⟩
    simpa [← eq] using mem
  · exact fun mem => ⟨[], s.toList, [], by simp, rfl, mem, rfl⟩

end Pattern
end Registrar.Text
