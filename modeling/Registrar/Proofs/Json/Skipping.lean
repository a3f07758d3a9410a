import Registrar.Proofs.Json.Document

/-! Any well-formed value is skipped, whatever stands in it and however deep. The machine that skips
keeps a stack of frames and counts its steps; what one value takes of them does not depend on the
frames around it. -/
namespace Registrar.Json

open Spaced (Follow)

/-- The tokens start as a value or a key does. -/
def Leads (tokens : List (List Char)) : Prop := ∃ c t rest, tokens = (c :: t) :: rest ∧ Starts c

theorem Leads.append {tokens : List (List Char)} (h : Leads tokens) (rest : List (List Char)) :
    Leads (tokens ++ rest) := by
  obtain ⟨c, t, tail, rfl, starts⟩ := h
  exact ⟨c, t, tail ++ rest, rfl, starts⟩

/-- The blanks before a value can be left out. -/
theorem Spaced.lead {tokens : List (List Char)} {cs : List Char} (h : Spaced tokens cs)
    (leads : Leads tokens) :
    ∃ c rest, skipBlanks cs = c :: rest ∧ Starts c ∧ Spaced tokens (c :: rest) := by
  obtain ⟨c, t, tail, rfl, starts⟩ := leads
  obtain ⟨rest, eq, later⟩ := h.skipBlanks_cons starts.1
  exact ⟨c, t ++ rest, eq, starts, later.token_append (List.cons_ne_nil c t)⟩

theorem Document.WellFormed.leads {doc : Document} (h : doc.WellFormed) : Leads doc.tokens := by
  cases h with
  | scalar scalar =>
    obtain ⟨c, t, rfl, starts, _⟩ := scalar.head
    exact ⟨c, t, [], rfl, starts⟩
  | list => exact ⟨'[', [], _, rfl, by decide⟩
  | object => exact ⟨'\x7b', [], _, rfl, by decide⟩

namespace Frame

/-- What stands before a value in a frame. -/
def entry : Frame → List Char → List (List Char)
  | list, _ => []
  | object, key => [key, [':']]

def parts (frame : Frame) (first : Bool) : List (List Char × Document) → List (List Char)
  | [] => []
  | (key, value) :: ps =>
    separator first ++ (frame.entry key ++ (value.tokens ++ frame.parts false ps))

theorem itemTokens_eq_parts (first : Bool) (items : List Document) :
    Document.itemTokens first items = list.parts first (items.map ([], ·)) := by
  induction items generalizing first with
  | nil => rfl
  | cons d items ih => simp [Document.itemTokens, parts, entry, ih]

theorem memberTokens_eq_parts (first : Bool) (members : List (List Char × Document)) :
    Document.memberTokens first members = object.parts first members := by
  induction members generalizing first with
  | nil => rfl
  | cons m members ih => simp [Document.memberTokens, parts, entry, ih]

theorem closing_ne_comma (frame : Frame) : ',' ≠ frame.closing := by cases frame <;> decide

theorem isBlank_closing (frame : Frame) : isBlank frame.closing = false := by cases frame <;> rfl

theorem ne_closing {frame : Frame} {c : Char} (h : Starts c) : c ≠ frame.closing := by
  cases frame
  · exact h.2.1
  · exact h.2.2.1

theorem follow_closing (frame : Frame) (rest : List (List Char)) :
    Follow ([frame.closing] :: rest) := by
  cases frame <;> simp [Follow, closing]

/-- Behind a value of a frame stands a comma or the end of the frame. -/
theorem follow_parts (frame : Frame) (ps : List (List Char × Document)) (rest : List (List Char)) :
    Follow (frame.parts false ps ++ [frame.closing] :: rest) := by
  cases ps with
  | nil => exact frame.follow_closing rest
  | cons p ps => simp [Follow, parts, separator]

theorem leads_part {frame : Frame} {key : List Char} {value : Document}
    (string : frame = object → IsString key) (h : Leads value.tokens) :
    Leads (frame.entry key ++ value.tokens) := by
  cases frame with
  | list => exact h
  | object =>
    obtain ⟨t, rfl, _⟩ := (string rfl).skipString
    exact ⟨_, _, _, rfl, by decide⟩

/-- What stands before a value is passed. -/
theorem enter_entry {frame : Frame} {key cs : List Char} {rest : List (List Char)}
    (string : frame = object → IsString key) (h : Spaced (frame.entry key ++ rest) cs) :
    ∃ later, frame.enter cs = .ok later ∧ Spaced rest later := by
  cases frame with
  | list => exact ⟨cs, rfl, h⟩
  | object =>
    obtain ⟨t, rfl, skipped⟩ := (string rfl).skipString
    obtain ⟨behind, first, spaced⟩ := h.skipBlanks_cons (by decide)
    obtain ⟨later, colon, spaced⟩ := spaced.skipBlanks_cons (by decide)
    exact ⟨later, by simp [enter, skipKey, first, skipped, colon, bind, Except.bind], spaced⟩

end Frame

/-- Skipping the document takes at most two steps for each of its tokens, in any frames. -/
def Document.Skips (doc : Document) : Prop :=
  ∀ rest cs, Follow rest → Spaced (doc.tokens ++ rest) cs → ∃ steps later,
    steps ≤ 2 * doc.tokens.length ∧ Spaced rest later ∧
      ∀ frames fuel, skipWithin frames (steps + fuel) cs = skipRest frames fuel later

section

variable {frame : Frame} {ps : List (List Char × Document)}
  (strings : frame = .object → ∀ p ∈ ps, IsString p.1) (leads : ∀ p ∈ ps, Leads p.2.tokens)
  (skips : ∀ p ∈ ps, p.2.Skips) {rest : List (List Char)} {cs : List Char}

include strings skips

/-- Behind a value: the other ones up to the end of the frame. -/
theorem skipRest_parts (h : Spaced (frame.parts false ps ++ [frame.closing] :: rest) cs) :
    ∃ steps later, steps ≤ 2 * (frame.parts false ps).length + 1 ∧ Spaced rest later ∧
      ∀ frames fuel, skipRest (frame :: frames) (steps + fuel) cs = skipRest frames fuel later := by
  induction ps generalizing cs with
  | nil =>
    obtain ⟨later, eq, spaced⟩ := h.skipBlanks_cons frame.isBlank_closing
    refine ⟨1, later, by simp, spaced, fun frames fuel => ?_⟩
    simp [Nat.add_comm 1, skipRest, eq, frame.closing_ne_comma.symm]
  | cons p ps ih =>
    obtain ⟨key, value⟩ := p
    have skip : value.Skips := skips _ List.mem_cons_self
    simp only [Frame.parts, separator, Bool.false_eq_true, if_false, List.cons_append,
      List.append_assoc] at h
    obtain ⟨part, comma, spaced⟩ := h.skipBlanks_cons (by decide)
    obtain ⟨inner, entered, spaced⟩ := Frame.enter_entry
      (fun object => strings object _ List.mem_cons_self) spaced
    obtain ⟨here, between, short, spaced, run⟩ :=
      skip _ _ (frame.follow_parts ps rest) spaced
    obtain ⟨there, later, short', spaced, run'⟩ :=
      ih (fun object q mem => strings object q (List.mem_cons_of_mem _ mem))
        (fun q mem => skips q (List.mem_cons_of_mem _ mem)) spaced
    -- One step for the comma, then those of the value and those of the rest of the frame.
    refine ⟨1 + (here + there), later, ?_, spaced, fun frames fuel => ?_⟩
    · simp only [Frame.parts, separator, Bool.false_eq_true, if_false, List.length_append,
        List.length_singleton]
      omega
    · have next := run (frame :: frames) (there + fuel)
      rw [run'] at next
      simp only [List.nil_append] at comma
      rw [show 1 + (here + there) + fuel = here + (there + fuel) + 1 by omega, skipRest]
      simp [comma, entered, bind, Except.bind, next]

include leads

/-- Behind an opening bracket: all that stands in the frame. -/
theorem skipOpened_parts (h : Spaced (frame.parts true ps ++ [frame.closing] :: rest) cs) :
    ∃ steps later, steps ≤ 2 * (frame.parts true ps).length + 2 ∧ Spaced rest later ∧
      ∀ frames fuel, skipOpened frame frames (steps + fuel) cs = skipRest frames fuel later := by
  cases ps with
  | nil =>
    obtain ⟨later, eq, spaced⟩ := h.skipBlanks_cons frame.isBlank_closing
    refine ⟨1, later, by simp, spaced, fun frames fuel => ?_⟩
    simp [Nat.add_comm 1, skipOpened, eq]
  | cons p ps =>
    obtain ⟨key, value⟩ := p
    have string := fun object => strings object _ List.mem_cons_self
    have skip : value.Skips := skips _ List.mem_cons_self
    simp only [Frame.parts, separator, if_true, List.nil_append, List.append_assoc] at h
    obtain ⟨c, part, eq, starts, spaced⟩ := h.lead (by
      simpa using (Frame.leads_part string (leads _ List.mem_cons_self)).append _)
    obtain ⟨inner, entered, spaced⟩ := Frame.enter_entry string spaced
    obtain ⟨here, between, short, spaced, run⟩ :=
      skip _ _ (frame.follow_parts ps rest) spaced
    obtain ⟨there, later, short', spaced, run'⟩ := skipRest_parts
      (fun object q mem => strings object q (List.mem_cons_of_mem _ mem))
      (fun q mem => skips q (List.mem_cons_of_mem _ mem)) spaced
    refine ⟨1 + (here + there), later, ?_, spaced, fun frames fuel => ?_⟩
    · simp only [Frame.parts, separator, if_true, List.nil_append, List.length_append]
      omega
    · have next := run (frame :: frames) (there + fuel)
      rw [run'] at next
      rw [show 1 + (here + there) + fuel = here + (there + fuel) + 1 by omega, skipOpened]
      simp [eq, Frame.ne_closing starts, entered, bind, Except.bind, next]

end

/-- A bracket, what stands in it, and its end. -/
theorem skips_of_parts (frame : Frame) (ps : List (List Char × Document)) {doc : Document}
    (bracket : Char) (tokens : doc.tokens = [bracket] :: (frame.parts true ps ++ [[frame.closing]]))
    (visible : isBlank bracket = false)
    (opens : ∀ frames fuel cs inner, skipBlanks cs = bracket :: inner →
      skipWithin frames (fuel + 1) cs = skipOpened frame frames fuel inner)
    (strings : frame = .object → ∀ p ∈ ps, IsString p.1) (leads : ∀ p ∈ ps, Leads p.2.tokens)
    (skips : ∀ p ∈ ps, p.2.Skips) : doc.Skips := by
  intro rest cs _ spaced
  simp only [tokens, List.cons_append, List.append_assoc, List.nil_append] at spaced
  obtain ⟨inner, eq, spaced⟩ := spaced.skipBlanks_cons visible
  obtain ⟨steps, later, short, spaced, run⟩ := skipOpened_parts strings leads skips spaced
  refine ⟨steps + 1, later, ?_, spaced, fun frames fuel => ?_⟩
  · simp only [tokens, List.length_cons, List.length_append, List.length_nil]
    omega
  · rw [Nat.add_right_comm, opens frames _ cs _ eq]
    exact run frames fuel

theorem Document.WellFormed.skips {doc : Document} (h : doc.WellFormed) : doc.Skips := by
  induction h with
  | scalar scalar =>
    intro rest cs follow spaced
    obtain ⟨c, t, rfl, starts, noList, noObject⟩ := scalar.head
    obtain ⟨later, eq, spaced⟩ := spaced.skipBlanks_cons starts.1
    have skipped := scalar.skip (spaced.ends follow)
    rw [List.cons_append] at skipped
    refine ⟨1, later, by simp [tokens], spaced, fun frames fuel => ?_⟩
    simp [Nat.add_comm 1, skipWithin, eq, noList, noObject, skipped, bind, Except.bind]
  | @list items all ih =>
    refine skips_of_parts .list (items.map ([], ·)) '['
      (by simp [tokens, Frame.itemTokens_eq_parts, Frame.closing]) (by decide)
      (fun frames fuel cs inner eq => by simp [skipWithin, eq]) (by simp) ?_ ?_
    · simpa using fun d mem => (all d mem).leads
    · simpa using ih
  | @object members keys values ih =>
    exact skips_of_parts .object members '\x7b'
      (by rw [tokens, Frame.memberTokens_eq_parts]; rfl) (by decide)
      (fun frames fuel cs inner eq => by simp [skipWithin, eq]) (fun _ => keys)
      (fun m mem => (values m mem).leads) ih

/-- A well-formed value is skipped up to what follows it. -/
theorem Document.WellFormed.skipValue {doc : Document} (h : doc.WellFormed)
    {rest : List (List Char)} {cs : List Char} (follow : Follow rest)
    (spaced : Spaced (doc.tokens ++ rest) cs) :
    ∃ later, skipValue cs = .ok later ∧ Spaced rest later := by
  have long := spaced.length_le
  obtain ⟨steps, later, short, spaced, run⟩ := h.skips rest cs follow spaced
  obtain ⟨fuel, enough⟩ := Nat.exists_eq_add_of_le (show steps ≤ 2 * cs.length + 2 by
    rw [List.length_append] at long; omega)
  refine ⟨later, ?_, spaced⟩
  rw [Json.skipValue, enough, run]
  simp [skipRest]

end Registrar.Json
