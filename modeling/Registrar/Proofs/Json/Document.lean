import Mathlib.Data.List.TakeWhile
import Registrar.Proofs.Json.Tokens

/-! JSON text apart from its white space. A document holds scalars and keys as they are written, in
the order of the text, numbers and repeated keys included; the same document is written with any
blanks between its tokens. -/
namespace Registrar.Json

inductive Document where
  | scalar (token : List Char)
  | list (items : List Document)
  | object (members : List (List Char × Document))

/-- The comma before an item or a member, unless it is the first one. -/
def separator (first : Bool) : List (List Char) := if first then [] else [[',']]

namespace Document

mutual

def tokens : Document → List (List Char)
  | scalar token => [token]
  | list items => ['['] :: (itemTokens true items ++ [[']']])
  | object members => ['\x7b'] :: (memberTokens true members ++ [['\x7d']])

def itemTokens (first : Bool) : List Document → List (List Char)
  | [] => []
  | item :: items => separator first ++ (item.tokens ++ itemTokens false items)

def memberTokens (first : Bool) : List (List Char × Document) → List (List Char)
  | [] => []
  | (key, value) :: members =>
    separator first ++ (key :: [':'] :: (value.tokens ++ memberTokens false members))

end

/-- The grammar of all JSON text. Numbers may be of any size, and any key may come again. -/
inductive WellFormed : Document → Prop
  | scalar {token : List Char} (h : IsScalar token) : WellFormed (scalar token)
  | list {items : List Document} (h : ∀ d ∈ items, WellFormed d) : WellFormed (list items)
  | object {members : List (List Char × Document)} (keys : ∀ m ∈ members, IsString m.1)
      (values : ∀ m ∈ members, WellFormed m.2) : WellFormed (object members)

mutual

/-- The document of a value, with strings escaped only where they have to be. -/
def ofJson : Json → Document
  | .null => scalar ['n', 'u', 'l', 'l']
  | .flag true => scalar ['t', 'r', 'u', 'e']
  | .flag false => scalar ['f', 'a', 'l', 's', 'e']
  | .text s => scalar (quoted s)
  | .list items => list (ofItems items)
  | .object members => object (ofMembers members)

def ofItems : List Json → List Document
  | [] => []
  | item :: items => ofJson item :: ofItems items

def ofMembers : List (String × Json) → List (List Char × Document)
  | [] => []
  | (key, value) :: members => (quoted key, ofJson value) :: ofMembers members

end

theorem ofItems_eq_map (items : List Json) : ofItems items = items.map ofJson := by
  induction items with
  | nil => rfl
  | cons item items ih => simp [ofItems, ih]

theorem ofMembers_eq_map (members : List (String × Json)) :
    ofMembers members = members.map fun m => (quoted m.1, ofJson m.2) := by
  induction members with
  | nil => rfl
  | cons m members ih => simp [ofMembers, ih]

theorem length_tokens_pos (doc : Document) : 0 < doc.tokens.length := by
  cases doc <;> simp [tokens]

theorem length_le_itemTokens (first : Bool) (items : List Document) :
    items.length ≤ (itemTokens first items).length := by
  induction items generalizing first with
  | nil => simp
  | cons item items ih =>
    have := item.length_tokens_pos
    have := ih false
    simp only [itemTokens, List.length_append, List.length_cons]
    omega

theorem length_le_memberTokens (first : Bool) (members : List (List Char × Document)) :
    members.length ≤ (memberTokens first members).length := by
  induction members generalizing first with
  | nil => simp
  | cons m members ih =>
    have := ih false
    simp only [memberTokens, List.length_append, List.length_cons]
    omega

end Document

theorem skipBlanks_of_visible {c : Char} (h : isBlank c = false) (cs : List Char) :
    skipBlanks (c :: cs) = c :: cs :=
  List.dropWhile_cons_of_neg (by simp [h])

/-- A text of these tokens with blanks wherever there may be some. -/
inductive Spaced : List (List Char) → List Char → Prop
  | nil {blanks : List Char} (h : ∀ c ∈ blanks, isBlank c) : Spaced [] blanks
  | cons {blanks token cs : List Char} {tokens : List (List Char)} (h : ∀ c ∈ blanks, isBlank c)
      (some : token ≠ []) (rest : Spaced tokens cs) :
      Spaced (token :: tokens) (blanks ++ (token ++ cs))

/-- The text is the document with some white space. -/
def Document.WrittenAs (doc : Document) (text : String) : Prop := Spaced doc.tokens text.toList

namespace Spaced

variable {tokens : List (List Char)} {token blanks cs : List Char} {c : Char}

theorem token_append (h : Spaced tokens cs) (some : token ≠ []) :
    Spaced (token :: tokens) (token ++ cs) := by
  simpa using cons (List.forall_mem_nil _) some h

theorem mark_append (h : Spaced tokens cs) (c : Char) : Spaced ([c] :: tokens) (c :: cs) :=
  h.token_append (List.cons_ne_nil c [])

theorem blanks_append (h : Spaced tokens cs) (blank : ∀ c ∈ blanks, isBlank c) :
    Spaced tokens (blanks ++ cs) := by
  cases h with
  | nil other => exact nil fun c mem => (List.mem_append.1 mem).elim (blank c) (other c)
  | cons other some rest =>
    rw [← List.append_assoc]
    exact cons (fun c mem => (List.mem_append.1 mem).elim (blank c) (other c)) some rest

/-- Looks for the tokens one after the other. -/
def check : List (List Char) → List Char → Bool
  | [], cs => (skipBlanks cs).isEmpty
  | token :: tokens, cs =>
    !token.isEmpty && token.isPrefixOf (skipBlanks cs) &&
      check tokens ((skipBlanks cs).drop token.length)

theorem of_check (h : check tokens cs) : Spaced tokens cs := by
  have blank (cs : List Char) : ∀ c ∈ cs.takeWhile isBlank, isBlank c :=
    fun _ => List.mem_takeWhile_imp
  induction tokens generalizing cs with
  | nil =>
    have none : cs.dropWhile isBlank = [] := by simpa [check, skipBlanks] using h
    rw [← List.takeWhile_append_dropWhile (p := isBlank) (l := cs), none, List.append_nil]
    exact nil (blank cs)
  | cons token tokens ih =>
    simp only [check, Bool.and_eq_true, Bool.not_eq_true', List.isEmpty_eq_false_iff,
      List.isPrefixOf_iff_prefix] at h
    obtain ⟨⟨some, tail, split⟩, later⟩ := h
    rw [← split, List.drop_left] at later
    have whole : cs = cs.takeWhile isBlank ++ (token ++ tail) := by
      rw [split, skipBlanks, List.takeWhile_append_dropWhile]
    rw [whole]
    exact cons (blank cs) some (ih later)

theorem length_le (h : Spaced tokens cs) : tokens.length ≤ cs.length := by
  induction h with
  | nil => simp
  | cons _ some _ ih =>
    have := List.length_pos_iff.2 some
    simp only [List.length_cons, List.length_append]
    omega

theorem skipBlanks_nil (h : Spaced [] cs) : skipBlanks cs = [] := by
  cases h with
  | nil blank => rw [skipBlanks, ← List.append_nil cs, List.dropWhile_append_of_pos blank]; rfl

/-- Blanks are skipped up to the next token. -/
theorem skipBlanks_cons (h : Spaced ((c :: token) :: tokens) cs) (visible : isBlank c = false) :
    ∃ rest, skipBlanks cs = c :: (token ++ rest) ∧ Spaced tokens rest := by
  cases h with
  | @cons _ _ rest _ blank _ later =>
    refine ⟨rest, ?_, later⟩
    rw [skipBlanks, List.dropWhile_append_of_pos blank]
    exact skipBlanks_of_visible visible _

/-- What may stand behind a value. -/
def Follow (tokens : List (List Char)) : Prop :=
  ∀ t ∈ tokens.head?, t = [','] ∨ t = [']'] ∨ t = ['\x7d']

/-- No number runs into what follows a value. -/
theorem ends (h : Spaced tokens cs) (follow : Follow tokens) : Numeral.Ends cs := by
  have blank_ends : ∀ {c : Char}, isBlank c → c.isDigit = false ∧ c ≠ '.' ∧ c ≠ 'e' ∧ c ≠ 'E' := by
    intro c blank
    simp only [isBlank, Bool.or_eq_true, beq_iff_eq, or_assoc] at blank
    rcases blank with rfl | rfl | rfl | rfl <;> decide
  intro c mem
  cases h with
  | nil blank => exact blank_ends (blank c (List.mem_of_mem_head? mem))
  | @cons blanks token _ _ blank _ _ =>
    cases blanks with
    | cons b blanks =>
      obtain rfl : b = c := by simpa using mem
      exact blank_ends (blank b (by simp))
    | nil =>
      rcases follow token (by simp) with rfl | rfl | rfl <;>
        (obtain rfl : _ = c := by simpa using mem) <;> decide

end Spaced

/-! Values are written with the tokens of their documents. -/

theorem isBlank_lineStart (depth : Nat) : ∀ c ∈ lineStart depth, isBlank c := by
  intro c mem
  rcases List.mem_cons.1 mem with rfl | mem
  · rfl
  · rw [List.eq_of_mem_replicate mem]; rfl

theorem spaced_member (key : String) (depth : Nat) {value : List (List Char)} {cs : List Char}
    (h : Spaced value cs) :
    Spaced (quoted key :: [':'] :: value) (lineStart depth ++ (quoted key ++ ':' :: ' ' :: cs)) := by
  have blank : Spaced value (' ' :: cs) := h.blanks_append (List.forall_mem_singleton.2 rfl)
  have some : quoted key ≠ [] := List.cons_ne_nil _ _
  exact ((blank.mark_append ':').token_append some).blanks_append (isBlank_lineStart depth)

open Document in
mutual

theorem spaced_print (j : Json) (depth : Nat) {rest : List (List Char)} {cs : List Char}
    (h : Spaced rest cs) : Spaced ((ofJson j).tokens ++ rest) (j.print depth ++ cs) := by
  match j with
  | .null => exact h.token_append (by simp)
  | .flag true => exact h.token_append (by simp)
  | .flag false => exact h.token_append (by simp)
  | .text s => exact h.token_append (by simp [quoted])
  | .list [] =>
    exact (h.mark_append ']').mark_append '['
  | .list (item :: items) =>
    have close := (h.mark_append ']').blanks_append (isBlank_lineStart depth)
    have later := spaced_printItems items (depth + 1) close
    have here := (spaced_print item (depth + 1) later).blanks_append (isBlank_lineStart (depth + 1))
    simpa [ofJson, ofItems, tokens, itemTokens, separator, print] using
      here.mark_append '['
  | .object [] =>
    exact (h.mark_append '\x7d').mark_append '\x7b'
  | .object ((key, value) :: members) =>
    have close := (h.mark_append '\x7d').blanks_append (isBlank_lineStart depth)
    have later := spaced_printMembers members (depth + 1) close
    have here := spaced_member key (depth + 1) (spaced_print value (depth + 1) later)
    simpa [ofJson, ofMembers, tokens, memberTokens, separator, print] using
      here.mark_append '\x7b'

theorem spaced_printItems (items : List Json) (depth : Nat) {rest : List (List Char)}
    {cs : List Char} (h : Spaced rest cs) :
    Spaced (itemTokens false (ofItems items) ++ rest) (printItems depth items ++ cs) := by
  match items with
  | [] => exact h
  | item :: items =>
    have later := spaced_printItems items depth h
    have here := (spaced_print item depth later).blanks_append (isBlank_lineStart depth)
    simpa [ofItems, itemTokens, separator, printItems] using
      here.mark_append ','

theorem spaced_printMembers (members : List (String × Json)) (depth : Nat)
    {rest : List (List Char)} {cs : List Char} (h : Spaced rest cs) :
    Spaced (memberTokens false (ofMembers members) ++ rest) (printMembers depth members ++ cs) := by
  match members with
  | [] => exact h
  | (key, value) :: members =>
    have later := spaced_printMembers members depth h
    have here := spaced_member key depth (spaced_print value depth later)
    simpa [ofMembers, memberTokens, separator, printMembers] using
      here.mark_append ','

end

/-- Writing a value over several lines writes its document. -/
theorem writtenAs_pretty (j : Json) : (Document.ofJson j).WrittenAs j.pretty := by
  have written := spaced_print j 0 (.nil (List.forall_mem_nil _))
  simpa [Document.WrittenAs, pretty] using written

end Registrar.Json
