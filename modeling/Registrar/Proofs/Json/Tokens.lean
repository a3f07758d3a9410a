import Mathlib.Data.List.Basic
import Registrar.Json.Printing
import Registrar.Json.Skipping

/-! The pieces of JSON text that have no parts, as a grammar. A string may write a character in
several ways; whatever the grammar takes is read as the character that is meant, and skipped where
it is not wanted. -/
namespace Registrar.Json

/-- Four hexadecimal digits and the number that they write. -/
def CodeUnit (digits : List Char) (n : Nat) : Prop :=
  digits.length = 4 ∧ digits.foldlM (fun n c => (hexValue? c).map (16 * n + ·)) 0 = some n

instance (digits : List Char) (n : Nat) : Decidable (CodeUnit digits n) :=
  inferInstanceAs (Decidable (_ ∧ _))

/-- The ways of writing a character between quotes. -/
inductive Letter : List Char → Char → Prop
  | plain {c : Char} (quote : c ≠ '"') (slash : c ≠ '\\') (visible : 0x20 ≤ c.toNat) : Letter [c] c
  | short {c d : Char} (known : shortEscape? c = some d) : Letter ['\\', c] d
  | unit {u : List Char} {n : Nat} (unit : CodeUnit u n) (low : isLowSurrogate n = false)
      (high : isHighSurrogate n = false) : Letter ('\\' :: 'u' :: u) (Char.ofNat n)
  | pair {u v : List Char} {m n : Nat} (first : CodeUnit u m) (low : isLowSurrogate m = false)
      (high : isHighSurrogate m = true) (second : CodeUnit v n) (paired : isLowSurrogate n = true) :
      Letter ('\\' :: 'u' :: u ++ '\\' :: 'u' :: v)
        (Char.ofNat (0x10000 + (m - 0xD800) * 0x400 + (n - 0xDC00)))

/-- A token in quotes and the text that it stands for. -/
def Spells (token : List Char) (s : String) : Prop :=
  ∃ letters : List (List Char × Char), (∀ l ∈ letters, Letter l.1 l.2) ∧
    token = '"' :: (letters.map (·.1)).flatten ++ ['"'] ∧ s = String.ofList (letters.map (·.2))

/-- A piece of a string; surrogates need not come in pairs. -/
inductive Piece : List Char → Prop
  | plain {c : Char} (quote : c ≠ '"') (slash : c ≠ '\\') (visible : 0x20 ≤ c.toNat) : Piece [c]
  | short {c : Char} (known : (shortEscape? c).isSome) : Piece ['\\', c]
  | unit {u : List Char} {n : Nat} (unit : CodeUnit u n) : Piece ('\\' :: 'u' :: u)

/-- A string of the grammar, whether or not it stands for a text. -/
def IsString (token : List Char) : Prop :=
  ∃ pieces : List (List Char), (∀ p ∈ pieces, Piece p) ∧ token = '"' :: pieces.flatten ++ ['"']

def IsDigits (ds : List Char) : Prop := ds ≠ [] ∧ ∀ c ∈ ds, c.isDigit

inductive IsFraction : List Char → Prop
  | none : IsFraction []
  | some {ds : List Char} (digits : IsDigits ds) : IsFraction ('.' :: ds)

inductive IsExponent : List Char → Prop
  | none : IsExponent []
  | some {e : Char} {sign ds : List Char} (letter : e = 'e' ∨ e = 'E')
      (signs : sign ∈ [[], ['+'], ['-']]) (digits : IsDigits ds) : IsExponent (e :: (sign ++ ds))

/-- A number without its sign; it does not start with a zero too many. -/
inductive IsMagnitude : List Char → Prop
  | mk {whole fraction exponent : List Char} (digits : IsDigits whole)
      (zero : ∀ c ds, whole ≠ '0' :: c :: ds) (point : IsFraction fraction)
      (power : IsExponent exponent) : IsMagnitude (whole ++ (fraction ++ exponent))

/-- A value without parts. -/
inductive IsScalar : List Char → Prop
  | null : IsScalar ['n', 'u', 'l', 'l']
  | yes : IsScalar ['t', 'r', 'u', 'e']
  | no : IsScalar ['f', 'a', 'l', 's', 'e']
  | string {token : List Char} (string : IsString token) : IsScalar token
  | positive {token : List Char} (number : IsMagnitude token) : IsScalar token
  | negative {token : List Char} (number : IsMagnitude token) : IsScalar ('-' :: token)

/-! Strings -/

theorem CodeUnit.readHex {u : List Char} {n : Nat} (h : CodeUnit u n) (rest : List Char) :
    readHex (u ++ rest) = .ok (n, rest) := by
  obtain ⟨length, value⟩ := h
  match u, length with
  | [a, b, c, d], _ =>
    simp only [List.foldlM_cons, List.foldlM_nil, Option.pure_def, Option.bind_eq_bind,
      Option.bind_eq_some_iff, Option.map_eq_some_iff, Option.some.injEq] at value
    obtain ⟨_, ⟨i, ha, rfl⟩, _, ⟨j, hb, rfl⟩, _, ⟨k, hc, rfl⟩, _, ⟨l, hd, rfl⟩, rfl⟩ := value
    simp only [Json.readHex, List.cons_append, List.nil_append, ha, hb, hc, hd]
    congr 2
    omega

theorem Letter.ne_nil {l : List Char} {c : Char} (h : Letter l c) : l ≠ [] := by
  cases h <;> simp

theorem Piece.ne_nil {p : List Char} (h : Piece p) : p ≠ [] := by
  cases h <;> simp

/-- One letter takes one step. -/
theorem Letter.readChars {l : List Char} {c : Char} (h : Letter l c) (start : List Char)
    (fuel : Nat) (rest : List Char) :
    readChars start (fuel + 1) (l ++ rest) = readChars (c :: start) fuel rest := by
  cases h with
  | plain quote slash visible =>
    simp [Json.readChars, Nat.not_lt.2 visible]
  | @short e _ known =>
    have other : e ≠ 'u' := by rintro rfl; simp [shortEscape?] at known
    simp [Json.readChars, readEscape, known, bind, Except.bind]
  | unit unit low high =>
    simp [Json.readChars, readEscape, unit.readHex, low, high, bind, Except.bind, pure, Except.pure]
  | pair first low high second paired =>
    simp [Json.readChars, readEscape, readLowSurrogate, first.readHex, second.readHex, low, high,
      paired, bind, Except.bind, pure, Except.pure]

theorem Piece.skipChars {p : List Char} (h : Piece p) (fuel : Nat) (rest : List Char) :
    skipChars (fuel + 1) (p ++ rest) = skipChars fuel rest := by
  cases h with
  | plain quote slash visible => simp [Json.skipChars, Nat.not_lt.2 visible]
  | @short e known =>
    have other : e ≠ 'u' := by rintro rfl; simp [shortEscape?] at known
    simp [Json.skipChars, skipEscape, known, bind, Except.bind]
  | unit unit =>
    simp [Json.skipChars, skipEscape, unit.readHex, bind, Except.bind, Except.map]

/-- Parts that are not empty are no more than their characters. -/
theorem length_le_length_flatten {parts : List (List Char)} (h : ∀ p ∈ parts, p ≠ []) :
    parts.length ≤ parts.flatten.length := by
  induction parts with
  | nil => simp
  | cons p parts ih =>
    have first := List.length_pos_iff.2 (h p (by simp))
    have later := ih fun q mem => h q (by simp [mem])
    simp only [List.length_cons, List.flatten_cons, List.length_append]
    omega

/-- A text has fuel for each of its parts, and some to spare. -/
theorem exists_fuel_flatten {parts : List (List Char)} (h : ∀ p ∈ parts, p ≠ []) (rest : List Char) :
    ∃ fuel, (parts.flatten ++ rest).length + 1 = parts.length + (fuel + 1) := by
  have short := length_le_length_flatten h
  rw [List.length_append]
  exact ⟨parts.flatten.length + rest.length - parts.length, by omega⟩

theorem readChars_letters {letters : List (List Char × Char)} (h : ∀ l ∈ letters, Letter l.1 l.2)
    (start : List Char) (fuel : Nat) (rest : List Char) :
    readChars start (letters.length + (fuel + 1)) ((letters.map (·.1)).flatten ++ '"' :: rest) =
      .ok (String.ofList (start.reverse ++ letters.map (·.2)), rest) := by
  induction letters generalizing start with
  | nil => simp [readChars]
  | cons l letters ih =>
    have later := ih (fun k mem => h k (by simp [mem])) (l.2 :: start)
    have step := (h l (by simp)).readChars start (letters.length + (fuel + 1))
      ((letters.map (·.1)).flatten ++ '"' :: rest)
    simp only [List.length_cons, List.map_cons, List.flatten_cons, List.append_assoc,
      Nat.add_right_comm _ 1 (fuel + 1), step, later, List.reverse_cons, List.singleton_append]

theorem skipChars_pieces {pieces : List (List Char)} (h : ∀ p ∈ pieces, Piece p) (fuel : Nat)
    (rest : List Char) :
    skipChars (pieces.length + (fuel + 1)) (pieces.flatten ++ '"' :: rest) = .ok rest := by
  induction pieces with
  | nil => simp [skipChars]
  | cons p pieces ih =>
    have later := ih fun q mem => h q (by simp [mem])
    have step := (h p (by simp)).skipChars (pieces.length + (fuel + 1))
      (pieces.flatten ++ '"' :: rest)
    simp only [List.length_cons, List.flatten_cons, List.append_assoc,
      Nat.add_right_comm _ 1 (fuel + 1), step, later]

/-- A string is read as the text that it stands for. -/
theorem Spells.readString {token : List Char} {s : String} (h : Spells token s) :
    ∃ t, token = '"' :: t ∧ ∀ rest, readString (t ++ rest) = .ok (s, rest) := by
  obtain ⟨letters, all, rfl, rfl⟩ := h
  refine ⟨(letters.map (·.1)).flatten ++ ['"'], rfl, fun rest => ?_⟩
  have full : ∀ p ∈ letters.map (·.1), p ≠ [] :=
    List.forall_mem_map.2 fun l known => (all l known).ne_nil
  obtain ⟨fuel, enough⟩ := exists_fuel_flatten full ('"' :: rest)
  rw [List.length_map] at enough
  rw [List.append_assoc, List.singleton_append, Json.readString, enough, readChars_letters all]
  simp

theorem IsString.skipString {token : List Char} (h : IsString token) :
    ∃ t, token = '"' :: t ∧ ∀ rest, skipString (t ++ rest) = .ok rest := by
  obtain ⟨pieces, all, rfl⟩ := h
  refine ⟨pieces.flatten ++ ['"'], rfl, fun rest => ?_⟩
  obtain ⟨fuel, enough⟩ := exists_fuel_flatten (fun p mem => (all p mem).ne_nil) ('"' :: rest)
  rw [List.append_assoc, List.singleton_append, Json.skipString, enough, skipChars_pieces all]

/-- A token stands for one text only. -/
theorem Spells.unique {token : List Char} {s t : String} (hs : Spells token s)
    (ht : Spells token t) : s = t := by
  obtain ⟨cs, rfl, read⟩ := hs.readString
  obtain ⟨ds, eq, read'⟩ := ht.readString
  obtain rfl := (List.cons.inj eq).2
  have same := (read []).symm.trans (read' [])
  simpa using same

/-- Writing escapes each character in one of the ways that the grammar knows. -/
theorem letter_escape (c : Char) : Letter (escape c) c := by
  unfold escape
  split_ifs with special backspace tab newline feed return' control
  · exact .short (by rcases special with rfl | rfl <;> rfl)
  all_goals try (subst c; exact .short rfl)
  · have units : ∀ n < 0x20, ∃ u, unicodeEscape n = '\\' :: 'u' :: u ∧ CodeUnit u n := by
      intro n small
      exact ⟨(unicodeEscape n).drop 2, rfl, by revert n; decide⟩
    obtain ⟨u, eq, unit⟩ := units c.toNat control
    rw [eq]
    have low : isLowSurrogate c.toNat = false := by simp [isLowSurrogate]; omega
    have high : isHighSurrogate c.toNat = false := by simp [isHighSurrogate]; omega
    simpa using Letter.unit unit low high
  · simp only [not_or] at special
    exact .plain special.1 special.2 (by omega)

theorem spells_quoted (s : String) : Spells (quoted s) s :=
  ⟨s.toList.map fun c => (escape c, c), by simp [letter_escape], by
    simp [quoted, List.flatMap, Function.comp_def], by simp [Function.comp_def]⟩

/-! Numbers -/

namespace Numeral

/-- What no number goes on with. -/
def Ends (rest : List Char) : Prop :=
  ∀ c ∈ rest.head?, c.isDigit = false ∧ c ≠ '.' ∧ c ≠ 'e' ∧ c ≠ 'E'

theorem someDigits_append {ds rest : List Char} (h : IsDigits ds)
    (ends : ∀ c ∈ rest.head?, c.isDigit = false) (fault : Fault) :
    someDigits fault (ds ++ rest) = .ok (ds, rest) := by
  have stop : rest.takeWhile Char.isDigit = [] ∧ rest.dropWhile Char.isDigit = rest := by
    cases rest with
    | nil => simp
    | cons c rest => simp [ends c (by simp)]
  have taken : (ds ++ rest).takeWhile Char.isDigit = ds ++ rest.takeWhile Char.isDigit :=
    List.takeWhile_append_of_pos h.2
  have dropped : (ds ++ rest).dropWhile Char.isDigit = rest.dropWhile Char.isDigit :=
    List.dropWhile_append_of_pos h.2
  obtain ⟨d, ds, rfl⟩ := List.exists_cons_of_ne_nil h.1
  simp only [stop, List.append_nil, List.cons_append] at taken dropped
  simp [someDigits, span, taken, dropped]

section

variable {rest : List Char} (ends : Ends rest) (fault : Fault)

include ends

theorem head_exponent {power : List Char} (h : IsExponent power) :
    ∀ c ∈ (power ++ rest).head?, c.isDigit = false ∧ c ≠ '.' := by
  cases h with
  | none => exact fun c mem => ⟨(ends c mem).1, (ends c mem).2.1⟩
  | some letter _ _ => rcases letter with rfl | rfl <;> simp

theorem readExponent_append {power : List Char} (h : IsExponent power) :
    ∃ n, readExponent fault (power ++ rest) = .ok (n, rest) := by
  cases h with
  | none =>
    cases rest with
    | nil => exact ⟨0, rfl⟩
    | cons c rest => exact ⟨0, by simp [readExponent, ends c (by simp)]⟩
  | @some e sign ds letter signs digits =>
    have read := someDigits_append digits (fun c mem => (ends c mem).1) fault
    obtain ⟨d, ds, rfl⟩ := List.exists_cons_of_ne_nil digits.1
    have digit : d.isDigit := digits.2 d (by simp)
    have plus : d ≠ '+' := by rintro rfl; simp at digit
    have minus : d ≠ '-' := by rintro rfl; simp at digit
    simp only [List.cons_append] at read
    simp only [List.mem_cons, List.not_mem_nil, or_false] at signs
    rcases signs with rfl | rfl | rfl <;>
      simp [readExponent, letter, read, plus, minus, Except.map]

omit ends in
theorem readFraction_append {fraction : List Char} (h : IsFraction fraction)
    (head : ∀ c ∈ rest.head?, c.isDigit = false ∧ c ≠ '.') :
    (∀ c ∈ (fraction ++ rest).head?, c.isDigit = false) ∧
      ∃ ds, readFraction fault (fraction ++ rest) = .ok (ds, rest) := by
  cases h with
  | none =>
    refine ⟨fun c mem => (head c mem).1, [], ?_⟩
    cases rest with
    | nil => rfl
    | cons c rest => simp [readFraction, head c (by simp)]
  | some digits =>
    have read := someDigits_append digits (fun c mem => (head c mem).1) fault
    exact ⟨by simp, _, by simpa [readFraction] using read⟩

/-- A number is read up to its last character. -/
theorem read_append {token : List Char} (h : IsMagnitude token) :
    ∃ n, read fault (token ++ rest) = .ok (n, rest) := by
  obtain @⟨whole, fraction, power, digits, zero, point, exponent⟩ := h
  obtain ⟨n, third⟩ := readExponent_append ends fault exponent
  obtain ⟨head, ds, second⟩ := readFraction_append fault point (head_exponent ends exponent)
  have first : readWhole fault (whole ++ (fraction ++ (power ++ rest))) =
      .ok (whole, fraction ++ (power ++ rest)) := by
    rw [readWhole, someDigits_append digits head]
    split
    · next c ds _ eq => simp only [Except.ok.injEq, Prod.mk.injEq] at eq; exact absurd eq.1 (zero c ds)
    · rfl
  exact ⟨⟨whole, ds, n⟩, by
    simp [Numeral.read, first, second, third, bind, Except.bind, pure, Except.pure]⟩

end

end Numeral

/-! Scalars -/

/-- How a value may start: not with a blank, and not with what follows one. -/
def Starts (c : Char) : Prop := isBlank c = false ∧ c ≠ ']' ∧ c ≠ '\x7d' ∧ c ≠ ','

instance (c : Char) : Decidable (Starts c) :=
  inferInstanceAs (Decidable (_ ∧ _))

theorem IsMagnitude.head {token : List Char} (h : IsMagnitude token) :
    ∃ c cs, token = c :: cs ∧ c.isDigit := by
  obtain ⟨digits, _, _, _⟩ := h
  obtain ⟨d, ds, rfl⟩ := List.exists_cons_of_ne_nil digits.1
  exact ⟨d, _, rfl, digits.2 d (by simp)⟩

/-- The first character of a scalar tells it from lists and objects. -/
theorem IsScalar.head {token : List Char} (h : IsScalar token) :
    ∃ c cs, token = c :: cs ∧ Starts c ∧ c ≠ '[' ∧ c ≠ '\x7b' := by
  cases h with
  | null => exact ⟨_, _, rfl, by decide⟩
  | yes => exact ⟨_, _, rfl, by decide⟩
  | no => exact ⟨_, _, rfl, by decide⟩
  | string string =>
    obtain ⟨t, rfl, _⟩ := string.skipString
    exact ⟨_, _, rfl, by decide⟩
  | positive number =>
    obtain ⟨c, cs, rfl, digit⟩ := number.head
    have other : ∀ d : Char, d.isDigit = false → c ≠ d := by
      rintro d no rfl
      simp [no] at digit
    exact ⟨c, cs, rfl, by simp [Starts, isBlank, other]⟩
  | negative number => exact ⟨_, _, rfl, by decide⟩

theorem IsScalar.skip {token : List Char} (h : IsScalar token) {rest : List Char}
    (ends : Numeral.Ends rest) : skipScalar (token ++ rest) = .ok rest := by
  cases h with
  | null => rfl
  | yes => rfl
  | no => rfl
  | string string =>
    obtain ⟨t, rfl, skipped⟩ := string.skipString
    rw [List.cons_append, skipScalar, skipped]
  | positive number =>
    obtain ⟨n, read⟩ := Numeral.read_append ends .malformed number
    obtain ⟨c, cs, rfl, digit⟩ := number.head
    rw [List.cons_append] at read ⊢
    unfold skipScalar
    split <;> simp_all [Except.map]
  | negative number =>
    obtain ⟨n, read⟩ := Numeral.read_append ends .malformed number
    simp [skipScalar, read, Except.map]

end Registrar.Json
