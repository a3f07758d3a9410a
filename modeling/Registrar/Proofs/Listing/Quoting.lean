import Registrar.Text.Quoted
import Registrar.Proofs.Listing.Cutting

/-! Quoted text. Each character is written in one of three ways, which can be told apart from the
front, so the text can be read back; and it stays on its line. -/
namespace Registrar.Text

theorem digitChar_inj : ∀ i < 16, ∀ j < 16, i.digitChar = j.digitChar → i = j := by decide

theorem hexDigits_of_lt {n : Nat} (h : n < 16) : hexDigits n = [n.digitChar] :=
  Nat.toDigits_of_lt_base h

theorem hexDigits_of_le {n : Nat} (h : 16 ≤ n) :
    hexDigits n = hexDigits (n / 16) ++ [(n % 16).digitChar] :=
  Nat.toDigits_of_base_le (by decide) h

theorem hexDigits_inj {i j : Nat} (same : hexDigits i = hexDigits j) : i = j := by
  induction i using Nat.strongRecOn generalizing j with
  | ind i ih =>
    have digits (n : Nat) : hexDigits n ≠ [] := Nat.toDigits_ne_nil
    obtain hi | hi := Nat.lt_or_ge i 16 <;> obtain hj | hj := Nat.lt_or_ge j 16
    · rw [hexDigits_of_lt hi, hexDigits_of_lt hj] at same
      exact digitChar_inj i hi j hj (List.singleton_inj.1 same)
    · rw [hexDigits_of_lt hi, hexDigits_of_le hj] at same
      simp [List.singleton_eq_append_iff, digits] at same
    · rw [hexDigits_of_le hi, hexDigits_of_lt hj] at same
      simp [List.append_eq_singleton_iff, digits] at same
    · rw [hexDigits_of_le hi, hexDigits_of_le hj] at same
      obtain ⟨front, last⟩ := List.append_inj' same rfl
      have high := ih (i / 16) (by omega) front
      have low := digitChar_inj _ (Nat.mod_lt i (by decide)) _ (Nat.mod_lt j (by decide))
        (List.singleton_inj.1 last)
      omega

theorem mem_hexDigits {n : Nat} {c : Char} (h : c ∈ hexDigits n) : ∃ k < 16, c = k.digitChar := by
  induction n using Nat.strongRecOn with
  | ind n ih =>
    obtain hn | hn := Nat.lt_or_ge n 16
    · rw [hexDigits_of_lt hn] at h
      exact ⟨n, hn, List.mem_singleton.1 h⟩
    · rw [hexDigits_of_le hn, List.mem_append] at h
      obtain high | low := h
      · exact ih (n / 16) (by omega) high
      · exact ⟨n % 16, by omega, List.mem_singleton.1 low⟩

/-- The digits of a code point end at the brace behind them, on the same line. -/
theorem hexDigits_plain (n : Nat) : '\x7d' ∉ hexDigits n ∧ '\n' ∉ hexDigits n := by
  have plain : ∀ k < 16, '\x7d' ≠ k.digitChar ∧ '\n' ≠ k.digitChar := by decide
  constructor
  all_goals
    intro h
    obtain ⟨k, hk, eq⟩ := mem_hexDigits h
    have := plain k hk
    simp_all

/-- The short escapes, each with the character that it stands for. -/
def shortEscapes : List (Char × Char) :=
  [('\x00', '0'), ('\t', 't'), ('\r', 'r'), ('\n', 'n'), ('"', '"'), ('\\', '\\')]

/-- How a character is written between quotes. -/
inductive Written (c : Char) : List Char → Prop
  | short {e : Char} (h : (c, e) ∈ shortEscapes) : Written c ['\\', e]
  | code : Written c ('\\' :: 'u' :: '\x7b' :: (hexDigits c.toNat ++ ['\x7d']))
  | plain (h : c ≠ '\\' ∧ c ≠ '"' ∧ c ≠ '\n') : Written c [c]

theorem written_quoteChar (c : Char) : Written c (quoteChar c) := by
  unfold quoteChar
  split
  case isTrue h => exact .short (by simp [h, shortEscapes])
  split
  case isTrue h => exact .short (by simp [h, shortEscapes])
  split
  case isTrue h => exact .short (by simp [h, shortEscapes])
  split
  case isTrue h => exact .short (by simp [h, shortEscapes])
  split
  case isTrue h => exact .short (by rcases h with rfl | rfl <;> simp [shortEscapes])
  split
  case isTrue => exact .code
  case isFalse => exact .plain (by tauto)

/-- The ways of writing characters can be told apart from their front. -/
theorem Written.inj {c d : Char} {a b s t : List Char} (ha : Written c a) (hb : Written d b)
    (same : a ++ s = b ++ t) : c = d ∧ s = t := by
  have told : ∀ x ∈ shortEscapes, ∀ y ∈ shortEscapes, x.2 = y.2 → x.1 = y.1 := by decide
  have noCode : ∀ x ∈ shortEscapes, x.2 ≠ 'u' := by decide
  -- The backslash tells escapes from plain characters, and what follows it tells them apart.
  cases ha with
  | short h =>
    cases hb with
    | short h' =>
      simp only [List.cons_append, List.cons.injEq, List.nil_append, true_and] at same
      exact ⟨told _ h _ h' same.1, same.2⟩
    | code =>
      simp only [List.cons_append, List.cons.injEq, true_and] at same
      exact absurd same.1 (noCode _ h)
    | plain h' => exact absurd (List.cons.inj same).1.symm h'.1
  | code =>
    cases hb with
    | short h' =>
      simp only [List.cons_append, List.cons.injEq, true_and] at same
      exact absurd same.1.symm (noCode _ h')
    | code =>
      simp only [List.cons_append, List.cons.injEq, true_and, List.append_assoc,
        List.nil_append] at same
      obtain ⟨digits, rest⟩ := cut_inj (hexDigits_plain _).1 (hexDigits_plain _).1 same
      exact ⟨Char.toNat_inj.1 (hexDigits_inj digits), rest⟩
    | plain h' => exact absurd (List.cons.inj same).1.symm h'.1
  | plain h =>
    cases hb with
    | short h' => exact absurd (List.cons.inj same).1 h.1
    | code => exact absurd (List.cons.inj same).1 h.1
    | plain h' => simpa using same

/-- No character is written like the quote at the end. -/
theorem Written.ne_quote {c : Char} {a s t : List Char} (h : Written c a) : a ++ s ≠ '"' :: t := by
  cases h <;> simp_all

theorem quoted_inj {cs ds s t : List Char}
    (same : cs.flatMap quoteChar ++ '"' :: s = ds.flatMap quoteChar ++ '"' :: t) :
    cs = ds ∧ s = t := by
  induction cs generalizing ds with
  | nil =>
    cases ds with
    | nil => simpa using same
    | cons d ds =>
      rw [List.flatMap_cons, List.append_assoc] at same
      exact absurd same.symm (written_quoteChar d).ne_quote
  | cons c cs ih =>
    rw [List.flatMap_cons, List.append_assoc] at same
    cases ds with
    | nil => exact absurd same (written_quoteChar c).ne_quote
    | cons d ds =>
      rw [List.flatMap_cons, List.append_assoc] at same
      obtain ⟨rfl, rest⟩ := (written_quoteChar c).inj (written_quoteChar d) same
      obtain ⟨rfl, rfl⟩ := ih rest
      exact ⟨rfl, rfl⟩

/-- Quoted texts are the same only if the texts are. -/
theorem quote_inj {s t : String} (same : quote s = quote t) : s = t := by
  have chars := congrArg String.toList same
  simp only [quote, String.toList_ofList, quoteChars, List.cons_append, List.cons.injEq,
    true_and] at chars
  exact String.toList_inj.1 (quoted_inj chars).1

/-- Quoted text stays on its line. -/
theorem Written.line {c : Char} {a : List Char} (h : Written c a) : '\n' ∉ a := by
  have plain : ∀ x ∈ shortEscapes, x.2 ≠ '\n' := by decide
  cases h with
  | short h => simpa using (plain _ h).symm
  | code => simpa using (hexDigits_plain _).2
  | plain h => simpa using h.2.2.symm

theorem quote_line (s : String) : '\n' ∉ (quote s).toList := by
  have plain (c : Char) : '\n' ∉ quoteChar c := (written_quoteChar c).line
  simp [quote, quoteChars, plain]

end Registrar.Text
