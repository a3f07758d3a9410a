import Mathlib.Data.List.Basic

/-! Reading a text from its front. A text is cut at a character that its first part does not have,
and a number ends where its digits end. -/
namespace Registrar.Text

variable {α : Type} {a b s t : List α}

/-- What has a property up to where it is lost for the first time. -/
theorem span_inj {p : α → Prop} (ha : ∀ x ∈ a, p x) (hb : ∀ x ∈ b, p x)
    (hs : ∀ x ∈ s.head?, ¬p x) (ht : ∀ x ∈ t.head?, ¬p x) (same : a ++ s = b ++ t) :
    a = b ∧ s = t := by
  induction a generalizing b with
  | nil =>
    cases b with
    | nil => exact ⟨rfl, same⟩
    | cons x b =>
      rw [List.nil_append] at same
      exact absurd (hb x List.mem_cons_self) (hs x (by simp [same]))
  | cons x a ih =>
    cases b with
    | nil =>
      rw [List.nil_append] at same
      exact absurd (ha x List.mem_cons_self) (ht x (by simp [← same]))
    | cons y b =>
      obtain ⟨rfl, rest⟩ := List.cons.inj same
      obtain ⟨rfl, rfl⟩ := ih (fun x h => ha x (List.mem_cons_of_mem _ h))
        (fun x h => hb x (List.mem_cons_of_mem _ h)) rest
      exact ⟨rfl, rfl⟩

/-- What stands before the first occurrence of an element, and what stands behind it. -/
theorem cut_inj {c : α} (ha : c ∉ a) (hb : c ∉ b) (same : a ++ c :: s = b ++ c :: t) :
    a = b ∧ s = t := by
  have ne {l : List α} (absent : c ∉ l) : ∀ x ∈ l, x ≠ c := fun x listed h => absent (h ▸ listed)
  obtain ⟨front, behind⟩ := span_inj (ne ha) (ne hb) (by simp) (by simp) same
  exact ⟨front, (List.cons.inj behind).2⟩

/-- The same from the end. -/
theorem cut_last_inj {c : α} (hs : c ∉ s) (ht : c ∉ t) (same : a ++ c :: s = b ++ c :: t) :
    a = b ∧ s = t := by
  have reversed : s.reverse ++ c :: a.reverse = t.reverse ++ c :: b.reverse := by
    simpa using congrArg List.reverse same
  obtain ⟨behind, front⟩ := cut_inj (by simpa using hs) (by simpa using ht) reversed
  exact ⟨List.reverse_injective front, List.reverse_injective behind⟩

/-- Behind the first part stands nothing or the separator. -/
theorem join_cons (c : α) (sep x : List α) (as : List (List α)) :
    (c :: sep).intercalate (x :: as) =
      x ++ if as = [] then [] else c :: (sep ++ (c :: sep).intercalate as) := by
  cases as with
  | nil => simp
  | cons y as => simp [List.intercalate_cons_cons]

theorem not_mem_join {c d : α} {sep : List α} {as : List (List α)} (hs : d ∉ c :: sep)
    (ha : ∀ x ∈ as, d ∉ x) : d ∉ (c :: sep).intercalate as := by
  induction as with
  | nil => simp
  | cons x as ih =>
    have first := ha x List.mem_cons_self
    have rest := ih fun y h => ha y (List.mem_cons_of_mem _ h)
    rw [join_cons]
    split <;> simp_all

/-- Parts that are not empty, joined by a separator whose first element none of them has. -/
theorem join_inj {c : α} {sep : List α} {as bs : List (List α)}
    (ha : ∀ x ∈ as, x ≠ [] ∧ c ∉ x) (hb : ∀ x ∈ bs, x ≠ [] ∧ c ∉ x)
    (same : (c :: sep).intercalate as = (c :: sep).intercalate bs) : as = bs := by
  induction as generalizing bs with
  | nil =>
    cases bs with
    | nil => rfl
    | cons y bs =>
      rw [join_cons, List.intercalate_nil] at same
      exact absurd (List.append_eq_nil_iff.1 same.symm).1 (hb y List.mem_cons_self).1
  | cons x as ih =>
    cases bs with
    | nil =>
      rw [join_cons, List.intercalate_nil] at same
      exact absurd (List.append_eq_nil_iff.1 same).1 (ha x List.mem_cons_self).1
    | cons y bs =>
      have ne {l : List α} (absent : c ∉ l) : ∀ x ∈ l, x ≠ c := fun x listed h => absent (h ▸ listed)
      -- Behind the first part stands the separator, or nothing if it is the last one.
      have stops (as : List (List α)) :
          ∀ z ∈ (if as = [] then [] else c :: (sep ++ (c :: sep).intercalate as)).head?, ¬z ≠ c := by
        split <;> simp
      rw [join_cons, join_cons] at same
      obtain ⟨rfl, rest⟩ := span_inj (ne (ha x List.mem_cons_self).2) (ne (hb y List.mem_cons_self).2)
        (stops as) (stops bs) same
      split at rest <;> split at rest
      · simp_all
      · cases rest
      · cases rest
      · have tails := List.append_cancel_left (List.cons.inj rest).2
        rw [ih (fun z h => ha z (List.mem_cons_of_mem _ h))
          (fun z h => hb z (List.mem_cons_of_mem _ h)) tails]

/-- Parts that are read one after the other. -/
theorem flatMap_inj {β : Type} {f : β → List α} {p : β → Prop} (filled : ∀ x, f x ≠ [])
    (read : ∀ {x y s t}, p x → p y → f x ++ s = f y ++ t → x = y ∧ s = t) {xs ys : List β}
    (hx : ∀ x ∈ xs, p x) (hy : ∀ y ∈ ys, p y) (same : xs.flatMap f = ys.flatMap f) : xs = ys := by
  induction xs generalizing ys with
  | nil =>
    cases ys with
    | nil => rfl
    | cons y ys =>
      rw [List.flatMap_nil, List.flatMap_cons] at same
      exact absurd (List.append_eq_nil_iff.1 same.symm).1 (filled y)
  | cons x xs ih =>
    cases ys with
    | nil =>
      rw [List.flatMap_nil, List.flatMap_cons] at same
      exact absurd (List.append_eq_nil_iff.1 same).1 (filled x)
    | cons y ys =>
      rw [List.flatMap_cons, List.flatMap_cons] at same
      obtain ⟨rfl, rest⟩ := read (hx x List.mem_cons_self) (hy y List.mem_cons_self) same
      rw [ih (fun z h => hx z (List.mem_cons_of_mem _ h))
        (fun z h => hy z (List.mem_cons_of_mem _ h)) rest]

/-! ### Numbers -/

theorem toList_toString (n : Nat) : (toString n).toList = Nat.toDigits 10 n := Nat.toList_repr

theorem isDigit_of_mem {n : Nat} {c : Char} (h : c ∈ Nat.toDigits 10 n) : c.isDigit :=
  Nat.isDigit_of_mem_toDigits (by decide) (by decide) h

theorem toDigits_inj {i j : Nat} (same : Nat.toDigits 10 i = Nat.toDigits 10 j) : i = j := by
  simpa using congrArg (Nat.ofDigitChars 10 · 0) same

/-- A number is read up to the first character that is no digit. -/
theorem number_inj {i j : Nat} {s t : List Char} (hs : ∀ c ∈ s.head?, ¬c.isDigit)
    (ht : ∀ c ∈ t.head?, ¬c.isDigit) (same : Nat.toDigits 10 i ++ s = Nat.toDigits 10 j ++ t) :
    i = j ∧ s = t := by
  obtain ⟨digits, rest⟩ :=
    span_inj (p := (·.isDigit)) (fun _ => isDigit_of_mem) (fun _ => isDigit_of_mem) hs ht same
  exact ⟨toDigits_inj digits, rest⟩

end Registrar.Text
