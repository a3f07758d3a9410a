import Mathlib.Data.List.Induction
import Mathlib.Data.List.Nodup
import Mathlib.Data.List.Perm.Subperm
import Mathlib.Algebra.BigOperators.Group.List.Basic
import Mathlib.Algebra.GroupWithZero.Nat

/-! Lists in which each element is kept once, at the place where it came first. -/
namespace Registrar

variable {α : Type} [DecidableEq α]

/-- What comes once more is not kept again. -/
theorem eraseDups_concat (as : List α) (a : α) :
    (as ++ [a]).eraseDups = if a ∈ as then as.eraseDups else as.eraseDups ++ [a] := by
  rw [List.eraseDups_append, List.cons_removeAll]
  by_cases h : a ∈ as
  · simp [h, List.removeAll]
  · simp [h, List.removeAll, List.eraseDups_cons]

/-- The elements stand in the order in which they came first. -/
theorem pairwise_eraseDups (as : List α) :
    as.eraseDups.Pairwise fun a b => as.idxOf a < as.idxOf b := by
  induction as using List.reverseRecOn with
  | nil => exact .nil
  | append_singleton as a ih =>
    have earlier : as.eraseDups.Pairwise fun b c => (as ++ [a]).idxOf b < (as ++ [a]).idxOf c := by
      refine ih.imp_of_mem fun hb hc lt => ?_
      rw [List.mem_eraseDups] at hb hc
      rwa [List.idxOf_append_of_mem hb, List.idxOf_append_of_mem hc]
    rw [eraseDups_concat]
    split
    case isTrue => exact earlier
    case isFalse new =>
      refine List.pairwise_append.2 ⟨earlier, List.pairwise_singleton _ _, fun b hb c hc => ?_⟩
      rw [List.mem_eraseDups] at hb
      obtain rfl := List.mem_singleton.1 hc
      rw [List.idxOf_append_of_mem hb, List.idxOf_append_of_notMem new]
      have := List.idxOf_lt_length_of_mem hb
      omega

theorem nodup_eraseDups (as : List α) : as.eraseDups.Nodup := by
  refine (pairwise_eraseDups as).imp fun {a b} lt same => ?_
  subst same
  exact Nat.lt_irrefl _ lt

/-- What holds at least some distinct elements is at least as large as these are together, and as
large only if it has each of them once and nothing else. -/
theorem sum_map_le_of_subset {distinct as : List α} (size : α → ℕ) (positive : ∀ a, 0 < size a)
    (nodup : distinct.Nodup) (subset : distinct ⊆ as) :
    (distinct.map size).sum ≤ (as.map size).sum ∧
      ((distinct.map size).sum = (as.map size).sum ↔ as.Perm distinct) := by
  obtain ⟨part, same, sub⟩ := nodup.subperm subset
  obtain ⟨others, split⟩ := sub.exists_perm_append
  have whole : as.Perm (distinct ++ others) := split.trans (same.append_right others)
  have total : (as.map size).sum = (distinct.map size).sum + (others.map size).sum := by
    rw [(whole.map size).sum_eq, List.map_append, List.sum_append]
  refine ⟨by omega, fun equal => ?_, fun perm => ((perm.map size).sum_eq).symm⟩
  cases others with
  | nil => simpa using whole
  | cons a others =>
    have := positive a
    simp only [List.map_cons, List.sum_cons] at total
    omega

end Registrar
