/-! Lists without repetition. An element keeps the place at which it came first. -/
namespace Registrar

structure OrderedSet (α : Type) where
  toList : List α
  nodup : toList.Nodup
  deriving DecidableEq

namespace OrderedSet

variable {α : Type}

def empty : OrderedSet α := ⟨[], List.nodup_nil⟩

instance : Inhabited (OrderedSet α) := ⟨empty⟩

@[simp] theorem toList_empty : (empty : OrderedSet α).toList = [] := rfl

theorem eq_of_toList {s t : OrderedSet α} (h : s.toList = t.toList) : s = t := by
  cases s
  cases t
  cases h
  rfl

variable [DecidableEq α]

/-- Adds an element at the end unless it is there already. -/
def insert (s : OrderedSet α) (a : α) : OrderedSet α :=
  if h : a ∈ s.toList then s
  else ⟨s.toList ++ [a], by
    simpa [List.nodup_append, s.nodup] using fun b hb (e : b = a) => h (e ▸ hb)⟩

def ofList (as : List α) : OrderedSet α := as.foldl insert empty

/-- The place of an element, which is added at the end if it has none. -/
def intern (s : OrderedSet α) (a : α) : Nat × OrderedSet α :=
  match s.toList.idxOf? a with
  | some place => (place, s)
  | none => (s.toList.length, s.insert a)

theorem toList_insert (s : OrderedSet α) (a : α) :
    (s.insert a).toList = if a ∈ s.toList then s.toList else s.toList ++ [a] := by
  unfold insert; split <;> simp_all

@[simp] theorem mem_insert (s : OrderedSet α) (a b : α) :
    b ∈ (s.insert a).toList ↔ b ∈ s.toList ∨ b = a := by
  rw [toList_insert]; split
  · exact ⟨.inl, fun h => h.elim id fun e => by simp_all⟩
  · simp

/-- A set grows at its end. -/
theorem prefix_insert (s : OrderedSet α) (a : α) : s.toList <+: (s.insert a).toList := by
  rw [toList_insert]
  split
  · exact List.prefix_rfl
  · exact List.prefix_append ..

theorem prefix_foldl_insert (s : OrderedSet α) (as : List α) :
    s.toList <+: (as.foldl insert s).toList := by
  induction as generalizing s with
  | nil => exact List.prefix_rfl
  | cons a as ih => exact (s.prefix_insert a).trans (ih (s.insert a))

theorem eraseDups_of_nodup {as : List α} (h : as.Nodup) : as.eraseDups = as := by
  induction as with
  | nil => rfl
  | cons a as ih =>
    obtain ⟨new, rest⟩ := List.nodup_cons.1 h
    have others : as.filter (fun b => !b == a) = as :=
      List.filter_eq_self.2 fun b mem => by simpa using fun same : b = a => new (same ▸ mem)
    rw [List.eraseDups_cons, others, ih rest]

/-- What is there already need not be added. -/
theorem eraseDups_append_cons (as bs : List α) (a : α) :
    (as ++ a :: bs).eraseDups = ((if a ∈ as then as else as ++ [a]) ++ bs).eraseDups := by
  split
  next old =>
    rw [List.eraseDups_append, List.eraseDups_append, List.cons_removeAll]
    simp [old]
  next => rw [List.append_assoc, List.singleton_append]

/-- Elements keep the place at which they came first. -/
theorem toList_foldl_insert (s : OrderedSet α) (as : List α) :
    (as.foldl insert s).toList = (s.toList ++ as).eraseDups := by
  induction as generalizing s with
  | nil => rw [List.append_nil, eraseDups_of_nodup s.nodup, List.foldl_nil]
  | cons a as ih => rw [List.foldl_cons, ih, toList_insert, eraseDups_append_cons]

theorem mem_foldl_insert (s : OrderedSet α) (as : List α) (a : α) :
    a ∈ (as.foldl insert s).toList ↔ a ∈ s.toList ∨ a ∈ as := by
  rw [toList_foldl_insert, List.mem_eraseDups, List.mem_append]

/-- The elements of a set make the set again. -/
@[simp] theorem ofList_toList (s : OrderedSet α) : ofList s.toList = s :=
  eq_of_toList ((toList_foldl_insert empty s.toList).trans (eraseDups_of_nodup s.nodup))

end OrderedSet
end Registrar
