import Registrar.Proofs.Running.Site

/-! How blocks run one behind the other, and what an emission that cannot fail leaves behind: its
result, its instructions and the next free number, for each way of putting emissions together. -/
namespace Registrar

variable {σ α β : Type}

/-! ### Blocks one behind the other -/

namespace Block

variable {env : Context σ} {i : Instruction} {is js : Block} {m m' : Machine σ}

theorem exec_cons_of_ok (h : Instruction.exec env i m = (.ok none, m')) :
    Block.exec env (i :: is) m = Block.exec env is m' := by
  rw [Block.exec, bind_apply_of_ok h]

theorem exec_cons_of_error {e : Halt} (h : Instruction.exec env i m = (.error e, m')) :
    Block.exec env (i :: is) m = (.error e, m') := by
  rw [Block.exec, bind_apply_of_error h]

theorem exec_cons_of_leave {x : Value} (h : Instruction.exec env i m = (.ok (some x), m')) :
    Block.exec env (i :: is) m = (.ok (some x), m') := by
  rw [Block.exec, bind_apply_of_ok h]
  rfl

theorem exec_singleton (i : Instruction) (m : Machine σ) :
    Block.exec env [i] m = Instruction.exec env i m := by
  rcases h : Instruction.exec env i m with ⟨e | x | _, m'⟩
  · exact exec_cons_of_error h
  · exact exec_cons_of_ok h
  · exact exec_cons_of_leave h

theorem exec_append_of_ok (h : Block.exec env is m = (.ok none, m')) :
    Block.exec env (is ++ js) m = Block.exec env js m' := by
  induction is generalizing m with
  | nil =>
    rw [Block.exec, pure_apply] at h
    cases h
    rfl
  | cons i is ih =>
    rw [List.cons_append]
    rcases first : Instruction.exec env i m with ⟨e | x | _, m₁⟩
    · rw [exec_cons_of_error first] at h
      cases h
    · rw [exec_cons_of_ok first] at h ⊢
      exact ih h
    · rw [exec_cons_of_leave first] at h
      cases h

theorem exec_append_of_error {e : Halt} (h : Block.exec env is m = (.error e, m')) :
    Block.exec env (is ++ js) m = (.error e, m') := by
  induction is generalizing m with
  | nil =>
    rw [Block.exec, pure_apply] at h
    cases h
  | cons i is ih =>
    rw [List.cons_append]
    rcases first : Instruction.exec env i m with ⟨e | x | _, m₁⟩
    · rw [exec_cons_of_error first] at h ⊢
      exact h
    · rw [exec_cons_of_ok first] at h ⊢
      exact ih h
    · rw [exec_cons_of_leave first] at h
      cases h

theorem exec_append_of_leave {x : Value} (h : Block.exec env is m = (.ok (some x), m')) :
    Block.exec env (is ++ js) m = (.ok (some x), m') := by
  induction is generalizing m with
  | nil =>
    rw [Block.exec, pure_apply] at h
    cases h
  | cons i is ih =>
    rw [List.cons_append]
    rcases first : Instruction.exec env i m with ⟨e | x | _, m₁⟩
    · rw [exec_cons_of_error first] at h
      cases h
    · rw [exec_cons_of_ok first] at h ⊢
      exact ih h
    · rw [exec_cons_of_leave first] at h ⊢
      exact h

end Block

namespace Instruction

variable {env : Context σ} {body handler : Block} {caught : ValueId} {m m' : Machine σ}

/-- A region that handles every fault gives each to its handler. -/
theorem exec_isolate_of_fault {f : Fault} (h : Block.exec env body m = (.error (.fault f), m')) :
    Instruction.exec env (.isolate body throwable caught handler) m =
      Block.exec env handler ⟨m'.frame.set caught (.throwable f), m'.world⟩ := by
  rw [Instruction.exec]
  simp only [h]
  rfl

theorem exec_isolate_of_ne {r : Except Halt (Option Value)} {exceptionType : String}
    (h : Block.exec env body m = (r, m')) (ne : ∀ f, r ≠ .error (.fault f)) :
    Instruction.exec env (.isolate body exceptionType caught handler) m = (r, m') := by
  rw [Instruction.exec]
  simp only [h]
  split
  · rename_i f _ e
    cases e
    exact absurd rfl (ne f)
  · rfl

end Instruction

/-! ### Emissions that cannot fail -/

namespace Emit

/-- What an emission that cannot fail results in. -/
def value (x : Emit Empty α) (n : Nat) : α :=
  match (x n).result with
  | .ok a => a

theorem result_eq (x : Emit Empty α) (n : Nat) : (x n).result = .ok (x.value n) := by
  unfold value
  split
  assumption

variable (x : Emit Empty α) (f : α → Emit Empty β) (n : Nat)

@[simp] theorem value_pure (a : α) : (pure a : Emit Empty α).value n = a := rfl

@[simp] theorem value_fill (i : ValueId → Instruction) :
    (fill i : Emit Empty ValueId).value n = ⟨n.toUInt32⟩ := rfl

@[simp] theorem value_bind : (x >>= f).value n = (f (x.value n)).value (x n).next := by
  have h := result_eq (x >>= f) n
  rw [bind_run_of_ok (result_eq x n), result_eq] at h
  exact (Except.ok.inj h).symm

@[simp] theorem next_bind : ((x >>= f) n).next = (f (x.value n) (x n).next).next := by
  rw [bind_run_of_ok (result_eq x n)]

@[simp] theorem block_bind :
    ((x >>= f) n).block = (x n).block ++ (f (x.value n) (x n).next).block := by
  rw [bind_run_of_ok (result_eq x n)]

theorem next_le_bind : (x n).next ≤ ((x >>= f) n).next := by
  rw [next_bind]
  exact (f (x.value n)).le_next _

@[simp] theorem value_nested (x : Emit Empty Unit) : (nested x).value n = (x n).block := by
  have h := result_eq (nested x) n
  simp only [nested, result_eq x n, Except.map] at h
  exact (Except.ok.inj h).symm

@[simp] theorem next_nested (x : Emit Empty Unit) : (nested x n).next = (x n).next := rfl

@[simp] theorem block_nested (x : Emit Empty Unit) : (nested x n).block = [] := rfl

@[simp] theorem value_alloc : (alloc : Emit Empty ValueId).value n = ⟨n.toUInt32⟩ := rfl

@[simp] theorem next_alloc : ((alloc : Emit Empty ValueId) n).next = n + 1 := rfl

@[simp] theorem block_alloc : ((alloc : Emit Empty ValueId) n).block = [] := rfl

section

variable (exceptionType : String) (body : Emit Empty Unit) (handler : ValueId → Emit Empty Unit)

@[simp] theorem next_isolate : (isolate exceptionType body handler n).next =
    (handler ⟨(body n).next.toUInt32⟩ ((body n).next + 1)).next := by
  simp [isolate]

@[simp] theorem block_isolate : (isolate exceptionType body handler n).block =
    [.isolate (body n).block exceptionType ⟨(body n).next.toUInt32⟩
      (handler ⟨(body n).next.toUInt32⟩ ((body n).next + 1)).block] := by
  simp [isolate]

end

section

variable (condition : ValueId) (onTrue onFalse : Emit Empty Unit)

@[simp] theorem next_branch :
    (branch condition onTrue onFalse n).next = (onFalse (onTrue n).next).next := by
  simp [branch]

@[simp] theorem block_branch : (branch condition onTrue onFalse n).block =
    [.branch condition (onTrue n).block (onFalse (onTrue n).next).block] := by
  simp [branch]

end

section

variable {ι : Type}

/-- A loop takes a number at least for each of its items. -/
theorem length_le_next_forM {f : ι → Emit Empty Unit} (takes : ∀ a n, n < (f a n).next)
    (as : List ι) (n : Nat) : n + as.length ≤ (as.forM f n).next := by
  induction as generalizing n with
  | nil => exact le_rfl
  | cons a as ih =>
    have first := takes a n
    have rest := ih (f a n).next
    change n + (as.length + 1) ≤ ((f a >>= fun _ => as.forM f) n).next
    rw [next_bind]
    omega

theorem length_value_mapM {f : ι → Emit Empty α} (takes : ∀ a n, n < (f a n).next)
    (as : List ι) (n : Nat) : n + ((as.mapM f).value n).length ≤ (as.mapM f n).next := by
  induction as generalizing n with
  | nil => exact le_rfl
  | cons a as ih =>
    have first := takes a n
    have rest := ih (f a n).next
    simp only [List.mapM_cons, next_bind, value_bind, value_pure, pure_run, List.length_cons]
    omega

end

end Emit

end Registrar
