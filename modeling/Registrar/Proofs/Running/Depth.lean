import Registrar.Proofs.Running.Unit

/-! How deep own routines may call each other. A run that was not given up takes the same course
when they may call each other deeper. -/
namespace Registrar

variable {σ τ α β : Type}

/-- `g` does what `f` does, unless `f` is given up. -/
def Outlasts (g f : τ → Except Halt α × τ) : Prop :=
  ∀ s, (f s).1 = .error .exhausted ∨ g s = f s

namespace Outlasts

theorem refl (f : τ → Except Halt α × τ) : Outlasts f f := fun _ => .inr rfl

theorem bind {y z : ExceptT Halt (StateM τ) α} {f g : α → ExceptT Halt (StateM τ) β}
    (first : Outlasts z y) (rest : ∀ a, Outlasts (g a) (f a)) : Outlasts (z >>= g) (y >>= f) := by
  intro s
  rcases first s with exhausted | same
  · left
    rcases ran : y s with ⟨r, t⟩
    rw [ran] at exhausted
    cases exhausted
    rw [bind_apply_of_error ran]
  · rcases ran : y s with ⟨halt | a, t⟩
    · right
      rw [bind_apply_of_error ran, bind_apply_of_error (same.trans ran)]
    · rw [bind_apply_of_ok ran, bind_apply_of_ok (same.trans ran)]
      exact rest a t

end Outlasts

/-- The same setting, in which calls of own routines may last longer. -/
structure Context.Outlasts (env' env : Context σ) : Prop where
  self : env'.self = env.self
  host : env'.host = env.host
  call : ∀ routine args, Registrar.Outlasts (env'.call routine args) (env.call routine args)

variable {env env' : Context σ}

namespace Exec

theorem call_outlasts (longer : env'.Outlasts env) (routine : String) (args : List Value) :
    Outlasts (call env' routine args) (call env routine args) := by
  intro m
  rcases longer.call routine args m.world with exhausted | same
  · exact .inl exhausted
  · right
    unfold call
    rw [same]

theorem loadClass_of_outlasts (longer : env'.Outlasts env) (name : String) :
    loadClass env' name = loadClass env name := by
  rw [loadClass, loadClass, longer.self, longer.host]

theorem invoke_outlasts (longer : env'.Outlasts env) (kind : InvokeKind) (m : MethodRef)
    (receiver : Option ValueId) (args : List ValueId) :
    Outlasts (invoke env' kind m receiver args) (invoke env kind m receiver args) := by
  unfold invoke
  rw [longer.self, longer.host]
  refine .bind (.refl _) fun xs => ?_
  split
  · exact call_outlasts longer m.name xs
  · exact .refl _

end Exec

mutual

/-- Only calls of own routines are given up. -/
theorem Instruction.exec_outlasts (longer : env'.Outlasts env) : (i : Instruction) →
    Outlasts (Instruction.exec env' i) (Instruction.exec env i)
  | .const dest c | .param dest index | .newArray dest _ length | .store array index v
  | .declare dest _ | .assign target v | .leave none | .leave (some v) => by
    rw [Instruction.exec, Instruction.exec]
    exact .refl _
  | .loadClass dest name => by
    rw [Instruction.exec, Instruction.exec, Exec.loadClass_of_outlasts longer]
    exact .refl _
  | .newInstance dest name => by
    rw [Instruction.exec, Instruction.exec, longer.host]
    exact .refl _
  | .invoke dest kind m receiver args => by
    rw [Instruction.exec, Instruction.exec]
    exact .bind (Exec.invoke_outlasts longer kind m receiver args) fun x => .refl _
  | .branch condition onTrue onFalse => by
    rw [Instruction.exec, Instruction.exec]
    refine .bind (.refl _) fun x => ?_
    split
    · exact Block.exec_outlasts longer onTrue
    · exact Block.exec_outlasts longer onFalse
    · exact .refl _
  | .isolate body exceptionType caught handler => by
    intro m
    rcases ran : Block.exec env body m with ⟨r, m'⟩
    -- A region does not catch that its body has given up.
    rcases Block.exec_outlasts longer body m with exhausted | same
    · rw [ran] at exhausted
      cases exhausted
      left
      rw [Instruction.exec_isolate_of_ne ran nofun]
    · have ran' := same.trans ran
      by_cases fault : ∃ f, r = .error (.fault f)
      · obtain ⟨f, rfl⟩ := fault
        rw [Instruction.exec, Instruction.exec]
        simp only [ran, ran']
        split
        · exact Outlasts.bind (.refl _) (fun _ => Block.exec_outlasts longer handler) m'
        · exact .inr rfl
      · right
        have ne : ∀ f, r ≠ .error (.fault f) := fun f same => fault ⟨f, same⟩
        rw [Instruction.exec_isolate_of_ne ran ne, Instruction.exec_isolate_of_ne ran' ne]

theorem Block.exec_outlasts (longer : env'.Outlasts env) : (is : List Instruction) →
    Outlasts (Block.exec env' is) (Block.exec env is)
  | [] => by
    rw [Block.exec, Block.exec]
    exact .refl _
  | i :: is => by
    rw [Block.exec, Block.exec]
    refine .bind (Instruction.exec_outlasts longer i) fun x => ?_
    split
    · exact .refl _
    · exact Block.exec_outlasts longer is

end

namespace Context

theorem run_outlasts (longer : env'.Outlasts env) (r : Routine) (args : List Value) :
    Registrar.Outlasts (env'.run r args) (env.run r args) := by
  intro w
  rcases Block.exec_outlasts longer r.body ⟨.enter r args, w⟩ with exhausted | same
  · left
    change (Block.exec env r.body _).1.map (·.getD .null) = _
    rw [exhausted]
    rfl
  · right
    unfold run
    rw [same]

end Context

namespace CodeUnit

variable (u : CodeUnit) (host : Host σ)

theorem call_outlasts (depth more : Nat) (name : String) (args : List Value) :
    Outlasts (u.call host (depth + more) name args) (u.call host depth name args) := by
  induction depth generalizing name args with
  | zero => exact fun _ => .inl rfl
  | succ depth ih =>
    rw [Nat.succ_add]
    cases found : u.routine? name with
    | none =>
      intro w
      right
      rw [call, call, found]
    | some r =>
      have longer : (u.context host (depth + more)).Outlasts (u.context host depth) :=
        ⟨rfl, rfl, ih⟩
      rw [call_of_found host depth found, call_of_found host (depth + more) found]
      exact Context.run_outlasts longer r args

/-- A run that ends does not depend on the depth. -/
theorem run_add (depth more : Nat) (name : String) (args : List Value) (w : World σ) :
    (u.run host depth name args w).1 = .exhausted ∨
      u.run host (depth + more) name args w = u.run host depth name args w := by
  rcases u.call_outlasts host depth more name args w with exhausted | same
  · left
    unfold run
    rcases ran : u.call host depth name args w with ⟨r, x⟩
    rw [ran] at exhausted
    cases exhausted
    rfl
  · right
    unfold run
    rw [same]

end CodeUnit
end Registrar
