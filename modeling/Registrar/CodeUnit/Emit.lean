import Registrar.CodeUnit.Basic

/-! Emitting the body of a routine. Each new value gets the next free number, in nested blocks as
well, and a number that was given away stays so even if the block it was for is dropped. -/
namespace Registrar

/-- What an emission leaves behind: its result, the instructions of the current block, and the
next free number. -/
structure Emitted (ε α : Type) where
  result : Except ε α
  block : Block
  next : Nat

/-- An emission starts from the next free number, and takes none of the numbers back. -/
structure Emit (ε α : Type) where
  run : (next : Nat) → Emitted ε α
  le_next : ∀ n, n ≤ (run n).next

instance {ε α : Type} : CoeFun (Emit ε α) fun _ => Nat → Emitted ε α := ⟨Emit.run⟩

namespace Emit

variable {ε α β : Type}

protected def pure (a : α) : Emit ε α where
  run n := ⟨.ok a, [], n⟩
  le_next _ := Nat.le_refl _

/-- The second emission follows the first one unless that fails. -/
protected def bind (x : Emit ε α) (f : α → Emit ε β) : Emit ε β where
  run n :=
    let first := x n
    match first.result with
    | .error e => ⟨.error e, first.block, first.next⟩
    | .ok a =>
      let second := f a first.next
      ⟨second.result, first.block ++ second.block, second.next⟩
  le_next n := by
    have first := x.le_next n
    cases h : (x n).result with
    | error e => simpa [h] using first
    | ok a => simpa [h] using Nat.le_trans first ((f a).le_next _)

instance : Monad (Emit ε) where
  pure := Emit.pure
  bind := Emit.bind

/-- Gives the emission up. -/
def fail (e : ε) : Emit ε α where
  run n := ⟨.error e, [], n⟩
  le_next _ := Nat.le_refl _

def push (i : Instruction) : Emit ε Unit where
  run n := ⟨.ok (), [i], n⟩
  le_next _ := Nat.le_refl _

/-- The next free number. -/
def alloc : Emit ε ValueId where
  run n := ⟨.ok ⟨n.toUInt32⟩, [], n + 1⟩
  le_next _ := Nat.le_succ _

/-- An instruction that fills a new slot. -/
def fill (f : ValueId → Instruction) : Emit ε ValueId := do
  let dest ← alloc
  push (f dest)
  return dest

/-- The instructions of an emission as a block of their own. -/
def nested (x : Emit ε Unit) : Emit ε Block where
  run n :=
    let inner := x n
    ⟨inner.result.map fun _ => inner.block, [], inner.next⟩
  le_next n := x.le_next n

@[simp] theorem pure_run (a : α) (n : Nat) : (pure a : Emit ε α) n = ⟨.ok a, [], n⟩ := rfl

theorem bind_run_of_ok {x : Emit ε α} {n : Nat} {a : α} (h : (x n).result = .ok a)
    (f : α → Emit ε β) :
    (x >>= f) n = ⟨(f a (x n).next).result, (x n).block ++ (f a (x n).next).block,
      (f a (x n).next).next⟩ := by
  simp [bind, Emit.bind, h]

theorem bind_run_of_error {x : Emit ε α} {n : Nat} {e : ε} (h : (x n).result = .error e)
    (f : α → Emit ε β) : (x >>= f) n = ⟨.error e, (x n).block, (x n).next⟩ := by
  simp [bind, Emit.bind, h]

@[simp] theorem fill_run (f : ValueId → Instruction) (n : Nat) :
    (fill f : Emit ε ValueId) n = ⟨.ok ⟨n.toUInt32⟩, [f ⟨n.toUInt32⟩], n + 1⟩ := rfl

@[simp] theorem push_run (i : Instruction) (n : Nat) :
    (push i : Emit ε Unit) n = ⟨.ok (), [i], n⟩ := rfl

@[ext] theorem ext {x y : Emit ε α} (h : ∀ n, x n = y n) : x = y := by
  cases x
  cases y
  congr 1
  exact funext h

theorem bind_pure_eq (x : Emit ε α) : x >>= pure = x := by
  ext n
  cases h : (x n).result with
  | error e => rw [bind_run_of_error h, ← h]
  | ok a => simp [bind_run_of_ok h, ← h]

theorem bind_assoc_eq {γ : Type} (x : Emit ε α) (f : α → Emit ε β) (g : β → Emit ε γ) :
    x >>= f >>= g = x >>= fun a => f a >>= g := by
  ext n
  cases h : (x n).result with
  | error e =>
    have first : ((x >>= f) n).result = .error e := by rw [bind_run_of_error h]
    rw [bind_run_of_error first, bind_run_of_error h, bind_run_of_error h]
  | ok a =>
    rw [bind_run_of_ok h]
    cases h' : (f a (x n).next).result with
    | error e =>
      have first : ((x >>= f) n).result = .error e := by rw [bind_run_of_ok h, h']
      rw [bind_run_of_error first, bind_run_of_error h', bind_run_of_ok h]
    | ok b =>
      have first : ((x >>= f) n).result = .ok b := by rw [bind_run_of_ok h, h']
      rw [bind_run_of_ok first, bind_run_of_ok h', bind_run_of_ok h]
      simp

instance : LawfulMonad (Emit ε) :=
  LawfulMonad.mk' (Emit ε) bind_pure_eq (fun _ _ => rfl) bind_assoc_eq

def constant (c : Constant) : Emit ε ValueId := fill (.const · c)
def null : Emit ε ValueId := constant .null
def bool (b : Bool) : Emit ε ValueId := constant (.bool b)
def int (n : Int32) : Emit ε ValueId := constant (.int n)
def str (s : String) : Emit ε ValueId := constant (.str s)
def loadClass (name : String) : Emit ε ValueId := fill (.loadClass · name)
def param (index : UInt16) : Emit ε ValueId := fill (.param · index)

def invokeStatic (m : MethodRef) (args : List ValueId) : Emit ε ValueId :=
  fill (.invoke · .static m none args)

def invokeVirtual (m : MethodRef) (receiver : ValueId) (args : List ValueId) : Emit ε ValueId :=
  fill (.invoke · .virtual m (some receiver) args)

def invokeInterface (m : MethodRef) (receiver : ValueId) (args : List ValueId) : Emit ε ValueId :=
  fill (.invoke · .interface m (some receiver) args)

def newInstance (name : String) : Emit ε ValueId := fill (.newInstance · name)

def newArray (component : String) (length : Nat) : Emit ε ValueId :=
  fill (.newArray · component length.toUInt32)

def store (array : ValueId) (index : Nat) (value : ValueId) : Emit ε Unit :=
  push (.store array index.toUInt32 value)

/-- A new array that holds the values in order. -/
def arrayOf (component : String) (values : List ValueId) : Emit ε ValueId := do
  let array ← newArray component values.length
  values.zipIdx.forM fun (value, index) => store array index value
  return array

def declare (typeName : String) : Emit ε ValueId := fill (.declare · typeName)
def assign (target value : ValueId) : Emit ε Unit := push (.assign target value)
def leave (value : Option ValueId) : Emit ε Unit := push (.leave value)

def branch (condition : ValueId) (onTrue onFalse : Emit ε Unit) : Emit ε Unit := do
  let a ← nested onTrue
  let b ← nested onFalse
  push (.branch condition a b)

/-- A region whose faults of one type the handler gets; the caught fault is numbered between the
values of the body and those of the handler. -/
def isolate (exceptionType : String) (body : Emit ε Unit) (handler : ValueId → Emit ε Unit) :
    Emit ε Unit := do
  let b ← nested body
  let caught ← alloc
  let h ← nested (handler caught)
  push (.isolate b exceptionType caught h)

end Emit

/-- What is known of a routine before its body is emitted. -/
structure RoutineHead where
  name : String
  returns : String := void
  params : List String := []
  modifiers : Modifiers := { isPublic := true }
  deriving DecidableEq

namespace RoutineHead

/-- The routine as a method of the unit that owns it. -/
def methodRef (h : RoutineHead) (owner : String) : MethodRef :=
  { owner, name := h.name, params := h.params, returns := h.returns }

/-- The routine with the emitted instructions as its body, unless their emission failed. -/
def build {ε : Type} (h : RoutineHead) (body : Emit ε Unit) : Except ε Routine :=
  let emitted := body 0
  emitted.result.map fun _ =>
    { name := h.name, modifiers := h.modifiers, params := h.params, returns := h.returns
      valueCount := emitted.next.toUInt32, body := emitted.block }

/-- A body whose emission cannot fail gives a routine. -/
def routine (h : RoutineHead) (body : Emit Empty Unit) : Routine :=
  match h.build body with
  | .ok r => r

theorem routine_eq (h : RoutineHead) (body : Emit Empty Unit) :
    h.routine body =
      { name := h.name, modifiers := h.modifiers, params := h.params, returns := h.returns
        valueCount := (body 0).next.toUInt32, body := (body 0).block } := by
  unfold routine
  split
  rename_i r built
  cases ran : (body 0).result with
  | error e => exact e.elim
  | ok _ =>
    simp only [build, ran, Except.map] at built
    exact (Except.ok.inj built).symm

end RoutineHead
end Registrar
