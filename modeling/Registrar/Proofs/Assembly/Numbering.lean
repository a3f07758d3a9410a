import Registrar.CodeUnit.Emit
import Mathlib.Data.List.Range

/-! The numbers of a routine. Whoever writes a body may nest blocks in any way, look at the error of a
step and go on, and name any values as operands; each number is still given to one slot only, in the
order in which the slots are filled, and only blocks that were given up leave gaps. -/
namespace Registrar

/-! ### The numbers of a block -/

mutual

/-- The values that an instruction brings, in the order in which they are numbered: a caught fault
stands between the body of its region and the handler. -/
def Instruction.ids : Instruction → List ValueId
  | .const dest _ => [dest]
  | .loadClass dest _ => [dest]
  | .param dest _ => [dest]
  | .invoke dest _ _ _ _ => [dest]
  | .newInstance dest _ => [dest]
  | .newArray dest _ _ => [dest]
  | .declare dest _ => [dest]
  | .store _ _ _ => []
  | .assign _ _ => []
  | .branch _ onTrue onFalse => Block.ids onTrue ++ Block.ids onFalse
  | .isolate body _ caught handler => Block.ids body ++ caught :: Block.ids handler
  | .leave _ => []

def Block.ids : List Instruction → List ValueId
  | [] => []
  | i :: is => Instruction.ids i ++ Block.ids is

end

@[simp] theorem Block.ids_nil : Block.ids [] = [] := by rw [Block.ids]

@[simp] theorem Block.ids_singleton (i : Instruction) : Block.ids [i] = i.ids := by
  rw [Block.ids, Block.ids, List.append_nil]

@[simp] theorem Block.ids_append (is js : Block) :
    Block.ids (is ++ js) = Block.ids is ++ Block.ids js := by
  induction is with
  | nil => simp
  | cons i is ih => rw [List.cons_append, Block.ids, ih, Block.ids, List.append_assoc]

/-- The values with the numbers from `n` on that lie below `m`. -/
def ValueId.given (n m : Nat) : List ValueId := (List.range' n (m - n)).map fun i => ⟨i.toUInt32⟩

namespace ValueId

@[simp] theorem given_self (n : Nat) : given n n = [] := by simp [given]

@[simp] theorem given_succ (n : Nat) : given n (n + 1) = [⟨n.toUInt32⟩] := by simp [given]

theorem map_given {m : Nat} (hm : m ≤ UInt32.size) (n : Nat) :
    (given n m).map (·.number.toNat) = List.range' n (m - n) := by
  rw [given, List.map_map]
  refine (List.map_congr_left fun i listed => ?_).trans (List.map_id _)
  have below : i < UInt32.size := by
    have := List.mem_range'_1.1 listed
    omega
  exact Nat.mod_eq_of_lt below

theorem given_append {n m k : Nat} (hn : n ≤ m) (hm : m ≤ k) :
    given n m ++ given m k = given n k := by
  rw [given, given, given, ← List.map_append]
  have parts := @List.range'_append_1 n (m - n) (k - m)
  rw [Nat.add_sub_cancel' hn] at parts
  rw [parts]
  congr 2
  omega

/-- The values of a region: those of its body up to `m`, the caught one, and those of the handler. -/
theorem given_isolated {n m k : Nat} (hn : n ≤ m) (hm : m + 1 ≤ k) :
    given n m ++ ⟨m.toUInt32⟩ :: given (m + 1) k = given n k := by
  rw [← given_append hn (Nat.le_of_succ_le hm), ← given_append (Nat.le_succ m) hm, given_succ]
  rfl

end ValueId

/-! ### Bodies -/

namespace Emit

variable {ε ε' α : Type}

/-- Looks at the error of an emission and goes on. -/
def attempt (x : Emit ε' α) : Emit ε (Except ε' α) where
  run n := ⟨.ok (x n).result, (x n).block, (x n).next⟩
  le_next := x.le_next

/-- A branch whose blocks are not both there is given up, with the numbers of these blocks. -/
theorem branch_run (condition : ValueId) (onTrue onFalse : Emit ε Unit) (n : Nat) :
    branch condition onTrue onFalse n =
      match (onTrue n).result with
      | .error e => ⟨.error e, [], (onTrue n).next⟩
      | .ok _ =>
        match (onFalse (onTrue n).next).result with
        | .error e => ⟨.error e, [], (onFalse (onTrue n).next).next⟩
        | .ok _ => ⟨.ok (), [.branch condition (onTrue n).block (onFalse (onTrue n).next).block],
            (onFalse (onTrue n).next).next⟩ := by
  cases first : (onTrue n).result <;> cases second : (onFalse (onTrue n).next).result <;>
    simp [branch, bind, Emit.bind, nested, first, second, Except.map]

theorem isolate_run (exceptionType : String) (body : Emit ε Unit) (handler : ValueId → Emit ε Unit)
    (n : Nat) :
    isolate exceptionType body handler n =
      match (body n).result with
      | .error e => ⟨.error e, [], (body n).next⟩
      | .ok _ =>
        let caught : ValueId := ⟨(body n).next.toUInt32⟩
        let handled := handler caught ((body n).next + 1)
        match handled.result with
        | .error e => ⟨.error e, [], handled.next⟩
        | .ok _ => ⟨.ok (), [.isolate (body n).block exceptionType caught handled.block],
            handled.next⟩ := by
  cases first : (body n).result <;>
    cases second : (handler ⟨(body n).next.toUInt32⟩ ((body n).next + 1)).result <;>
    simp [isolate, alloc, bind, Emit.bind, nested, first, second, Except.map]

end Emit

/-- The steps that bring a value. -/
inductive Operation where
  | constant (value : Constant)
  | loadClass (className : String)
  | param (index : UInt16)
  | invokeStatic (method : MethodRef) (args : List ValueId)
  | invokeVirtual (method : MethodRef) (receiver : ValueId) (args : List ValueId)
  | invokeInterface (method : MethodRef) (receiver : ValueId) (args : List ValueId)
  | newInstance (className : String)
  | newArray (component : String) (length : Nat)
  | declare (typeName : String)

namespace Operation

def emit {ε : Type} : Operation → Emit ε ValueId
  | constant value => Emit.constant value
  | loadClass className => Emit.loadClass className
  | param index => Emit.param index
  | invokeStatic method args => Emit.invokeStatic method args
  | invokeVirtual method receiver args => Emit.invokeVirtual method receiver args
  | invokeInterface method receiver args => Emit.invokeInterface method receiver args
  | newInstance className => Emit.newInstance className
  | newArray component length => Emit.newArray component length
  | declare typeName => Emit.declare typeName

/-- The instruction that puts the value into a slot. -/
def into : Operation → (dest : ValueId) → Instruction
  | constant value, dest => .const dest value
  | loadClass className, dest => .loadClass dest className
  | param index, dest => .param dest index
  | invokeStatic method args, dest => .invoke dest .static method none args
  | invokeVirtual method receiver args, dest => .invoke dest .virtual method (some receiver) args
  | invokeInterface method receiver args, dest =>
    .invoke dest .interface method (some receiver) args
  | newInstance className, dest => .newInstance dest className
  | newArray component length, dest => .newArray dest component length.toUInt32
  | declare typeName, dest => .declare dest typeName

theorem emit_eq {ε : Type} (op : Operation) : (op.emit : Emit ε ValueId) = Emit.fill op.into := by
  cases op <;> rfl

@[simp] theorem ids_into (op : Operation) (dest : ValueId) : (op.into dest).ids = [dest] := by
  cases op <;> rw [into, Instruction.ids]

end Operation

/-- The steps that bring none. -/
inductive Statement where
  | store (array : ValueId) (index : Nat) (value : ValueId)
  | assign (target value : ValueId)
  | leave (value : Option ValueId)

namespace Statement

def emit {ε : Type} : Statement → Emit ε Unit
  | store array index value => Emit.store array index value
  | assign target value => Emit.assign target value
  | leave value => Emit.leave value

def instruction : Statement → Instruction
  | store array index value => .store array index.toUInt32 value
  | assign target value => .assign target value
  | leave value => .leave value

theorem emit_eq {ε : Type} (s : Statement) : (s.emit : Emit ε Unit) = Emit.push s.instruction := by
  cases s <;> rfl

@[simp] theorem ids_instruction (s : Statement) : s.instruction.ids = [] := by
  cases s <;> rw [instruction, Instruction.ids]

end Statement

/-- What may be written as a body: any steps, each of which may depend on the results of those
before it, may fail, and may nest blocks. -/
inductive Program : Type → Type → Type 1 where
  | pure {ε α : Type} (a : α) : Program ε α
  | bind {ε α β : Type} (p : Program ε α) (f : α → Program ε β) : Program ε β
  | fail {ε α : Type} (e : ε) : Program ε α
  | attempt {ε ε' α : Type} (p : Program ε' α) : Program ε (Except ε' α)
  | operation {ε : Type} (op : Operation) : Program ε ValueId
  | statement {ε : Type} (s : Statement) : Program ε Unit
  | branch {ε : Type} (condition : ValueId) (onTrue onFalse : Program ε Unit) : Program ε Unit
  | isolate {ε : Type} (exceptionType : String) (body : Program ε Unit)
      (handler : ValueId → Program ε Unit) : Program ε Unit

instance {ε : Type} : Monad (Program ε) where
  pure := .pure
  bind := .bind

namespace Program

def emit {ε α : Type} : Program ε α → Emit ε α
  | .pure a => Emit.pure a
  | .bind p f => p.emit.bind fun a => (f a).emit
  | .fail e => Emit.fail e
  | .attempt p => p.emit.attempt
  | .operation op => op.emit
  | .statement s => s.emit
  | .branch condition onTrue onFalse => Emit.branch condition onTrue.emit onFalse.emit
  | .isolate exceptionType body handler =>
    Emit.isolate exceptionType body.emit fun caught => (handler caught).emit

/-- No nested block ends in an error when the body is written with the numbers from `n` on. -/
def Unbroken {ε α : Type} : Program ε α → Nat → Prop
  | .bind p f, n => p.Unbroken n ∧ ∀ a, (p.emit n).result = .ok a → (f a).Unbroken (p.emit n).next
  | .attempt p, n => p.Unbroken n
  | .branch _ onTrue onFalse, n =>
    onTrue.Unbroken n ∧ onFalse.Unbroken (onTrue.emit n).next ∧
      (onTrue.emit n).result = .ok () ∧ (onFalse.emit (onTrue.emit n).next).result = .ok ()
  | .isolate _ body handler, n =>
    let handled := handler ⟨(body.emit n).next.toUInt32⟩
    body.Unbroken n ∧ handled.Unbroken ((body.emit n).next + 1) ∧
      (body.emit n).result = .ok () ∧ (handled.emit ((body.emit n).next + 1)).result = .ok ()
  | _, _ => True

variable {ε α : Type}

/-- No number is given away twice, and they come in order. -/
theorem ids_sublist (p : Program ε α) (n : Nat) :
    (Block.ids (p.emit n).block).Sublist (ValueId.given n (p.emit n).next) := by
  induction p generalizing n with
  | pure a => simp [emit, Emit.pure]
  | bind p f ihp ihf =>
    simp only [emit, Emit.bind]
    cases ran : (p.emit n).result with
    | error e => exact ihp n
    | ok a =>
      simp only [Block.ids_append]
      rw [← ValueId.given_append (p.emit.le_next n) ((f a).emit.le_next _)]
      exact (ihp n).append (ihf a _)
  | fail e => simp [emit, Emit.fail]
  | attempt p ih => exact ih n
  | operation op => simp [emit, Operation.emit_eq]
  | statement s => simp [emit, Statement.emit_eq]
  | branch condition onTrue onFalse ihTrue ihFalse =>
    have parts := (ihTrue n).append (ihFalse (onTrue.emit n).next)
    rw [ValueId.given_append (onTrue.emit.le_next n) (onFalse.emit.le_next _)] at parts
    rw [emit, Emit.branch_run]
    -- A block that fails is dropped, and the numbers that it has taken are not given again.
    split
    · exact List.nil_sublist _
    · split
      · exact List.nil_sublist _
      · simpa [Instruction.ids] using parts
  | isolate exceptionType body handler ihBody ihHandler =>
    -- The fault takes the number between those of the body and those of the handler.
    let caught : ValueId := ⟨(body.emit n).next.toUInt32⟩
    have parts := (ihBody n).append ((ihHandler caught ((body.emit n).next + 1)).cons_cons caught)
    rw [ValueId.given_isolated (body.emit.le_next n) ((handler _).emit.le_next _)] at parts
    rw [emit, Emit.isolate_run]
    split
    · exact List.nil_sublist _
    · dsimp only
      split
      · exact List.nil_sublist _
      · simpa [Instruction.ids] using parts

/-- Where no block is given up, every number is given to a slot. -/
theorem ids_of_unbroken (p : Program ε α) (n : Nat) (whole : p.Unbroken n) :
    Block.ids (p.emit n).block = ValueId.given n (p.emit n).next := by
  induction p generalizing n with
  | pure a => simp [emit, Emit.pure]
  | bind p f ihp ihf =>
    simp only [emit, Emit.bind]
    cases ran : (p.emit n).result with
    | error e => exact ihp n whole.1
    | ok a =>
      simp only [Block.ids_append]
      rw [ihp n whole.1, ihf a _ (whole.2 a ran),
        ValueId.given_append (p.emit.le_next n) ((f a).emit.le_next _)]
  | fail e => simp [emit, Emit.fail]
  | attempt p ih => exact ih n whole
  | operation op => simp [emit, Operation.emit_eq]
  | statement s => simp [emit, Statement.emit_eq]
  | branch condition onTrue onFalse ihTrue ihFalse =>
    obtain ⟨wholeTrue, wholeFalse, first, second⟩ := whole
    rw [emit, Emit.branch_run, first]
    simp only [second, Block.ids_singleton, Instruction.ids]
    rw [ihTrue n wholeTrue, ihFalse _ wholeFalse,
      ValueId.given_append (onTrue.emit.le_next n) (onFalse.emit.le_next _)]
  | isolate exceptionType body handler ihBody ihHandler =>
    obtain ⟨wholeBody, wholeHandler, first, second⟩ := whole
    rw [emit, Emit.isolate_run, first]
    simp only [second, Block.ids_singleton, Instruction.ids]
    rw [ihBody n wholeBody, ihHandler _ _ wholeHandler]
    exact ValueId.given_isolated (body.emit.le_next n) ((handler _).emit.le_next _)

end Program

/-- In what is built from a body, the values have increasing numbers below the value count, and all
of these unless a nested block ended in an error. -/
theorem RoutineHead.build_numbers {ε : Type} {h : RoutineHead} {p : Program ε Unit} {r : Routine}
    (built : h.build p.emit = .ok r) (few : (p.emit 0).next < UInt32.size) :
    let numbers := (Block.ids r.body).map (·.number.toNat)
    numbers.Pairwise (· < ·) ∧ numbers.Nodup ∧ (∀ number ∈ numbers, number < r.valueCount.toNat) ∧
      (p.Unbroken 0 → numbers = List.range r.valueCount.toNat) := by
  intro numbers
  have body : r.body = (p.emit 0).block ∧ r.valueCount.toNat = (p.emit 0).next := by
    rw [build] at built
    cases ran : (p.emit 0).result with
    | error e =>
      rw [ran] at built
      cases built
    | ok a =>
      rw [ran] at built
      cases built
      exact ⟨rfl, Nat.mod_eq_of_lt few⟩
  have given : (ValueId.given 0 (p.emit 0).next).map (·.number.toNat) =
      List.range r.valueCount.toNat := by
    rw [ValueId.map_given few.le, body.2, List.range_eq_range', Nat.sub_zero]
  have sublist : numbers.Sublist (List.range r.valueCount.toNat) := by
    rw [← given]
    simp only [numbers, body.1]
    exact (p.ids_sublist 0).map _
  have increasing := List.pairwise_lt_range.sublist sublist
  refine ⟨increasing, increasing.imp Nat.ne_of_lt, fun number listed => ?_, fun whole => ?_⟩
  · exact List.mem_range.1 (sublist.subset listed)
  · rw [← given, ← p.ids_of_unbroken 0 whole, ← body.1]

/-- A body whose first branch is given up and which goes on with a region. -/
def Program.brokenOnce : Program String Unit := do
  let flag ← .operation (.constant (.bool true))
  let _ ← (.attempt (.branch flag (do let _ ← .operation (.loadClass "a.B"); .fail "no")
    (.statement (.leave none))) : Program String (Except String Unit))
  .isolate throwable (do let _ ← .operation (.param 0)) fun caught =>
    .statement (.assign flag caught)
  .statement (.leave none)

/-- The number of the branch that was given up is missing. -/
theorem RoutineHead.build_numbers_brokenOnce :
    ∃ r, ({ name := "f" } : RoutineHead).build Program.brokenOnce.emit = .ok r ∧
      (Block.ids r.body).map (·.number.toNat) = [0, 2, 3] ∧
      (∀ number ∈ (Block.ids r.body).map (·.number.toNat), number < r.valueCount.toNat) := by
  have few : (Program.brokenOnce.emit 0).next < UInt32.size := by decide
  refine ⟨_, rfl, by decide, ?_⟩
  exact (RoutineHead.build_numbers rfl few).2.2.1

end Registrar
