import Registrar.CodeUnit.Traversal
import Registrar.Proofs.Assembly.Composition

/-! What emitted code calls. But for the loop in which the entry point calls the workers, all code of
a unit is put together from instructions that call methods of the platform only. -/
namespace Registrar

open Platform

/-- An instruction without blocks of its own, which may call a method of the platform. -/
def Instruction.Simple : Instruction → Prop
  | .invoke _ _ m _ _ => m ∈ methods
  | .branch .. => False
  | .isolate .. => False
  | _ => True

namespace Emission

/-- The emission is put together from simple instructions, in branches and regions. -/
inductive Plain : {α : Type} → Emission α → Prop
  | done {α : Type} (a : α) : Plain (pure a)
  | bind {α β : Type} {x : Emission α} {f : α → Emission β} (first : Plain x)
      (rest : ∀ a, Plain (f a)) : Plain (x >>= f)
  | fill {i : ValueId → Instruction} (simple : ∀ dest, (i dest).Simple) : Plain (Emit.fill i)
  | push {i : Instruction} (simple : i.Simple) : Plain (Emit.push i)
  | branch (condition : ValueId) {onTrue onFalse : Emission Unit} (first : Plain onTrue)
      (second : Plain onFalse) : Plain (Emit.branch condition onTrue onFalse)
  | isolate (exceptionType : String) {body : Emission Unit} {handler : ValueId → Emission Unit}
      (inner : Plain body) (handling : ∀ caught, Plain (handler caught)) :
      Plain (Emit.isolate exceptionType body handler)

end Emission

theorem Operation.Usual.simple {named : String → Prop} {op : Operation} (h : op.Usual named)
    (dest : ValueId) : (op.into dest).Simple := by
  cases h with
  | invokeStatic platform => exact platform
  | invokeVirtual platform => exact platform
  | invokeInterface platform => exact platform
  | _ => trivial

/-- Usual code is plain, whatever types it names. -/
theorem Emission.Consists.plain {named : String → Prop} {α : Type} {x : Emission α}
    {k : Nat} (h : Consists (Operation.Usual named) k x) : Plain x := by
  induction h with
  | done a => exact .done a
  | bind _ _ first rest => exact .bind first rest
  | @operation op usual =>
    rw [op.emit_eq]
    exact .fill usual.simple
  | statement s =>
    rw [s.emit_eq]
    exact .push (by cases s <;> trivial)
  | branch condition _ _ first second => exact .branch condition first second
  | isolate _ _ inner handling => exact .isolate throwable inner handling
  | atMost _ _ ih => exact ih

/-! ### Own calls -/

namespace Block

theorem visit_append (is js : List Instruction) : visit (is ++ js) = visit is ++ visit js := by
  induction is with
  | nil => rfl
  | cons i is ih => simp only [List.cons_append, visit, ih, List.append_assoc]

theorem visit_singleton (i : Instruction) : visit [i] = i.visit := by
  simp only [visit, List.append_nil]

end Block

theorem Instruction.Simple.visit {i : Instruction} (h : i.Simple) : i.visit = [i] := by
  cases i with
  | branch | isolate => exact h.elim
  | _ => rfl

namespace CodeUnit

/-- How an instruction calls which of the unit's own routines, if it does. -/
def ownCall? (u : CodeUnit) : Instruction → Option (InvokeKind × String)
  | .invoke _ kind m _ _ =>
    if m.owner = u.binaryName ∧ (u.routine? m.name).isSome then some (kind, m.name) else none
  | _ => none

/-- The calls of own routines in a block and all that is nested in it, in the order in which they
were emitted. -/
def ownCalls (u : CodeUnit) (is : Block) : List (InvokeKind × String) :=
  (Block.visit is).filterMap u.ownCall?

variable {u : CodeUnit}

theorem ownCalls_append (is js : Block) :
    u.ownCalls (is ++ js) = u.ownCalls is ++ u.ownCalls js := by
  rw [ownCalls, Block.visit_append, List.filterMap_append]
  rfl

/-- No routine of the unit has the name of a method of the platform. -/
def Apart (u : CodeUnit) : Prop := ∀ m ∈ methods, u.routine? m.name = none

theorem ownCalls_simple (apart : u.Apart) {i : Instruction} (h : i.Simple) :
    u.ownCalls [i] = [] := by
  rw [ownCalls, Block.visit_singleton, h.visit]
  cases i with
  | invoke _ _ m _ _ => simp [ownCall?, apart m h]
  | _ => rfl

theorem ownCalls_branch (condition : ValueId) (onTrue onFalse : Block) :
    u.ownCalls [.branch condition onTrue onFalse] = u.ownCalls onTrue ++ u.ownCalls onFalse := by
  rw [ownCalls, Block.visit_singleton, Instruction.visit, List.filterMap_cons_none rfl,
    List.filterMap_append]
  rfl

theorem ownCalls_isolate (body handler : Block) (exceptionType : String) (caught : ValueId) :
    u.ownCalls [.isolate body exceptionType caught handler] =
      u.ownCalls body ++ u.ownCalls handler := by
  rw [ownCalls, Block.visit_singleton, Instruction.visit, List.filterMap_cons_none rfl,
    List.filterMap_append]
  rfl

end CodeUnit

namespace Emission

variable {u : CodeUnit} {α β ι : Type}

/-- Wherever the emission starts, these are the calls of own routines in its instructions. -/
def Calls (u : CodeUnit) (x : Emission α) (calls : List (InvokeKind × String)) : Prop :=
  ∀ n, u.ownCalls (x n).block = calls

namespace Calls

variable {calls later : List (InvokeKind × String)}

theorem bind {x : Emission α} {f : α → Emission β} (first : Calls u x calls)
    (rest : ∀ a, Calls u (f a) later) : Calls u (x >>= f) (calls ++ later) := by
  intro n
  rw [Emit.block_bind, CodeUnit.ownCalls_append, first, rest]

theorem isolate (exceptionType : String) {body : Emission Unit} {handler : ValueId → Emission Unit}
    (inner : Calls u body calls) (handling : ∀ caught, Calls u (handler caught) []) :
    Calls u (Emit.isolate exceptionType body handler) calls := by
  intro n
  rw [Emit.block_isolate, CodeUnit.ownCalls_isolate, inner, handling, List.append_nil]

end Calls

/-- Plain code calls no routine of the unit that it is in. -/
theorem Plain.calls (apart : u.Apart) {x : Emission α} (h : Plain x) : Calls u x [] := by
  induction h with
  | done a => exact fun n => rfl
  | bind _ _ first rest => exact first.bind rest
  | fill simple => exact fun n => CodeUnit.ownCalls_simple apart (simple ⟨n.toUInt32⟩)
  | push simple => exact fun n => CodeUnit.ownCalls_simple apart simple
  | branch condition _ _ first second =>
    intro n
    rw [Emit.block_branch, CodeUnit.ownCalls_branch, first, second]
    rfl
  | isolate exceptionType _ _ inner handling => exact inner.isolate exceptionType handling

theorem Calls.after (apart : u.Apart) {x : Emission α} {f : α → Emission β}
    {calls : List (InvokeKind × String)} {k : Nat}
    (first : Consists (Operation.Usual fun _ => True) k x)
    (rest : ∀ a, Calls u (f a) calls) : Calls u (x >>= f) calls :=
  (first.plain.calls apart).bind rest

theorem Calls.isolated (apart : u.Apart) (onFault : OnFault) {body : Emission Unit}
    {calls : List (InvokeKind × String)} (inner : Calls u body calls) :
    Calls u (Emission.isolated onFault body) calls := by
  refine inner.isolate _ fun caught => ?_
  have usual : Consists (Operation.Usual fun _ => True) 1 (handler onFault caught) := .handler ..
  exact usual.plain.calls apart

/-- A loop that calls own routines calls them in order. -/
theorem calls_forM {ms : List MethodRef}
    (own : ∀ m ∈ ms, m.owner = u.binaryName ∧ (u.routine? m.name).isSome) :
    Calls u (ms.forM fun m => discard (Emit.invokeStatic m [])) (ms.map (.static, ·.name)) := by
  induction ms with
  | nil => exact fun n => rfl
  | cons m ms ih =>
    have one : Calls u (discard (Emit.invokeStatic m []) : Emission Unit)
        [(.static, m.name)] := by
      intro n
      have called : u.ownCall? (.invoke ⟨n.toUInt32⟩ .static m none []) =
          some (.static, m.name) := if_pos (own m (List.mem_cons_self ..))
      change u.ownCalls [.invoke ⟨n.toUInt32⟩ .static m none []] = _
      rw [CodeUnit.ownCalls, Block.visit_singleton, Instruction.visit,
        List.filterMap_cons_some called, List.filterMap_nil]
      · nofun
      · nofun
    exact one.bind fun _ => ih fun m listed => own m (List.mem_cons_of_mem _ listed)

theorem Calls.routine {x : Emission Unit} {calls : List (InvokeKind × String)} (h : Calls u x calls)
    (head : RoutineHead) : u.ownCalls (head.routine x).body = calls := by
  rw [RoutineHead.routine_eq]
  exact h 0

end Emission

end Registrar
