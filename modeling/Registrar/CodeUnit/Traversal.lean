import Registrar.CodeUnit.Basic

/-! The instructions of a block with all that is nested in them, and the methods they invoke. -/
namespace Registrar

mutual

/-- Shows the visitor the instruction itself, then what its blocks hold. -/
def Instruction.visitM {m : Type → Type _} [Monad m] (visitor : Instruction → m Unit) :
    Instruction → m Unit
  | .branch c a b => do
    visitor (.branch c a b)
    Block.visitM visitor a
    Block.visitM visitor b
  | .isolate b e v h => do
    visitor (.isolate b e v h)
    Block.visitM visitor b
    Block.visitM visitor h
  | i => visitor i

/-- Shows the visitor every instruction, depth first, each before the ones nested in it. -/
def Block.visitM {m : Type → Type _} [Monad m] (visitor : Instruction → m Unit) :
    List Instruction → m Unit
  | [] => pure ()
  | i :: is => do
    Instruction.visitM visitor i
    Block.visitM visitor is

end

mutual

/-- The instruction itself, then what its blocks hold. -/
def Instruction.visit : Instruction → List Instruction
  | .branch c a b => .branch c a b :: (Block.visit a ++ Block.visit b)
  | .isolate b e v h => .isolate b e v h :: (Block.visit b ++ Block.visit h)
  | i => [i]

/-- The instructions in the order in which a visitor is shown them. -/
def Block.visit : List Instruction → List Instruction
  | [] => []
  | i :: is => Instruction.visit i ++ Block.visit is

end

section Visitor

variable {m : Type → Type _} [Monad m] [LawfulMonad m] (visitor : Instruction → m Unit)

mutual

theorem Instruction.visitM_eq_forM (i : Instruction) :
    i.visitM visitor = i.visit.forM visitor := by
  cases i with
  | branch c a b =>
    simp [Instruction.visitM, Instruction.visit, Block.visitM_eq_forM a, Block.visitM_eq_forM b]
  | isolate b e v h =>
    simp [Instruction.visitM, Instruction.visit, Block.visitM_eq_forM b, Block.visitM_eq_forM h]
  | _ => simp [Instruction.visitM, Instruction.visit]

/-- A visitor is shown the instructions of `visit`, one after the other. -/
theorem Block.visitM_eq_forM (is : List Instruction) :
    Block.visitM visitor is = (Block.visit is).forM visitor := by
  cases is with
  | nil => rfl
  | cons i is =>
    simp [Block.visitM, Block.visit, Instruction.visitM_eq_forM i, Block.visitM_eq_forM is]

end

end Visitor

mutual

def Instruction.invokedMethods : Instruction → List MethodRef
  | .invoke _ _ m _ _ => [m]
  | .branch _ a b => Block.invokedMethods a ++ Block.invokedMethods b
  | .isolate b _ _ h => Block.invokedMethods b ++ Block.invokedMethods h
  | _ => []

/-- The invoked methods in the order in which the instructions were emitted. -/
def Block.invokedMethods : List Instruction → List MethodRef
  | [] => []
  | i :: is => Instruction.invokedMethods i ++ Block.invokedMethods is

end

/-- The method that this one instruction invokes, blocks apart. -/
def Instruction.method? : Instruction → Option MethodRef
  | .invoke _ _ m _ _ => some m
  | _ => none

end Registrar
