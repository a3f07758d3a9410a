import Registrar.CodeUnit.Basic

/-! Equality of code units is decidable, through a comparison that follows the tree. -/
namespace Registrar

mutual

/-- The two instructions are the same, nested blocks included. -/
def Instruction.same : Instruction → Instruction → Bool
  | .const d v, .const d' v' => d == d' && v == v'
  | .loadClass d c, .loadClass d' c' => d == d' && c == c'
  | .param d i, .param d' i' => d == d' && i == i'
  | .invoke d k m r as, .invoke d' k' m' r' as' =>
    d == d' && k == k' && m == m' && r == r' && as == as'
  | .newInstance d c, .newInstance d' c' => d == d' && c == c'
  | .newArray d c n, .newArray d' c' n' => d == d' && c == c' && n == n'
  | .store a i v, .store a' i' v' => a == a' && i == i' && v == v'
  | .declare d t, .declare d' t' => d == d' && t == t'
  | .assign t v, .assign t' v' => t == t' && v == v'
  | .branch c a b, .branch c' a' b' => c == c' && Block.same a a' && Block.same b b'
  | .isolate b e v h, .isolate b' e' v' h' =>
    Block.same b b' && e == e' && v == v' && Block.same h h'
  | .leave v, .leave v' => v == v'
  | _, _ => false

def Block.same : List Instruction → List Instruction → Bool
  | [], [] => true
  | i :: is, j :: js => Instruction.same i j && Block.same is js
  | _, _ => false

end

mutual

theorem Instruction.same_iff (i j : Instruction) : i.same j = true ↔ i = j := by
  cases i with
  | branch c a b =>
    cases j <;> simp [Instruction.same, Block.same_iff a, Block.same_iff b, and_assoc]
  | isolate b e v h =>
    cases j <;> simp [Instruction.same, Block.same_iff b, Block.same_iff h, and_assoc]
  | _ => cases j <;> simp [Instruction.same, and_assoc]

theorem Block.same_iff (is js : List Instruction) : Block.same is js = true ↔ is = js := by
  cases is with
  | nil => cases js <;> simp [Block.same]
  | cons i is =>
    cases js with
    | nil => simp [Block.same]
    | cons j js => simp [Block.same, Instruction.same_iff i j, Block.same_iff is js]

end

instance : DecidableEq Instruction := fun i j => decidable_of_iff _ (Instruction.same_iff i j)

deriving instance DecidableEq for Routine
deriving instance DecidableEq for CodeUnit

end Registrar
