/-! Sets of characters given as ascending lists of code point ranges. -/
namespace Registrar.Text

/-- Membership in an ascending list of closed ranges; the search stops at the first range that
lies above the number. -/
def inRanges : List (Nat × Nat) → Nat → Bool
  | [], _ => false
  | (lo, hi) :: rest, n => if n < lo then false else n ≤ hi || inRanges rest n

end Registrar.Text
