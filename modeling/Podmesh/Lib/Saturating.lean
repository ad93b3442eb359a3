import Mathlib.Algebra.Order.BigOperators.Group.List
import Mathlib.Algebra.Order.Ring.Nat

namespace Podmesh

def saturatingAdd (cap a b : Nat) : Nat := min (a + b) cap

theorem saturatingAdd_mono (h : a ≤ a') (h' : b ≤ b') :
    saturatingAdd cap a b ≤ saturatingAdd cap a' b' := by
  simp only [saturatingAdd]
  omega

theorem saturatingAdd_le_iff (h : bound < cap) : saturatingAdd cap a b ≤ bound ↔ a + b ≤ bound := by
  simp only [saturatingAdd]
  omega

theorem saturatingAdd_min : saturatingAdd cap (min a cap) b = min (a + b) cap := by
  simp only [saturatingAdd]
  omega

/-- Folding saturated additions computes the exact sum cut off at the largest value. -/
theorem foldl_saturatingAdd (f : E → Nat) (l : List E) (a : Nat) :
    l.foldl (fun acc e => saturatingAdd cap acc (f e)) (min a cap)
      = min (a + (l.map f).sum) cap := by
  induction l generalizing a with
  | nil => simp
  | cons e l ih =>
    rw [List.foldl_cons, saturatingAdd_min, ih, List.map_cons, List.sum_cons, Nat.add_assoc]

end Podmesh
