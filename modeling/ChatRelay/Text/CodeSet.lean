/-! Sets of code points written as inversion lists: a point is in the set exactly
when an odd number of entries lie at or below it, which a binary search counts. -/
namespace ChatRelay.Text

/-- A set of code points, as the increasing boundaries where membership
changes. -/
structure CodeSet where
  bounds : Array Nat

namespace CodeSet

/-- `lo` plus the number of boundaries at or below `n` among positions `lo`
to `hi`, for increasing boundaries. -/
def countAtMost (bounds : Array Nat) (n lo hi : Nat) : Nat :=
  if lo < hi then
    if bounds.getD ((lo + hi) / 2) 0 ≤ n then countAtMost bounds n ((lo + hi) / 2 + 1) hi
    else countAtMost bounds n lo ((lo + hi) / 2)
  else lo
termination_by hi - lo
decreasing_by all_goals omega

def contains (s : CodeSet) (n : Nat) : Bool :=
  countAtMost s.bounds n 0 s.bounds.size % 2 == 1

theorem le_countAtMost (bounds : Array Nat) (n lo hi : Nat) : lo ≤ countAtMost bounds n lo hi := by
  induction lo, hi using countAtMost.induct bounds n with
  | case1 lo hi h hle ih => rw [countAtMost, if_pos h, if_pos hle]; omega
  | case2 lo hi h hgt ih => rw [countAtMost, if_pos h, if_neg hgt]; exact ih
  | case3 lo hi h => exact Nat.le_of_eq (by rw [countAtMost, if_neg h])

@[simp] theorem contains_empty (n : Nat) : contains ⟨#[]⟩ n = false := by
  simp [contains, countAtMost]

end CodeSet

end ChatRelay.Text
