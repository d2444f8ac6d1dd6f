/-
Character classes given as ascending ranges of code points.
-/

namespace DownloadNames.Text

/-- Membership in one of the ranges, which are ascending and include both ends. -/
def inRanges : List (Nat × Nat) → Nat → Bool
  | [], _ => false
  | (lo, hi) :: rest, n => if n < lo then false else if n ≤ hi then true else inRanges rest n

end DownloadNames.Text
