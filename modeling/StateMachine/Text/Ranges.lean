/-!
# Ranges of characters

A class of characters is given by the ranges of its code points, each with
its first and its last one, in increasing order.
-/

namespace StateMachine.Text

/-- Is `n` in one of the ranges? They are in increasing order, so the search
    ends at the first range that starts after `n`. -/
def inRanges : List (Nat × Nat) → Nat → Bool
  | [], _ => false
  | (first, last) :: rest, n =>
    if n < first then false else if n ≤ last then true else inRanges rest n

end StateMachine.Text
