
namespace Gesture.Text

abbrev Ranges := List (Nat × Nat)

/-- Whether one of the ranges holds `code`. The ranges are sorted, so the search stops at the first
    one that ends at or after it. -/
def Ranges.holds : Ranges → Nat → Bool
  | [], _ => false
  | (first, last) :: rest, code => if code ≤ last then decide (first ≤ code) else holds rest code

end Gesture.Text
