/-!
Character classes as closed ranges of code points. A class is a list of ranges and membership is
a scan of that list, so every class in this library is plain data.
-/
namespace ListQuery.Text

def inRanges (ranges : List (Nat × Nat)) (code : Nat) : Bool :=
  ranges.any fun r => decide (r.1 ≤ code) && decide (code ≤ r.2)

/-- Ranges in ascending order with a gap between neighbours. -/
def ascending : List (Nat × Nat) → Bool
  | [] => true
  | [r] => decide (r.1 ≤ r.2)
  | r :: s :: rest => decide (r.1 ≤ r.2) && decide (r.2 + 1 < s.1) && ascending (s :: rest)

end ListQuery.Text
