import LineShell.Text

/-!
Classes of characters that are given as inclusive ranges of code points.
-/
namespace LineShell.Text

def inRanges (ranges : List (Nat × Nat)) (c : Char) : Bool :=
  ranges.any fun range => decide (range.1 ≤ c.toNat ∧ c.toNat ≤ range.2)

end LineShell.Text
