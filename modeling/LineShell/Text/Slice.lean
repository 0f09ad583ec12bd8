import LineShell.Text

/-!
Slices of a text between two positions.  A negative position counts from the
end, and positions outside the text are moved to its nearer end.
-/
namespace LineShell.Text

/-- The number of characters before a position. -/
def position (length : Nat) (index : Int) : Nat :=
  if index < 0 then (index + length).toNat else min index.toNat length

/-- The characters from one position up to another, none when the second comes
first. -/
def slice (text : Text) (start stop : Int) : Text :=
  let first := position text.length start
  (text.drop first).take (position text.length stop - first)

/-- Inside the text a slice of a given width is what `take` gives after
`drop`. -/
theorem slice_ofNat (text : Text) (start width : Nat) :
    slice text start (start + width : Int) = (text.drop start).take width := by
  have hstart : position text.length start = min start text.length := by
    have hneg : ¬ ((start : Int) < 0) := by omega
    simp [position, hneg]
  have hstop : position text.length (start + width : Int) =
      min (start + width) text.length := by
    have : ((start : Int) + width).toNat = start + width := by omega
    have hneg : ¬ ((start : Int) + width < 0) := by omega
    simp [position, this, hneg]
  simp only [slice, hstart, hstop]
  by_cases h : start ≤ text.length
  · rw [Nat.min_eq_left h]
    by_cases hw : start + width ≤ text.length
    · rw [Nat.min_eq_left hw, Nat.add_sub_cancel_left]
    · rw [Nat.min_eq_right (by omega)]
      rw [List.take_of_length_le (by simp),
        List.take_of_length_le (by simp; omega)]
  · have h' : text.length ≤ start := by omega
    simp [Nat.min_eq_right h', List.drop_eq_nil_of_le h']

end LineShell.Text
