import LineShell.Text.Width

/-!
Text laid out in columns: what a plain display of a message shows.  Five
controls that would move the cursor or ring are dropped, and a tab is filled
with spaces up to the next tab stop of its line.
-/
namespace LineShell.Text.Columns

def tabWidth : Nat := 8

/-- The controls that are not shown: bell, backspace, vertical tab, form feed,
carriage return. -/
def isDropped (c : Char) : Bool := inRanges [(0x7, 0x8), (0xB, 0xD)] c

/-- The number of spaces from a column to the tab stop at it or after it. -/
def toTabStop (column : Nat) : Nat := (tabWidth - column % tabWidth) % tabWidth

/-- The pieces of a line in order, where the first starts in the given column.
Every tab between two of them is one space and as many more as lead to a tab
stop. -/
def fill (column : Nat) : List Text → Text
  | [] => []
  | [piece] => piece
  | piece :: next :: rest =>
    let reached := column + width (piece ++ [' '])
    piece ++ ' ' :: List.replicate (toTabStop reached) ' ' ++
      fill (reached + toTabStop reached) (next :: rest)

/-- A line with its tabs filled with spaces. -/
def expandTabs (line : Text) : Text := fill 0 (splitOn '\t' line)

def display (message : Text) : Text :=
  joinWith ['\n'] ((splitOn '\n' (message.filter fun c => !isDropped c)).map
    expandTabs)

/-- The spaces lead to a tab stop. -/
theorem add_toTabStop_mod (column : Nat) :
    (column + toTabStop column) % tabWidth = 0 := by
  simp only [toTabStop, tabWidth]
  omega

theorem toTabStop_lt (column : Nat) : toTabStop column < tabWidth :=
  Nat.mod_lt _ (by decide)

/-- Filling adds no tab. -/
theorem tab_not_mem_fill (column : Nat) {pieces : List Text}
    (h : ∀ piece ∈ pieces, '\t' ∉ piece) :
    '\t' ∉ fill column pieces := by
  induction pieces generalizing column with
  | nil => simp [fill]
  | cons piece rest ih =>
    cases rest with
    | nil => simpa [fill] using h
    | cons next more =>
      have hpiece := h piece (by simp)
      have hrest := ih (column + width (piece ++ [' ']) +
        toTabStop (column + width (piece ++ [' ']))) fun other hmem =>
          h other (by simp_all)
      simp [fill, hpiece, hrest]

/-- No tab is left in a line. -/
theorem tab_not_mem_expandTabs (line : Text) : '\t' ∉ expandTabs line :=
  tab_not_mem_fill 0 fun _ hpiece => not_mem_of_mem_splitOn hpiece

example : display "a\tb\x07".toList = "a       b".toList := by decide +kernel

example : display "1234567\u200d\tx".toList = "1234567\u200d  x".toList := by
    decide +kernel

end LineShell.Text.Columns
