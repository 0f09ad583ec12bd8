import LineShell.Text.Ranges

/-!
Blanks: the characters that Unicode counts as white space, together with the
four separators U+001C to U+001F.
-/
namespace LineShell.Text

def blankRanges : List (Nat × Nat) :=
  [(0x9, 0xD), (0x1C, 0x20), (0x85, 0x85), (0xA0, 0xA0), (0x1680, 0x1680),
   (0x2000, 0x200A), (0x2028, 0x2029), (0x202F, 0x202F), (0x205F, 0x205F),
   (0x3000, 0x3000)]

def isBlank (c : Char) : Bool := inRanges blankRanges c

def allBlank (text : Text) : Bool := text.all isBlank

def trimStart (text : Text) : Text := text.dropWhile isBlank

def trimEnd (text : Text) : Text := dropEndWhile isBlank text

theorem trimStart_of_allBlank {text : Text} (h : allBlank text = true) :
    trimStart text = [] := by
  induction text with
  | nil => rfl
  | cons c rest ih =>
    simp only [allBlank, List.all_cons, Bool.and_eq_true] at h
    simpa [trimStart, List.dropWhile_cons, h.1] using ih h.2

end LineShell.Text
