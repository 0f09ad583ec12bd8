/-!
Text is a list of characters, so that every operation on it is a recursion on
the list.

This module has the three operations that the rest of the library builds on:
cutting at a separator, joining with one, and dropping characters at either end.
Cutting and joining undo one another (`joinWith_splitOn`, `splitOn_joinWith`).
-/
namespace LineShell

/-- A sequence of Unicode scalar values. -/
abbrev Text := List Char

namespace Text

/-- The pieces of a text between the occurrences of `separator`, empty pieces
included. -/
def splitOn (separator : Char) : Text → List Text
  | [] => [[]]
  | c :: rest =>
    if c = separator then
      [] :: splitOn separator rest
    else
      match splitOn separator rest with
      | [] => [[c]]
      | piece :: pieces => (c :: piece) :: pieces

/-- The pieces in order with `separator` between neighbours. -/
def joinWith (separator : Text) : List Text → Text
  | [] => []
  | [piece] => piece
  | piece :: next :: rest =>
      piece ++ separator ++ joinWith separator (next :: rest)

/-- A text without the longest run of characters at its end that satisfy
`drops`. -/
def dropEndWhile (drops : Char → Bool) (text : Text) : Text :=
  (text.reverse.dropWhile drops).reverse

/-- A text without the runs at both ends of characters that satisfy `drops`. -/
def dropAround (drops : Char → Bool) (text : Text) : Text :=
  dropEndWhile drops (text.dropWhile drops)

def replace (old new : Char) (text : Text) : Text :=
  text.map fun c => if c = old then new else c

/-- The number of bytes of the UTF-8 form. -/
def byteCount : Text → Nat
  | [] => 0
  | c :: rest => c.utf8Size + byteCount rest

/-- The decimal digits of an integer, with a minus sign before a negative
one. -/
def ofInt (n : Int) : Text :=
  if n < 0 then '-' :: Nat.toDigits 10 n.natAbs else Nat.toDigits 10 n.natAbs

@[simp] theorem splitOn_nil (separator : Char) : splitOn separator [] = [[]] :=
  rfl

@[simp] theorem splitOn_separator (separator : Char) (rest : Text) :
    splitOn separator (separator :: rest) = [] :: splitOn separator rest := by
  simp [splitOn]

theorem splitOn_ne_nil (separator : Char) (text : Text) :
    splitOn separator text ≠ [] := by
  cases text with
  | nil => simp
  | cons c rest =>
    simp only [splitOn]
    split
    · simp
    · split <;> simp

/-- Joining the pieces with the separator gives the text back. -/
theorem joinWith_splitOn (separator : Char) (text : Text) :
    joinWith [separator] (splitOn separator text) = text := by
  induction text with
  | nil => rfl
  | cons c rest ih =>
    have hne := splitOn_ne_nil separator rest
    cases hpieces : splitOn separator rest with
    | nil => exact absurd hpieces hne
    | cons piece pieces =>
      rw [hpieces] at ih
      by_cases hc : c = separator
      · subst hc
        simp [hpieces, joinWith, ih]
      · have hsplit :
            splitOn separator (c :: rest) = (c :: piece) :: pieces := by
          simp [splitOn, hc, hpieces]
        rw [hsplit]
        cases pieces with
        | nil => simpa [joinWith] using ih
        | cons next more => simpa [joinWith] using ih

/-- No piece holds the separator. -/
theorem not_mem_of_mem_splitOn {separator : Char} {text piece : Text}
    (h : piece ∈ splitOn separator text) : separator ∉ piece := by
  induction text generalizing piece with
  | nil =>
    simp only [splitOn_nil, List.mem_singleton] at h
    subst h
    simp
  | cons c rest ih =>
    by_cases hc : c = separator
    · subst hc
      rw [splitOn_separator, List.mem_cons] at h
      rcases h with rfl | h
      · simp
      · exact ih h
    · cases hpieces : splitOn separator rest with
      | nil => exact absurd hpieces (splitOn_ne_nil separator rest)
      | cons first others =>
        simp only [splitOn, hc, if_false, hpieces, List.mem_cons] at h
        rcases h with rfl | h
        · have hfirst : separator ∉ first := ih (hpieces ▸ List.mem_cons_self)
          simp [Ne.symm hc, hfirst]
        · exact ih (hpieces ▸ List.mem_cons_of_mem _ h)

/-- A text without the separator is a piece of its own. -/
theorem splitOn_of_not_mem {separator : Char} {text : Text}
    (h : separator ∉ text) :
    splitOn separator text = [text] := by
  induction text with
  | nil => rfl
  | cons c rest ih =>
    simp only [List.mem_cons, not_or] at h
    simp [splitOn, Ne.symm h.1, ih h.2]

/-- A piece before a separator is cut off as it is. -/
theorem splitOn_append {separator : Char} {piece : Text} (h : separator ∉ piece)
    (rest : Text) :
    splitOn separator (piece ++ separator :: rest) =
      piece :: splitOn separator rest := by
  induction piece with
  | nil => simp
  | cons c others ih =>
    simp only [List.mem_cons, not_or] at h
    simp [splitOn, Ne.symm h.1, ih h.2]

/-- Cutting at the separator gives joined pieces back. -/
theorem splitOn_joinWith {separator : Char} {pieces : List Text}
    (hne : pieces ≠ []) (h : ∀ piece ∈ pieces, separator ∉ piece) :
    splitOn separator (joinWith [separator] pieces) = pieces := by
  induction pieces with
  | nil => exact absurd rfl hne
  | cons piece rest ih =>
    have hpiece : separator ∉ piece := h piece List.mem_cons_self
    cases rest with
    | nil => exact splitOn_of_not_mem hpiece
    | cons next others =>
      have hrest :=
        ih (by simp) fun other hother => h other (List.mem_cons_of_mem _ hother)
      simp only [joinWith, List.append_assoc, List.singleton_append]
      rw [splitOn_append hpiece, hrest]

@[simp] theorem replace_nil (old new : Char) : replace old new [] = [] := rfl

end Text

end LineShell
