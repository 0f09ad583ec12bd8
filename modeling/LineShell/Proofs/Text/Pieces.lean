import LineShell.Text

/-!
The pieces of a text, cut at a separator or put together around one: a text that
continues after a separator has the pieces of both parts
(`splitOn_append_separator`), and cutting and joining bring in nothing new
(`mem_of_mem_splitOn`, `mem_joinWith`).
-/
namespace LineShell.Text

/-- A text is cut at a separator into the pieces before it and the pieces after
it. -/
theorem splitOn_append_separator (separator : Char) (first rest : Text) :
    splitOn separator (first ++ separator :: rest) =
      splitOn separator first ++ splitOn separator rest := by
  induction first with
  | nil => simp
  | cons c others ih =>
      by_cases hc : c = separator
      · simp [splitOn, hc, ih]
      · cases hpieces : splitOn separator others with
        | nil => exact absurd hpieces (splitOn_ne_nil separator others)
        | cons piece pieces => simp [splitOn, hc, ih, hpieces]

/-- What is in joined pieces is in the text between them or in one of them. -/
theorem mem_joinWith {c : Char} {separator : Text}
    {pieces : List Text} (h : c ∈ joinWith separator pieces) :
    c ∈ separator ∨ ∃ piece ∈ pieces, c ∈ piece := by
  induction pieces with
  | nil => cases h
  | cons piece rest ih =>
      cases rest with
      | nil => exact Or.inr ⟨piece, List.mem_cons_self, h⟩
      | cons next others =>
          rcases List.mem_append.1 h with hfront | hrest
          · rcases List.mem_append.1 hfront with hpiece | hseparator
            · exact Or.inr ⟨piece, List.mem_cons_self, hpiece⟩
            · exact Or.inl hseparator
          · rcases ih hrest with hseparator | ⟨other, hother, hc⟩
            · exact Or.inl hseparator
            · exact Or.inr ⟨other, List.mem_cons_of_mem _ hother, hc⟩

/-- The pieces of a text hold nothing that the text does not. -/
theorem mem_of_mem_splitOn {separator c : Char} {text piece : Text}
    (hpiece : piece ∈ splitOn separator text) (hc : c ∈ piece) : c ∈ text := by
  induction text generalizing piece with
  | nil =>
      obtain rfl := List.mem_singleton.1 hpiece
      cases hc
  | cons first rest ih =>
      by_cases hfirst : first = separator
      · rw [hfirst, splitOn_separator] at hpiece
        rcases List.mem_cons.1 hpiece with rfl | hpiece
        · cases hc
        · exact List.mem_cons_of_mem _ (ih hpiece hc)
      · cases hpieces : splitOn separator rest with
        | nil => exact absurd hpieces (splitOn_ne_nil separator rest)
        | cons front others =>
            simp only [splitOn, hfirst, if_false, hpieces] at hpiece
            rcases List.mem_cons.1 hpiece with rfl | hpiece
            · rcases List.mem_cons.1 hc with rfl | hc
              · exact List.mem_cons_self
              · exact List.mem_cons_of_mem _
                  (ih (hpieces ▸ List.mem_cons_self) hc)
            · exact List.mem_cons_of_mem _
                (ih (hpieces ▸ List.mem_cons_of_mem _ hpiece) hc)

end LineShell.Text
