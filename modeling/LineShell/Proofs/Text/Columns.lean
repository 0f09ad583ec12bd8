import LineShell.Proofs.Text.Pieces
import LineShell.Text.Columns

/-!
What a display makes of a message.

It drops some controls, puts one to eight spaces in the place of a tab, and
keeps every other character in its place (`shows_display`).  So exactly the
messages without such a control and without a tab are shown as they are
(`display_eq_self_iff`).
-/
namespace LineShell.Text.Columns

def IsKept (c : Char) : Prop := isDropped c = false ∧ c ≠ '\t'

/-- Whether a display keeps every character of a text. -/
def IsSteady (text : Text) : Prop := ∀ c ∈ text, IsKept c

instance : DecidablePred IsKept := fun c =>
  inferInstanceAs (Decidable (isDropped c = false ∧ c ≠ '\t'))

instance : DecidablePred IsSteady := fun text => List.decidableBAll IsKept text

/-- A text, and what may be shown of it. -/
inductive Shows : Text → Text → Prop
  | nil : Shows [] []
  | drop {c : Char} {rest shown : Text} (hc : isDropped c = true)
      (h : Shows rest shown) :
      Shows (c :: rest) shown
  | keep {c : Char} {rest shown : Text} (hc : IsKept c) (h : Shows rest shown) :
      Shows (c :: rest) (c :: shown)
  | tab {spaces : Nat} {rest shown : Text} (hsome : 1 ≤ spaces)
      (hfew : spaces ≤ tabWidth)
      (h : Shows rest shown) :
      Shows ('\t' :: rest) (List.replicate spaces ' ' ++ shown)

namespace Shows

variable {text rest shown shown' : Text}

theorem isSteady (h : Shows text shown) : IsSteady shown := by
  induction h with
  | nil => exact fun c hc => absurd hc List.not_mem_nil
  | drop hc h ih => exact ih
  | keep hc h ih => exact List.forall_mem_cons.2 ⟨hc, ih⟩
  | tab hsome hfew h ih =>
      intro c hc
      rcases List.mem_append.1 hc with hspace | hrest
      · rw [List.eq_of_mem_replicate hspace]
        decide
      · exact ih c hrest

/-- What a display keeps is seen as it is. -/
theorem eq_of_isSteady (h : Shows text shown) (hsteady : IsSteady text) :
    shown = text := by
  induction h with
  | nil => rfl
  | drop hc h ih =>
      have hkept := (hsteady _ List.mem_cons_self).1
      rw [hc] at hkept
      cases hkept
  | keep hc h ih =>
      rw [ih fun c hmem => hsteady c (List.mem_cons_of_mem _ hmem)]
  | tab hsome hfew h ih => exact absurd rfl (hsteady _ List.mem_cons_self).2

theorem of_isSteady (hsteady : IsSteady text) : Shows text text := by
  induction text with
  | nil => exact .nil
  | cons c rest ih =>
      obtain ⟨hc, hrest⟩ := List.forall_mem_cons.1 hsteady
      exact .keep hc (ih hrest)

theorem append (h : Shows text shown) (hrest : Shows rest shown') :
    Shows (text ++ rest) (shown ++ shown') := by
  induction h with
  | nil => exact hrest
  | drop hc h ih => exact .drop hc ih
  | keep hc h ih => exact .keep hc ih
  | tab hsome hfew h ih =>
      rw [List.append_assoc]
      exact .tab hsome hfew ih

/-- What is shown of two texts is what is shown of the one and then of the
other. -/
theorem exists_of_append (h : Shows (text ++ rest) shown) :
    ∃ first second, shown = first ++ second ∧ Shows text first ∧
      Shows rest second := by
  induction text generalizing shown with
  | nil => exact ⟨[], shown, rfl, .nil, h⟩
  | cons c others ih =>
      cases h with
      | drop hc h =>
          obtain ⟨first, second, rfl, hfirst, hsecond⟩ := ih h
          exact ⟨first, second, rfl, .drop hc hfirst, hsecond⟩
      | keep hc h =>
          obtain ⟨first, second, rfl, hfirst, hsecond⟩ := ih h
          exact ⟨c :: first, second, rfl, .keep hc hfirst, hsecond⟩
      | tab hsome hfew h =>
          obtain ⟨first, second, rfl, hfirst, hsecond⟩ := ih h
          exact ⟨_ ++ first, second, (List.append_assoc _ _ _).symm,
            .tab hsome hfew hfirst, hsecond⟩

/-- Dropping the controls beforehand makes no difference. -/
theorem of_filter (h : Shows (text.filter fun c => !isDropped c) shown) :
    Shows text shown := by
  induction text generalizing shown with
  | nil => exact h
  | cons c rest ih =>
      cases hc : isDropped c with
      | true =>
          rw [List.filter_cons_of_neg (by simp [hc])] at h
          exact .drop hc (ih h)
      | false =>
          rw [List.filter_cons_of_pos (by simp [hc])] at h
          cases h with
          | drop hdropped h =>
              rw [hc] at hdropped
              cases hdropped
          | keep hkept h => exact .keep hkept (ih h)
          | tab hsome hfew h => exact .tab hsome hfew (ih h)

end Shows

theorem shows_fill (column : Nat) {pieces : List Text}
    (h : ∀ piece ∈ pieces, IsSteady piece) :
    Shows (joinWith ['\t'] pieces) (fill column pieces) := by
  induction pieces generalizing column with
  | nil => exact .nil
  | cons piece rest ih =>
      obtain ⟨hpiece, hrest⟩ := List.forall_mem_cons.1 h
      cases rest with
      | nil => exact .of_isSteady hpiece
      | cons next others =>
          rw [joinWith, fill, List.append_assoc, List.append_assoc]
          refine .append (.of_isSteady hpiece) ?_
          have hfew := toTabStop_lt (column + width (piece ++ [' ']))
          exact @Shows.tab (toTabStop (column + width (piece ++ [' '])) + 1) _ _
            (by omega) hfew
            (ih _ hrest)

/-- A line in which no control has to be dropped is shown with spaces for its
tabs. -/
theorem shows_expandTabs {line : Text} (h : ∀ c ∈ line, isDropped c = false) :
    Shows line (expandTabs line) := by
  have hpieces : ∀ piece ∈ splitOn '\t' line, IsSteady piece := by
    intro piece hpiece c hc
    refine ⟨h c (mem_of_mem_splitOn hpiece hc), ?_⟩
    rintro rfl
    exact not_mem_of_mem_splitOn hpiece hc
  have hshows := shows_fill 0 hpieces
  rwa [joinWith_splitOn] at hshows

theorem shows_lines {pieces : List Text}
    (h : ∀ piece ∈ pieces, ∀ c ∈ piece, isDropped c = false) :
    Shows (joinWith ['\n'] pieces)
      (joinWith ['\n'] (pieces.map expandTabs)) := by
  induction pieces with
  | nil => exact .nil
  | cons piece rest ih =>
      obtain ⟨hpiece, hrest⟩ := List.forall_mem_cons.1 h
      cases rest with
      | nil => exact shows_expandTabs hpiece
      | cons next others =>
          have hfeed : Shows ['\n'] ['\n'] := .of_isSteady (by decide)
          exact ((shows_expandTabs hpiece).append hfeed).append (ih hrest)

theorem shows_display (message : Text) : Shows message (display message) := by
  have hpieces : ∀ piece ∈ splitOn '\n' (message.filter fun c => !isDropped c),
      ∀ c ∈ piece, isDropped c = false := by
    intro piece hpiece c hc
    simpa using (List.mem_filter.1 (mem_of_mem_splitOn hpiece hc)).2
  have hshows := shows_lines hpieces
  rw [joinWith_splitOn] at hshows
  exact hshows.of_filter

theorem display_eq_self_iff {message : Text} :
    display message = message ↔ IsSteady message := by
  refine ⟨fun h => ?_, (shows_display message).eq_of_isSteady⟩
  rw [← h]
  exact (shows_display message).isSteady

/-- A part of a message is seen as it is exactly if a display keeps every
character of it. -/
theorem infix_display_iff {part message : Text} (h : part <:+: message) :
    part <:+: display message ↔ IsSteady part := by
  constructor
  · intro hseen c hc
    exact (shows_display message).isSteady c (hseen.subset hc)
  · intro hsteady
    obtain ⟨before, after, rfl⟩ := h
    obtain ⟨shown, last, hshown, hfirst, -⟩ :=
      (shows_display _).exists_of_append
    obtain ⟨front, middle, rfl, -, hmiddle⟩ := hfirst.exists_of_append
    rw [hmiddle.eq_of_isSteady hsteady] at hshown
    exact ⟨front, last, hshown.symm⟩

end LineShell.Text.Columns
