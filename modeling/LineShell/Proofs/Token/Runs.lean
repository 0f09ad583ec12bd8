import LineShell.Proofs.Token.Spacing
import Mathlib.Data.List.Chain

/-!
The words of a line.  Its pieces are spaces, redirection operators, and what
stands between these: runs of pieces, each as long as it can be.

Main statement: a line is read as the operators and the contents of the runs, in
order, where a run without any character is no word
(`ofLine_eq_ok_iff_division`).  Existence of the division is by induction along
the grouping, with the run in progress kept beside the word in progress.
-/
namespace LineShell.Token

open Piece (contents group)

/-- A part of a line between whole pieces. -/
inductive Segment where
  /-- A bare space. -/
  | space
  /-- Adjacent pieces that are neither bare spaces nor part of an operator. -/
  | run (pieces : List Piece)
  | operator (operator : Operator)

namespace Segment

def pieces : Segment → List Piece
  | .space => [.bare ' ']
  | .run inside => inside
  | .operator found => found.text.map .bare

/-- What a segment is read as: a run is one word, if it has a character. -/
def tokens : Segment → List Token
  | .space => []
  | .run inside => if contents inside = [] then [] else [word (contents inside)]
  | .operator found => [redirect found]

/-- Whether a run has pieces, none of which belongs elsewhere: an angle bracket
outside quotes is part of an operator. -/
def Fits : Segment → Prop
  | .space => True
  | .run inside => inside ≠ [] ∧ ∀ piece ∈ inside, piece ≠ .bare ' ' ∧
      piece ≠ .bare '>'
  | .operator _ => True

end Segment

/-- Whether a run is the number of a stream, as far as its characters go. -/
def IsNumber (run : List Piece) : Prop :=
  ∃ before last, run = before ++ [last] ∧
    (last = .bare '1' ∨ last = .bare '2') ∧
    contents before = []

/-- Whether one segment may stand right before another.  Runs are as long as
they can be, and so are operators.  A digit belongs to the operator after it
exactly if its run has no character before it. -/
def Segment.MayPrecede : Segment → Segment → Prop
  | .space, _ => True
  | .run _, .space => True
  | .run _, .run _ => False
  | .run inside, .operator found =>
    (found.descriptor ≠ none → contents inside = []) ∧
      (found.descriptor = none → ¬ IsNumber inside)
  | .operator found, next => found.mode = .truncate →
      next.pieces.head? ≠ some (.bare '>')

/-- A division of pieces into segments. -/
structure IsDivision (segments : List Segment) (pieces : List Piece) :
    Prop where
  pieces_eq : segments.flatMap Segment.pieces = pieces
  fits : ∀ segment ∈ segments, segment.Fits
  order : segments.IsChain Segment.MayPrecede

namespace Segment

theorem Fits.pieces_ne_nil {segment : Segment} (h : segment.Fits) :
    segment.pieces ≠ [] := by
  cases segment with
  | space => simp [pieces]
  | run inside => exact h.1
  | operator found =>
      obtain ⟨c, count, htext, -⟩ := found.text_eq_cons
      simp [pieces, htext]

theorem head?_flatMap_cons {segment : Segment} (h : segment.Fits)
    (segments : List Segment) :
    ((segment :: segments).flatMap pieces).head? = segment.pieces.head? := by
  obtain ⟨piece, rest, hpieces⟩ := List.exists_cons_of_ne_nil h.pieces_ne_nil
  rw [List.flatMap_cons, hpieces]
  rfl

end Segment

namespace IsDivision

variable {segment : Segment} {segments : List Segment} {pieces : List Piece}

theorem nil : IsDivision [] [] := ⟨rfl, by simp, .nil⟩

theorem cons (hfits : segment.Fits) (h : IsDivision segments pieces)
    (horder : ∀ next ∈ segments.head?, segment.MayPrecede next) :
    IsDivision (segment :: segments) (segment.pieces ++ pieces) where
  pieces_eq := by rw [List.flatMap_cons, h.pieces_eq]
  fits := by simpa [hfits] using h.fits
  order := List.isChain_cons.2 ⟨horder, h.order⟩

theorem tail (h : IsDivision (segment :: segments) pieces) :
    ∃ rest, pieces = segment.pieces ++ rest ∧ IsDivision segments rest ∧
      segment.Fits ∧
      ∀ next ∈ segments.head?, segment.MayPrecede next := by
  obtain ⟨rfl, hfits, horder⟩ := h
  rw [List.isChain_cons] at horder
  refine ⟨segments.flatMap Segment.pieces, rfl, ⟨rfl, ?_, horder.2⟩,
    hfits segment List.mem_cons_self, horder.1⟩
  intro other hother
  exact hfits other (List.mem_cons_of_mem segment hother)

theorem head?_eq (h : IsDivision segments pieces) :
    pieces.head? = segments.head?.bind fun segment => segment.pieces.head? := by
  obtain ⟨rfl, hfits, -⟩ := h
  cases segments with
  | nil => rfl
  | cons segment rest =>
      exact Segment.head?_flatMap_cons (hfits segment List.mem_cons_self) rest

theorem head?_ne_bracket {found : Operator} (h : IsDivision segments pieces)
    (horder : ∀ next ∈ segments.head?, (Segment.operator found).MayPrecede next)
    (hmode : found.mode = .truncate) : pieces.head? ≠ some (.bare '>') := by
  rw [h.head?_eq]
  cases hhead : segments.head? with
  | none => simp
  | some next => exact horder next hhead hmode

theorem group_operator
    {found : Operator} {word : Text} (h : IsDivision segments pieces)
    (horder : ∀ next ∈ segments.head?, (Segment.operator found).MayPrecede
      next) (hstart : found.descriptor ≠ none → word = []) :
    group word (found.text.map .bare ++ pieces) =
      Piece.ended word ++ redirect found :: group [] pieces := by
  apply Piece.group_operator hstart
  exact h.head?_ne_bracket horder

/-- What may stand after a run ends its word. -/
theorem group_contents {inside : List Piece} (h : IsDivision segments pieces)
    (horder : ∀ next ∈ segments.head?, (Segment.run inside).MayPrecede next) :
    group (contents inside) pieces =
      Piece.ended (contents inside) ++ group [] pieces := by
  cases segments with
  | nil =>
      obtain ⟨rfl, -, -⟩ := h
      rw [List.flatMap_nil, group, group]
      simp [Piece.ended]
  | cons segment segments =>
      obtain ⟨rest, rfl, hrest, -, hnext⟩ := h.tail
      have hsegment := horder segment rfl
      cases segment with
      | space =>
          simp only [Segment.pieces, List.singleton_append]
          rw [Piece.group_space, Piece.group_space]
          rfl
      | run other => exact hsegment.elim
      | operator found =>
          simp only [Segment.pieces]
          rw [hrest.group_operator hnext hsegment.1,
            hrest.group_operator hnext fun _ => rfl]
          rfl

/-- A run before a bracket is no number of a stream. -/
theorem not_isNumber {inside : List Piece} (h : IsDivision segments pieces)
    (horder : ∀ next ∈ segments.head?, (Segment.run inside).MayPrecede next)
    (hhead : pieces.head? = some (.bare '>')) : ¬ IsNumber inside := by
  rw [h.head?_eq] at hhead
  obtain ⟨next, hsegment, hbracket⟩ := Option.bind_eq_some_iff.1 hhead
  have hnext := horder next hsegment
  cases next with
  | space => simp [Segment.pieces] at hbracket
  | run other => exact hnext.elim
  | operator found =>
      exact hnext.2 ((Piece.head?_map_text_iff found).1 hbracket)

/-- The groups of divided pieces are the tokens of the segments. -/
theorem group_eq (h : IsDivision segments pieces) :
    group [] pieces = segments.flatMap Segment.tokens := by
  induction segments generalizing pieces with
  | nil =>
      obtain ⟨rfl, -, -⟩ := h
      rw [List.flatMap_nil, group]
      rfl
  | cons segment segments ih =>
      obtain ⟨rest, rfl, hrest, hfits, hnext⟩ := h.tail
      rw [List.flatMap_cons, ← ih hrest]
      cases segment with
      | space => exact Piece.group_space [] rest
      | operator found => exact hrest.group_operator hnext fun _ => rfl
      | run inside =>
          have hlast : rest.head? = some (.bare '>') → ∀ before last,
              inside = before ++ [last] → last = .bare '1' ∨ last = .bare '2' →
              [] ++ contents before ≠ [] := by
            intro hhead before last hinside hdigit hbefore
            exact hrest.not_isNumber hnext hhead ⟨before, last, hinside, hdigit,
              hbefore⟩
          have hgroup := Piece.group_append hfits.2 hlast
          rw [List.nil_append] at hgroup
          exact hgroup.trans (hrest.group_contents hnext)

/-- Pieces before a division become a run of it, if there are any. -/
theorem exists_of_run {inside : List Piece} (h : IsDivision segments pieces)
    (hinside : ∀ piece ∈ inside, piece ≠ .bare ' ' ∧ piece ≠ .bare '>')
    (horder : ∀ next ∈ segments.head?, (Segment.run inside).MayPrecede next) :
    ∃ segments, IsDivision segments (inside ++ pieces) := by
  by_cases hempty : inside = []
  · subst hempty
    exact ⟨segments, h⟩
  · exact ⟨.run inside :: segments, h.cons ⟨hempty, hinside⟩ horder⟩

end IsDivision

/-- Where no operator starts at the last piece of a run and a bracket follows
it, the run is no number of a stream. -/
theorem not_isNumber_append {inside rest : List Piece} {piece : Piece}
    (hnone : Piece.leading? (contents inside).isEmpty (piece :: rest) = none)
    (hhead : rest.head? = some (.bare '>')) :
    ¬ IsNumber (inside ++ [piece]) := by
  rintro ⟨before, last, hsplit, hdigit, hbefore⟩
  obtain ⟨rfl, hlast⟩ := List.append_inj' hsplit rfl
  cases hlast
  obtain ⟨after, rfl⟩ := List.head?_eq_some_iff.1 hhead
  have hstart : (contents inside).isEmpty = true := by rw [hbefore]; rfl
  rcases hdigit with rfl | rfl
  · exact Piece.leading?_ne_none ⟨some .output, .truncate⟩ ⟨after, rfl⟩
      (fun _ => hstart) hnone
  · exact Piece.leading?_ne_none ⟨some .errors, .truncate⟩ ⟨after, rfl⟩
      (fun _ => hstart) hnone

/-- Pieces can be divided, also after a run in progress that a bracket does not
end. -/
theorem exists_isDivision {inside pieces : List Piece}
    (hinside : ∀ piece ∈ inside, piece ≠ .bare ' ' ∧ piece ≠ .bare '>')
    (hnumber : pieces.head? = some (.bare '>') → ¬ IsNumber inside) :
    ∃ segments, IsDivision segments (inside ++ pieces) := by
  generalize hword : contents inside = word
  fun_induction group word pieces generalizing inside with
  | case1 word =>
      apply IsDivision.exists_of_run IsDivision.nil hinside
      simp
  | case2 word piece rest found hfound ih =>
      obtain ⟨segments, hsegments⟩ := @ih [] (by simp) (by simp [IsNumber]) rfl
      rw [List.nil_append] at hsegments
      obtain ⟨after, hafter⟩ := Piece.prefix_of_leading? hfound
      have hdrop : (piece :: rest).drop found.width = after := by
        rw [← hafter, Piece.drop_width]
      have hnext : ∀ next ∈ segments.head?,
          (Segment.operator found).MayPrecede next := by
        intro next hnext hmode
        have hhead := Piece.head?_drop_of_leading? hfound hmode
        rw [hsegments.head?_eq, hnext] at hhead
        exact hhead
      rw [hdrop] at hsegments
      have hfound' :
          IsDivision (.operator found :: segments) (piece :: rest) := by
        rw [← hafter]
        exact hsegments.cons trivial hnext
      apply hfound'.exists_of_run hinside
      intro next hnext
      cases hnext
      constructor
      · intro hnamed
        rw [hword]
        exact List.isEmpty_iff.1 (Piece.wordStart_of_leading? hfound hnamed)
      · intro hbare
        apply hnumber
        rw [hfound'.head?_eq]
        exact (Piece.head?_map_text_iff found).2 hbare
  | case3 word rest hnone ih =>
      obtain ⟨segments, hsegments⟩ := @ih [] (by simp) (by simp [IsNumber]) rfl
      have hspace : IsDivision (.space :: segments) (.bare ' ' :: rest) :=
        hsegments.cons trivial fun _ _ => trivial
      apply hspace.exists_of_run hinside
      intro next hnext
      cases hnext
      trivial
  | case4 word piece rest hnone hspace ih =>
      have hbracket : piece ≠ .bare '>' := by
        rintro rfl
        exact Piece.leading?_ne_none ⟨none, .truncate⟩ ⟨rest, rfl⟩
          (by simp) hnone
      have hlonger : ∀ other ∈ inside ++ [piece], other ≠ .bare ' ' ∧
          other ≠ .bare '>' := by
        intro other hother
        rcases List.mem_append.1 hother with hother | hother
        · exact hinside other hother
        · rw [List.mem_singleton.1 hother]
          exact ⟨hspace, hbracket⟩
      have hlongerNumber : rest.head? = some (.bare '>') →
          ¬ IsNumber (inside ++ [piece]) := by
        rw [← hword] at hnone
        exact not_isNumber_append hnone
      have hsegments := ih hlonger hlongerNumber (by simp [contents, ← hword])
      simpa using hsegments

/-- A line is read as the operators and the contents of the runs of its pieces,
in order. -/
theorem ofLine_eq_ok_iff_division {line : Text} {tokens : List Token} :
    ofLine line = .ok tokens ↔
      ∃ pieces segments, (∀ piece ∈ pieces, piece.IsWhole) ∧
        Piece.spelled pieces = line ∧
        IsDivision segments pieces ∧
        tokens = segments.flatMap Segment.tokens := by
  rw [ofLine_eq_ok_iff]
  constructor
  · rintro ⟨pieces, hwhole, hline, rfl⟩
    obtain ⟨segments, hsegments⟩ :=
      @exists_isDivision [] pieces (by simp) (by simp [IsNumber])
    rw [List.nil_append] at hsegments
    exact ⟨pieces, segments, hwhole, hline, hsegments, hsegments.group_eq⟩
  · rintro ⟨pieces, segments, hwhole, hline, hsegments, rfl⟩
    exact ⟨pieces, hwhole, hline, hsegments.group_eq.symm⟩

/-- Empty quotes make no word, and a digit after them is still the number of a
stream. -/
theorem ofLine_empty_quotes :
    (¬ ∀ (line : Text) (tokens : List Token), ofLine line = .ok tokens →
      ∃ (pieces : List Piece) (segments : List Segment),
        (∀ piece ∈ pieces, piece.IsWhole) ∧ Piece.spelled pieces = line ∧
        segments.flatMap Segment.pieces = pieces ∧
        (∀ segment ∈ segments, segment.Fits) ∧
        tokens = segments.flatMap fun segment =>
          match segment with
          | .run inside => [word (contents inside)]
          | other => other.tokens) ∧
    (Piece.cut "''2>f".toList =
      .ok [.single [], .bare '2', .bare '>', .bare 'f'] ∧
      ofLine "''2>f".toList =
        .ok [redirect ⟨some .errors, .truncate⟩, word ['f']]) := by
  refine ⟨?_, ?_, rfl⟩
  · intro hall
    obtain ⟨pieces, segments, -, hline, rfl, -, htokens⟩ :=
      hall "''".toList [] rfl
    cases segments with
    | nil => cases hline
    | cons segment segments =>
        cases segment with
        | space => simp [Segment.pieces, Piece.written] at hline
        | run inside => simp at htokens
        | operator found => simp [Segment.tokens] at htokens
  · apply Piece.cut_eq_ok_iff.2
    refine ⟨?_, rfl⟩
    simp [Piece.IsWhole]

end LineShell.Token
