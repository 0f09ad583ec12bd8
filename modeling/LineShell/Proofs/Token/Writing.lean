import LineShell.Proofs.Token.Spacing

/-!
Writing tokens as a line, in every way of quoting and spacing, and reading them
back.

Main statement: every line that writes a list of tokens is read as that list
(`ofLine_writing`).  Only a bare `>` makes an operator, and pieces that spell a
word have none.  So no operator starts inside a word, whatever digits it has and
however it is cut into pieces.
-/
namespace LineShell.Token

/-- Whether a character between double quotes is written as the rules for
quoting ask: quotes and backslashes after a backslash, dollar signs and
backticks either way, and others as they are. -/
def QuotedChar.IsSpelling : QuotedChar → Prop
  | .plain c => c ≠ '"' ∧ c ≠ '\\'
  | .escaped c => Escapable c

namespace Piece

/-- Whether a piece may stand in a written word. -/
def IsSpelling : Piece → Prop
  | .single content => '\'' ∉ content
  | .double parts => ∀ part ∈ parts, part.IsSpelling
  | .escaped _ => True
  | .bare c => c ≠ ' ' ∧ c ≠ '\'' ∧ c ≠ '"' ∧ c ≠ '\\' ∧ c ≠ '>'

end Piece

/-- How a token may be written: a word as any pieces that spell it, an operator
as it is. -/
inductive Spells : Token → Text → Prop
  | word {pieces : List Piece} (h : ∀ piece ∈ pieces, piece.IsSpelling) :
      Spells (word (Piece.contents pieces)) (Piece.spelled pieces)
  | redirect (operator : Operator) : Spells (redirect operator) operator.text

/-- How tokens may be written on a line: with at least one space between
neighbours, and any number of spaces at both ends. -/
inductive Writes : List Token → Text → Prop
  | nil : Writes [] []
  | space {tokens : List Token} {line : Text} (h : Writes tokens line) :
      Writes tokens (' ' :: line)
  | last {token : Token} {text : Text} (h : Spells token text) :
      Writes [token] text
  | cons {token : Token} {tokens : List Token} {text line : Text}
      (h : Spells token text)
      (hrest : Writes tokens line) :
      Writes (token :: tokens) (text ++ ' ' :: line)

theorem QuotedChar.fit_of_isSpelling {next : Option Char}
    {parts : List QuotedChar} (h : ∀ part ∈ parts, part.IsSpelling) :
    Fit next parts := by
  induction parts with
  | nil => trivial
  | cons part rest ih =>
      have hpart := h part List.mem_cons_self
      have hrest :=
        ih fun other hother => h other (List.mem_cons_of_mem part hother)
      cases part with
      | plain c => exact ⟨hpart.1, fun hc => absurd hc hpart.2, hrest⟩
      | escaped c => exact ⟨hpart, hrest⟩

namespace Piece

theorem isWhole_of_isSpelling {piece : Piece} (h : piece.IsSpelling) :
    piece.IsWhole := by
  cases piece with
  | single content => exact h
  | double parts => exact QuotedChar.fit_of_isSpelling h
  | escaped c => trivial
  | bare c => exact ⟨h.2.1, h.2.2.1, h.2.2.2.1⟩

theorem IsSpelling.ne_bracket {piece : Piece} (h : piece.IsSpelling) :
    piece ≠ .bare '>' := by
  rintro rfl
  exact h.2.2.2.2 rfl

theorem IsSpelling.ne_space {piece : Piece} (h : piece.IsSpelling) :
    piece ≠ .bare ' ' := by
  rintro rfl
  exact h.1 rfl

/-- Pieces that spell a word are one group. -/
theorem group_of_isSpelling {pieces : List Piece}
    (h : ∀ piece ∈ pieces, piece.IsSpelling) :
    group [] pieces = ended (contents pieces) := by
  have hgroup : group [] (pieces ++ []) = group ([] ++ contents pieces) [] := by
    apply group_append
    · intro piece hpiece
      exact ⟨(h piece hpiece).ne_space, (h piece hpiece).ne_bracket⟩
    · simp
  rw [List.append_nil, List.nil_append] at hgroup
  rw [hgroup, group]

theorem group_text (operator : Operator) :
    group [] (operator.text.map bare) = [redirect operator] := by
  have hgroup : group [] (operator.text.map bare ++ []) =
      ended [] ++ redirect operator :: group [] [] := by
    apply group_operator <;> simp
  rw [List.append_nil] at hgroup
  rw [hgroup, group]
  rfl

end Piece

open Piece (group spelled)

theorem isWhole_of_mem_operator {operator : Operator} {piece : Piece}
    (h : piece ∈ operator.text.map Piece.bare) : piece.IsWhole := by
  obtain ⟨c, count, htext, hquote, -⟩ := operator.text_eq_cons
  rw [htext, List.map_cons, List.map_replicate, List.mem_cons] at h
  rcases h with rfl | h
  · exact hquote
  · rw [List.eq_of_mem_replicate h]
    exact ⟨by decide, by decide, by decide⟩

/-- A written token is made of whole pieces, which make that token. -/
theorem Spells.exists_pieces {token : Token} {text : Text}
    (h : Spells token text) (hlexical : token.IsLexical) :
    ∃ pieces : List Piece, (∀ piece ∈ pieces, piece.IsWhole) ∧
      spelled pieces = text ∧
      group [] pieces = [token] := by
  cases h with
  | @word pieces hspelling =>
      have hne : Piece.contents pieces ≠ [] := by
        rcases hlexical with ⟨text, hne, heq⟩ | ⟨operator, heq⟩
        · cases heq
          exact hne
        · cases heq
      refine ⟨pieces, fun piece hpiece =>
        Piece.isWhole_of_isSpelling (hspelling piece hpiece), rfl, ?_⟩
      rw [Piece.group_of_isSpelling hspelling, Piece.ended, if_neg hne]
  | redirect operator =>
      exact ⟨operator.text.map .bare, fun piece => isWhole_of_mem_operator,
        Piece.spelled_map_bare _, Piece.group_text operator⟩

theorem Writes.exists_pieces {tokens : List Token} {line : Text}
    (h : Writes tokens line) (hlexical : ∀ token ∈ tokens, token.IsLexical) :
    ∃ pieces : List Piece, (∀ piece ∈ pieces, piece.IsWhole) ∧
      spelled pieces = line ∧
      group [] pieces = tokens := by
  induction h with
  | nil => exact ⟨[], by simp, rfl, by rw [group]; rfl⟩
  | space h ih =>
      obtain ⟨pieces, hwhole, rfl, rfl⟩ := ih hlexical
      refine ⟨.bare ' ' :: pieces, ?_, rfl, Piece.group_space [] pieces⟩
      simpa [Piece.isWhole_space] using hwhole
  | last h => exact h.exists_pieces (hlexical _ List.mem_cons_self)
  | cons h hrest ih =>
      obtain ⟨first, hfirst, rfl, hgroup⟩ :=
        h.exists_pieces (hlexical _ List.mem_cons_self)
      obtain ⟨pieces, hwhole, rfl, rfl⟩ := ih fun token htoken =>
        hlexical token (List.mem_cons_of_mem _ htoken)
      refine ⟨first ++ .bare ' ' :: pieces,
        ?_, by simp [Piece.spelled_append, Piece.written], ?_⟩
      · intro piece hpiece
        simp only [List.mem_append, List.mem_cons] at hpiece
        rcases hpiece with hpiece | rfl | hpiece
        · exact hfirst piece hpiece
        · exact Piece.isWhole_space
        · exact hwhole piece hpiece
      · rw [Piece.group_append_space, hgroup]
        rfl

theorem IsLexical.exists_spells {token : Token} (h : token.IsLexical) :
    ∃ text, Spells token text := by
  rcases h with ⟨text, -, rfl⟩ | ⟨operator, rfl⟩
  · have hword : Piece.contents (text.map .escaped) = text := by
      induction text with
      | nil => rfl
      | cons c rest ih => simpa [Piece.contents, Piece.content] using ih
    have hspells :=
      @Spells.word (text.map .escaped) (by simp [Piece.IsSpelling])
    rw [hword] at hspells
    exact ⟨_, hspells⟩
  · exact ⟨_, .redirect operator⟩

theorem exists_writes {tokens : List Token}
    (h : ∀ token ∈ tokens, token.IsLexical) :
    ∃ line, Writes tokens line := by
  induction tokens with
  | nil => exact ⟨[], .nil⟩
  | cons token rest ih =>
      obtain ⟨text, htext⟩ := (h token List.mem_cons_self).exists_spells
      obtain ⟨line, hline⟩ :=
        ih fun other hother => h other (List.mem_cons_of_mem token hother)
      exact ⟨_, .cons htext hline⟩

/-- Words with a character and operators can be written as a line, and however
they are written, they are read back as they are. -/
theorem ofLine_writing {tokens : List Token}
    (hlexical : ∀ token ∈ tokens, token.IsLexical) :
    (∃ line, Writes tokens line) ∧ ∀ line, Writes tokens line →
      ofLine line = .ok tokens := by
  refine ⟨exists_writes hlexical, fun line h => ?_⟩
  obtain ⟨pieces, hwhole, hline, hgroup⟩ := h.exists_pieces hlexical
  rw [ofLine_eq_map_group, Piece.cut_eq_ok_iff.2 ⟨hwhole, hline⟩, ← hgroup]
  rfl

/-- A word that looks like an operator, an operator, and a word with a space and
a quote. -/
theorem ofLine_writing_three :
    (∀ token ∈ [word ['1', '>'], redirect ⟨some .errors, .append⟩,
      word ['a', ' ', '"']], token.IsLexical) ∧
    ofLine " 1'>'  2>> a\" \\\"\"".toList =
      .ok [word ['1', '>'], redirect ⟨some .errors, .append⟩,
        word ['a', ' ', '"']] := by
  have hlexical : ∀ token ∈ [word ['1', '>'], redirect ⟨some .errors, .append⟩,
      word ['a', ' ', '"']], token.IsLexical := by
    simp [IsLexical, word, redirect]
  have hfirst : Spells (word ['1', '>']) "1'>'".toList :=
    @Spells.word [.bare '1', .single ['>']] (by simp [Piece.IsSpelling])
  have hlast : Spells (word ['a', ' ', '"']) "a\" \\\"\"".toList :=
    @Spells.word [.bare 'a', .double [.plain ' ', .escaped '"']]
      (by simp [Piece.IsSpelling, QuotedChar.IsSpelling, Escapable])
  have hwrites := Writes.space
      (.cons hfirst (.space (.cons (.redirect ⟨some .errors, .append⟩)
    (.last hlast))))
  exact ⟨hlexical, (ofLine_writing hlexical).2 _ hwrites⟩

end LineShell.Token
