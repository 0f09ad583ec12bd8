import LineShell.Proofs.Command.Placement
import LineShell.Proofs.Token.Verbatim

/-!
Lines of nothing but words.

A line that writes words, however they are quoted and spaced, is the command
that has the first one for its name and the others for its arguments
(`ofLine_of_writes`).  Plain words with spaces between them are such a line
(`writes_joinWith`).
-/
namespace LineShell

namespace Token

theorem IsPlain.spells {text : Text} (h : IsPlain text) :
    Spells (word text) text := by
  have hspelling : ∀ piece ∈ text.map Piece.bare, piece.IsSpelling := by
    intro piece hpiece
    obtain ⟨c, hc, rfl⟩ := List.mem_map.1 hpiece
    obtain ⟨⟨hspace, hsingle, hdouble, hescape⟩, hbracket⟩ := h.2 c hc
    exact ⟨hspace, hsingle, hdouble, hescape, hbracket⟩
  have hcontents : Piece.contents (text.map .bare) = text := by
    simp [Piece.contents, List.flatMap_map, Piece.content]
  have hspells := Spells.word hspelling
  rw [hcontents, Piece.spelled_map_bare] at hspells
  exact hspells

theorem writes_joinWith {words : List Text} (h : ∀ word ∈ words, IsPlain word) :
    Writes (words.map word) (Text.joinWith [' '] words) := by
  induction words with
  | nil => exact .nil
  | cons first rest ih =>
      have hfirst := (h first List.mem_cons_self).spells
      have hrest :=
        ih fun other hother => h other (List.mem_cons_of_mem first hother)
      cases rest with
      | nil => exact .last hfirst
      | cons next others =>
          have hwrites := Writes.cons hfirst hrest
          simpa [Text.joinWith] using hwrites

end Token

namespace Command

theorem ofTokens_words (name : Text) (arguments : List Text) :
    ofTokens ((name :: arguments).map Token.word) =
      .ok ⟨name, arguments, []⟩ := by
  have hinterleaves : ∀ words : List Text, Interleaves (words.map Token.word) []
      (words.map Token.word) := by
    intro words
    induction words with
    | nil => exact .nil
    | cons first rest ih => exact .word (Or.inl rfl) ih
  have htexts : (arguments.map Token.word).map Token.text = arguments := by
    simp [Token.word, Function.comp_def]
  have hread :=
    Draft.read_of_interleaves (hinterleaves (name :: arguments)) Draft.empty
  have hwords : Draft.empty.addWords ((name :: arguments).map Token.word) =
      ⟨some name, (arguments.map Token.word).map Token.text, []⟩ :=
    Draft.addWords_named name [] [] (arguments.map Token.word)
  rw [hwords, htexts] at hread
  rw [ofTokens, hread]
  rfl

theorem ofLine_of_writes {name line : Text} {arguments : List Text}
    (hwords : ∀ word ∈ name :: arguments, word ≠ [])
    (h : Token.Writes ((name :: arguments).map Token.word) line) :
    ofLine line = .ok ⟨name, arguments, []⟩ := by
  have hlexical :
      ∀ token ∈ (name :: arguments).map Token.word, token.IsLexical := by
    intro token htoken
    obtain ⟨word, hword, rfl⟩ := List.mem_map.1 htoken
    exact Or.inl ⟨word, hwords word hword, rfl⟩
  obtain ⟨pieces, hwhole, hline, hgroup⟩ := h.exists_pieces hlexical
  rw [ofLine, Token.ofLine_eq_ok_iff.2 ⟨pieces, hwhole, hline, hgroup.symm⟩]
  exact ofTokens_words name arguments

end Command

end LineShell
