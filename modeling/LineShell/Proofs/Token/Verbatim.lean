import LineShell.Proofs.Token.Writing

/-!
What reading a line keeps of its characters.

The words and operators of a line hold the line without its bare spaces, its
quotes and the backslashes that are dropped.  So an ordinary character occurs in
the tokens as often as in the line (`count_of_ofLine`), and where nothing but
spaces is lost, every character stands for itself
(`Piece.exists_bare_of_inked_eq`).

Main statement: a text is read back as one word, with no more around it than
spaces, exactly if it has nothing in it that means something to the reader
(`ofLine_verbatim_iff`).
-/
namespace LineShell.Token

/-- Whether a character outside quotes stands for itself, wherever it is. -/
def IsOrdinary (c : Char) : Prop := c ≠ ' ' ∧ c ≠ '\'' ∧ c ≠ '"' ∧ c ≠ '\\'

/-- Whether a text is read as the word that it is. -/
def IsPlain (text : Text) : Prop :=
  text ≠ [] ∧ ∀ c ∈ text, IsOrdinary c ∧ c ≠ '>'

instance : DecidablePred IsOrdinary := fun c =>
  inferInstanceAs (Decidable (c ≠ ' ' ∧ c ≠ '\'' ∧ c ≠ '"' ∧ c ≠ '\\'))

instance : DecidablePred IsPlain := fun text =>
  -- By the members of the text: another instance goes through every character
  -- there is.
  have := List.decidableBAll (fun c => IsOrdinary c ∧ c ≠ '>') text
  inferInstanceAs (Decidable (text ≠ [] ∧ ∀ c ∈ text, IsOrdinary c ∧ c ≠ '>'))

/-- The number of characters that are no spaces. -/
def inked (text : Text) : Nat := text.countP fun c => c ≠ ' '

theorem inked_append (first second : Text) :
    inked (first ++ second) = inked first + inked second :=
  List.countP_append

theorem inked_cons (c : Char) (rest : Text) :
    inked (c :: rest) = inked rest + if c = ' ' then 0 else 1 := by
  by_cases hc : c = ' '
  · simp [inked, hc]
  · simp [inked, hc]

theorem inked_eq_zero {text : Text} (h : ∀ c ∈ text, c = ' ') :
    inked text = 0 := by
  rw [inked, List.countP_eq_zero]
  intro c hc
  simp [h c hc]

namespace QuotedChar

theorem count_written {c : Char} (hc : IsOrdinary c) (parts : List QuotedChar) :
    (written parts).count c = (parts.map char).count c := by
  induction parts with
  | nil => rfl
  | cons part rest ih =>
      have hescape := hc.2.2.2
      cases part with
      | plain d => rw [written, List.map_cons, List.count_cons, List.count_cons,
          ih, char]
      | escaped d =>
          rw [written, List.map_cons, List.count_cons_of_ne (Ne.symm hescape),
            List.count_cons, List.count_cons, ih, char]

theorem inked_char_le (parts : List QuotedChar) :
    inked (parts.map char) ≤ inked (written parts) := by
  induction parts with
  | nil => exact Nat.le_refl _
  | cons part rest ih =>
      cases part with
      | plain d =>
          rw [written, List.map_cons, inked_cons, inked_cons, char]
          omega
      | escaped d =>
          rw [written, List.map_cons, inked_cons, inked_cons, inked_cons, char]
          omega

end QuotedChar

namespace Piece

/-- What is left of pieces without the bare spaces. -/
def kept (pieces : List Piece) : Text :=
  contents (pieces.filter fun piece => piece ≠ .bare ' ')

theorem kept_space (pieces : List Piece) :
    kept (.bare ' ' :: pieces) = kept pieces := by
  simp [kept]

theorem kept_cons {piece : Piece} (h : piece ≠ .bare ' ')
    (pieces : List Piece) :
    kept (piece :: pieces) = piece.content ++ kept pieces := by
  simp [kept, contents, h]

theorem kept_append (first second : List Piece) :
    kept (first ++ second) = kept first ++ kept second := by
  simp [kept, contents]

/-- The characters of an operator are all kept. -/
theorem kept_operator (operator : Operator) :
    kept (operator.text.map bare) = operator.text := by
  rcases operator with ⟨_ | _ | _, _ | _⟩ <;> rfl

/-- The texts of the groups make up what is left of the pieces. -/
theorem flatMap_text_group (word : Text) (pieces : List Piece) :
    (group word pieces).flatMap Token.text = word ++ kept pieces := by
  have hended : ∀ word : Text, (ended word).flatMap Token.text = word := by
    intro word
    by_cases hword : word = []
    · simp [ended, hword]
    · simp [ended, hword, Token.word]
  fun_induction group word pieces with
  | case1 word => rw [hended, kept, List.filter_nil, contents, List.flatMap_nil,
      List.append_nil]
  | case2 word piece rest found hfound ih =>
      obtain ⟨after, hafter⟩ := prefix_of_leading? hfound
      rw [← hafter, drop_width] at ih
      rw [List.flatMap_append, List.flatMap_cons, ← hafter, drop_width, ih,
        hended, kept_append, kept_operator]
      rfl
  | case3 word rest hnone ih =>
      rw [List.flatMap_append, ih, hended, kept_space, List.nil_append]
  | case4 word piece rest hnone hspace ih =>
      rw [ih, kept_cons hspace, List.append_assoc]

theorem count_written {c : Char} (hc : IsOrdinary c) (piece : Piece) :
    piece.written.count c = piece.content.count c := by
  have hparts := QuotedChar.count_written hc
  obtain ⟨-, hsingle, hdouble, hescape⟩ := hc
  cases piece with
  | single text => simp [written, content, Ne.symm hsingle]
  | double parts => simp [written, content, Ne.symm hdouble, hparts]
  | escaped d => simp [written, content, Ne.symm hescape]
  | bare d => rfl

theorem count_spelled {c : Char} (hc : IsOrdinary c) (pieces : List Piece) :
    (spelled pieces).count c = (kept pieces).count c := by
  induction pieces with
  | nil => rfl
  | cons piece rest ih =>
      rw [spelled_cons, List.count_append, ih]
      by_cases hspace : piece = .bare ' '
      · rw [hspace, kept_space, written, List.count_singleton,
          if_neg (by simp [Ne.symm hc.1]), Nat.zero_add]
      · rw [kept_cons hspace, List.count_append, count_written hc]

/-- A piece is written with as many characters as it stands for only if it is
bare. -/
theorem inked_content (piece : Piece) :
    inked piece.content < inked piece.written ∨ ∃ c, piece = .bare c := by
  cases piece with
  | bare c => exact Or.inr ⟨c, rfl⟩
  | single text =>
      left
      rw [written, inked_append, inked_cons, content]
      simp only [Char.reduceEq, if_false]
      omega
  | double parts =>
      left
      have hparts := QuotedChar.inked_char_le parts
      rw [written, inked_append, inked_cons, content]
      simp only [Char.reduceEq, if_false]
      omega
  | escaped c =>
      left
      rw [written, inked_cons, content]
      simp

theorem inked_kept_le (pieces : List Piece) :
    inked (kept pieces) ≤ inked (spelled pieces) := by
  induction pieces with
  | nil => exact Nat.le_refl _
  | cons piece rest ih =>
      rw [spelled_cons, inked_append]
      by_cases hspace : piece = .bare ' '
      · rw [hspace, kept_space]
        exact Nat.le_add_left_of_le ih
      · rw [kept_cons hspace, inked_append]
        rcases piece.inked_content with hlt | ⟨c, rfl⟩
        · exact Nat.add_le_add (Nat.le_of_lt hlt) ih
        · exact Nat.add_le_add_left ih _

/-- Where nothing but spaces is lost, every piece is bare. -/
theorem exists_bare_of_inked_eq {pieces : List Piece}
    (h : inked (kept pieces) = inked (spelled pieces)) :
    ∀ piece ∈ pieces, ∃ c, piece = .bare c := by
  induction pieces with
  | nil => exact nofun
  | cons piece rest ih =>
      have hrest := inked_kept_le rest
      rw [spelled_cons, inked_append] at h
      by_cases hspace : piece = .bare ' '
      · rw [hspace, kept_space] at h
        refine List.forall_mem_cons.2 ⟨⟨' ', hspace⟩, ih ?_⟩
        simpa [written, inked] using h
      · rw [kept_cons hspace, inked_append] at h
        rcases piece.inked_content with hlt | ⟨c, rfl⟩
        · omega
        · exact List.forall_mem_cons.2 ⟨⟨c, rfl⟩, ih (Nat.add_left_cancel h)⟩

/-- A bare bracket makes an operator. -/
theorem exists_redirect_mem_group {word : Text} {pieces : List Piece}
    (h : .bare '>' ∈ pieces) :
    ∃ operator, redirect operator ∈ group word pieces := by
  fun_induction group word pieces with
  | case1 => cases h
  | case2 word piece rest found hfound ih =>
      exact ⟨found, List.mem_append_right _ List.mem_cons_self⟩
  | case3 word rest hnone ih =>
      rcases List.mem_cons.1 h with hspace | hrest
      · cases hspace
      · obtain ⟨operator, hoperator⟩ := ih hrest
        exact ⟨operator, List.mem_append_right _ hoperator⟩
  | case4 word piece rest hnone hspace ih =>
      rcases List.mem_cons.1 h with hbracket | hrest
      · subst hbracket
        refine absurd hnone (leading?_ne_none ⟨none, .truncate⟩ ?_ (absurd rfl))
        exact ⟨rest, rfl⟩
      · exact ih hrest

end Piece

open Piece (kept spelled)

/-- An ordinary character is in the tokens of a line as often as in the line. -/
theorem count_of_ofLine {line : Text} {tokens : List Token}
    (h : ofLine line = .ok tokens) {c : Char} (hc : IsOrdinary c) :
    (tokens.flatMap Token.text).count c = line.count c := by
  obtain ⟨pieces, -, rfl, rfl⟩ := ofLine_eq_ok_iff.1 h
  rw [Piece.flatMap_text_group, List.nil_append, Piece.count_spelled hc]

/-- A plain text between spaces is one word. -/
theorem ofLine_of_isPlain {lead text : Text} (hlead : ∀ c ∈ lead, c = ' ')
    (htext : IsPlain text) :
    ofLine (lead ++ text ++ [' ']) = .ok [word text] := by
  have hspelling : ∀ piece ∈ text.map Piece.bare, piece.IsSpelling := by
    intro piece hpiece
    obtain ⟨c, hc, rfl⟩ := List.mem_map.1 hpiece
    obtain ⟨⟨hspace, hsingle, hdouble, hescape⟩, hbracket⟩ := htext.2 c hc
    exact ⟨hspace, hsingle, hdouble, hescape, hbracket⟩
  have hword : Piece.contents (text.map Piece.bare) = text := by
    simp [Piece.contents, List.flatMap_map, Piece.content]
  have hspells := Spells.word hspelling
  rw [hword, Piece.spelled_map_bare] at hspells
  have hwrites : Writes [word text] (lead ++ text ++ [' ']) := by
    rw [List.append_assoc]
    induction lead with
    | nil => exact .cons hspells .nil
    | cons c rest ih =>
        obtain ⟨rfl, hrest⟩ := List.forall_mem_cons.1 hlead
        exact .space (ih hrest)
  obtain ⟨pieces, hwhole, hline, hgroup⟩ :=
    hwrites.exists_pieces fun token htoken =>
    Or.inl ⟨text, htext.1, List.mem_singleton.1 htoken⟩
  exact ofLine_eq_ok_iff.2 ⟨pieces, hwhole, hline, hgroup.symm⟩

/-- After characters that are neither quotes nor backslashes, and before a
space, a text is read as the one word that it is exactly if those are spaces and
the text is plain. -/
theorem ofLine_verbatim_iff {lead text : Text}
    (hlead : ∀ c ∈ lead, c ≠ '\'' ∧ c ≠ '"' ∧ c ≠ '\\') :
    ofLine (lead ++ text ++ [' ']) = .ok [word text] ↔
      (∀ c ∈ lead, c = ' ') ∧ IsPlain text := by
  constructor
  · intro h
    have hspaces : ∀ c ∈ lead, c = ' ' := by
      intro c hc
      by_contra hspace
      have hcount := count_of_ofLine h ⟨hspace, hlead c hc⟩
      have hpos := List.count_pos_iff.2 hc
      simp only [List.flatMap_cons, List.flatMap_nil, List.append_nil, word,
        List.count_append]
        at hcount
      omega
    obtain ⟨pieces, hwhole, hline, htokens⟩ := ofLine_eq_ok_iff.1 h
    have hkept : text = kept pieces := by
      have htexts := Piece.flatMap_text_group [] pieces
      rw [← htokens, List.nil_append] at htexts
      simpa [word] using htexts
    -- The spaces around the text are all that is lost, so nothing in it is
    -- quoted.
    have hbare : ∀ piece ∈ pieces, ∃ c, piece = .bare c := by
      apply Piece.exists_bare_of_inked_eq
      rw [← hkept, hline, inked_append, inked_append, inked_eq_zero hspaces]
      simp [inked]
    refine ⟨hspaces, ?_, ?_⟩
    · rcases isLexical_of_mem_ofLine h List.mem_cons_self
        with ⟨other, hne, heq⟩ | ⟨operator, heq⟩
      · cases heq
        exact hne
      · cases heq
    · intro c hc
      rw [hkept, kept, Piece.contents, List.mem_flatMap] at hc
      obtain ⟨piece, hpiece, hmem⟩ := hc
      obtain ⟨hpiece, hspace⟩ := List.mem_filter.1 hpiece
      obtain ⟨d, rfl⟩ := hbare piece hpiece
      obtain rfl : c = d := List.mem_singleton.1 hmem
      refine ⟨⟨?_, hwhole _ hpiece⟩, ?_⟩
      · rintro rfl
        simp at hspace
      · rintro rfl
        obtain ⟨operator, hoperator⟩ :=
          @Piece.exists_redirect_mem_group [] pieces hpiece
        rw [← htokens] at hoperator
        cases List.mem_singleton.1 hoperator
  · rintro ⟨hspaces, htext⟩
    exact ofLine_of_isPlain hspaces htext

end LineShell.Token
