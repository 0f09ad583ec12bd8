import LineShell.Proofs.Token.Verbatim

/-!
Where the operators of a line stand.

Every operator that is read off a line cuts the line in two parts, each of which
is read by itself (`exists_stands`).  There is one place only at which it does
so, as the two parts hold as many angle brackets as the tokens on their sides
(`Stands.unique`).  So a bracket never follows an operator that one more bracket
would make longer (`Stands.head?_ne_bracket`).
-/
namespace LineShell.Token

theorem redirect_injective {operator other : Operator}
    (h : redirect operator = redirect other) :
    operator = other := by
  have hfound := congrArg (fun token => Operator.ofText? token.text) h
  simpa [redirect] using hfound

namespace Piece

/-- Fewer pieces start with no operator that all of them do not start with. -/
theorem leading?_eq_none_of_append {wordStart : Bool} {pieces rest : List Piece}
    (h : leading? wordStart (pieces ++ rest) = none) :
    leading? wordStart pieces = none := by
  cases hfound : leading? wordStart pieces with
  | none => rfl
  | some found =>
      have hstarts :=
        (prefix_of_leading? hfound).trans (List.prefix_append pieces rest)
      exact absurd h
        (leading?_ne_none found hstarts (wordStart_of_leading? hfound))

/-- A word that ends is no operator. -/
theorem exists_append_of_ended
    {word : Text} {rest first second : List Token} {found : Operator}
    (h : ended word ++ rest = first ++ redirect found :: second) :
    ∃ others, first = ended word ++ others ∧
      rest = others ++ redirect found :: second := by
  by_cases hword : word = []
  · exact ⟨first, by simp [ended, hword], by simpa [ended, hword] using h⟩
  · rw [ended, if_neg hword] at h ⊢
    rw [List.singleton_append] at h
    cases first with
    | nil =>
        have hkind := congrArg Token.kind (List.cons.inj h).1
        cases hkind
    | cons token others =>
        obtain ⟨rfl, hrest⟩ := List.cons.inj h
        exact ⟨others, rfl, hrest⟩

/-- Of pieces that are grouped around an operator, those before it and those
after it are grouped by themselves, and no bracket follows an operator of a
single one. -/
theorem exists_of_group_eq {word : Text}
    {pieces : List Piece} {first second : List Token} {found : Operator}
    (h : group word pieces = first ++ redirect found :: second) :
    ∃ before after, pieces = before ++ (found.text.map bare ++ after) ∧
      group word before = first ∧ group [] after = second ∧
      (found.mode = .truncate → after.head? ≠ some (.bare '>')) := by
  fun_induction group word pieces generalizing first with
  | case1 word =>
      rw [← List.append_nil (ended word)] at h
      obtain ⟨others, -, hnil⟩ := exists_append_of_ended h
      simp at hnil
  | case2 word piece rest operator hleading ih =>
      obtain ⟨others, rfl, hothers⟩ := exists_append_of_ended h
      obtain ⟨left, hpieces⟩ := prefix_of_leading? hleading
      have hdrop : (piece :: rest).drop operator.width = left := by
          rw [← hpieces, drop_width]
      have hbracket := head?_drop_of_leading? hleading
      have hstart : operator.descriptor ≠ none → word = [] :=
        fun hnamed => List.isEmpty_iff.1 (wordStart_of_leading? hleading hnamed)
      rw [hdrop] at hothers hbracket ih
      rw [← hpieces]
      cases others with
      | nil =>
          obtain ⟨hsame, rfl⟩ := List.cons.inj hothers
          cases redirect_injective hsame
          refine ⟨[], left, rfl, ?_, rfl, hbracket⟩
          rw [group, List.append_nil]
      | cons token others =>
          obtain ⟨rfl, hgroup⟩ := List.cons.inj hothers
          obtain ⟨before, after, rfl, rfl, hafter⟩ := ih hgroup
          refine ⟨operator.text.map bare ++ before, after, by simp, ?_, hafter⟩
          apply group_operator hstart
          intro hmode hhead
          refine hbracket hmode ?_
          rw [List.head?_append, hhead]
          rfl
  | case3 word rest hleading ih =>
      obtain ⟨others, rfl, hothers⟩ := exists_append_of_ended h
      obtain ⟨before, after, rfl, rfl, hafter⟩ := ih hothers
      exact ⟨.bare ' ' :: before, after, rfl, group_space word before, hafter⟩
  | case4 word piece rest hleading hspace ih =>
      obtain ⟨before, after, rfl, rfl, hafter⟩ := ih h
      refine ⟨piece :: before, after, rfl, ?_, hafter⟩
      rw [← List.cons_append] at hleading
      rw [group, leading?_eq_none_of_append hleading]
      simp only [hspace, if_false]

/-- Only a bare bracket is written with a bracket for its first character. -/
theorem head?_spelled_ne_bracket
    {pieces : List Piece} (h : pieces.head? ≠ some (.bare '>')) :
    (spelled pieces).head? ≠ some '>' := by
  cases pieces with
  | nil => simp
  | cons piece rest =>
      cases piece with
      | bare c => simpa [written] using h
      | single text => simp [written]
      | double parts => simp [written]
      | escaped c => simp [written]

end Piece

/-- Whether an operator stands in a line right between two texts that are read
as the tokens before it and the tokens after it. -/
structure Stands (found : Operator) (first second : List Token)
    (line before after : Text) :
    Prop where
  line_eq : line = before ++ (found.text ++ after)
  before_eq : ofLine before = .ok first
  after_eq : ofLine after = .ok second

variable {found : Operator} {first second : List Token}
  {line before after : Text}

/-- Every operator of a line stands in it, with no bracket after an operator of
a single one. -/
theorem exists_stands
    (h : ofLine line = .ok (first ++ redirect found :: second)) :
    ∃ before after, Stands found first second line before after ∧
      (found.mode = .truncate → after.head? ≠ some '>') := by
  obtain ⟨pieces, hwhole, rfl, hgroup⟩ := ofLine_eq_ok_iff.1 h
  obtain ⟨before, after, rfl, hbefore, hafter, hbracket⟩ :=
    Piece.exists_of_group_eq hgroup.symm
  have hwholeBefore : ∀ piece ∈ before, piece.IsWhole := fun piece hpiece =>
    hwhole piece (List.mem_append_left _ hpiece)
  have hwholeAfter : ∀ piece ∈ after, piece.IsWhole := fun piece hpiece =>
    hwhole piece (List.mem_append_right _ (List.mem_append_right _ hpiece))
  refine ⟨Piece.spelled before, Piece.spelled after, ⟨?_, ?_, ?_⟩,
    fun hmode => ?_⟩
  · rw [Piece.spelled_append, Piece.spelled_append, Piece.spelled_map_bare]
  · exact ofLine_eq_ok_iff.2 ⟨before, hwholeBefore, rfl, hbefore.symm⟩
  · exact ofLine_eq_ok_iff.2 ⟨after, hwholeAfter, rfl, hafter.symm⟩
  · exact Piece.head?_spelled_ne_bracket (hbracket hmode)

namespace Stands

/-- The part before an operator holds as many brackets as the tokens before it,
so a longer part has no bracket more; but the operator itself has one. -/
theorem eq_nil_of_append
    {more other : Text} (h : Stands found first second line before after)
    (hmore : Stands found first second line (before ++ more) other) :
    more = [] := by
  have hbracket : IsOrdinary '>' := by decide
  have hnot : '>' ∉ more := by
    have hcount := count_of_ofLine h.before_eq hbracket
    have hlonger := count_of_ofLine hmore.before_eq hbracket
    rw [hcount, List.count_append] at hlonger
    rw [← List.count_eq_zero]
    omega
  have hmem : '>' ∈ found.text := by
    rcases found with ⟨descriptor, _ | _⟩
    · simp [Operator.text]
    · simp [Operator.text]
  have htail : found.text ++ after = more ++ (found.text ++ other) := by
    have hline := h.line_eq.symm.trans hmore.line_eq
    rw [List.append_assoc] at hline
    exact List.append_cancel_left hline
  -- The first bracket after `before` is that of the operator.
  have hplace := congrArg (List.idxOf '>') htail
  rw [List.idxOf_append_of_mem hmem, List.idxOf_append_of_notMem hnot,
    List.idxOf_append_of_mem hmem] at hplace
  exact List.length_eq_zero_iff.1 (by omega)

/-- An operator stands between the same two texts, whenever it stands between
the same tokens. -/
theorem unique
    {before' after' : Text} (h : Stands found first second line before after)
    (h' : Stands found first second line before' after') :
    before = before' ∧ after = after' := by
  have hbefore : before = before' := by
    have hline := h.line_eq.symm.trans h'.line_eq
    rcases List.append_eq_append_iff.1 hline
      with ⟨more, rfl, -⟩ | ⟨more, rfl, -⟩
    · rw [h.eq_nil_of_append h', List.append_nil]
    · rw [h'.eq_nil_of_append h, List.append_nil]
  subst hbefore
  have hline := h.line_eq.symm.trans h'.line_eq
  exact ⟨rfl, List.append_cancel_left (List.append_cancel_left hline)⟩

/-- No bracket follows an operator of a single one. -/
theorem head?_ne_bracket (h : Stands found first second line before after)
    (htokens : ofLine line = .ok (first ++ redirect found :: second))
    (hmode : found.mode = .truncate) : after.head? ≠ some '>' := by
  obtain ⟨before', after', hstands, hbracket⟩ := exists_stands htokens
  obtain ⟨rfl, rfl⟩ := h.unique hstands
  exact hbracket hmode

end Stands

end LineShell.Token
