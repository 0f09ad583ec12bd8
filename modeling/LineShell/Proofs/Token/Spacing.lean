import LineShell.Proofs.Token.Grouping

/-!
Pieces one after the other: which operator starts where more pieces follow, and
what a run of pieces and a bare space add to the groups.

Main statement: a bare space cuts a line in two, and each part is read by itself
(`ofLine_append_space`).  Only an angle bracket can lengthen an operator, so
what stands after a space is never looked at before it.
-/
namespace LineShell.Token

namespace Piece

theorem replicate_prefix_append_iff {α : Type} {a : α} {rest : List α}
    (hrest : rest.head? ≠ some a) (count : Nat) (items : List α) :
    List.replicate count a <+: items ++ rest ↔
      List.replicate count a <+: items := by
  induction count generalizing items with
  | zero => simp
  | succ count ih =>
      cases items with
      | nil =>
          cases rest with
          | nil => simp
          | cons b rest =>
              have hb : ¬ a = b := fun heq => hrest (by rw [heq]; rfl)
              simp [List.replicate_succ, hb]
      | cons b items => simp [List.replicate_succ, ih]

/-- What follows does not change the operator at the start of pieces, unless it
is a bracket. -/
theorem leading?_append {rest : List Piece}
    (hrest : rest.head? ≠ some (.bare '>')) (wordStart : Bool) (piece : Piece)
    (pieces : List Piece) :
    leading? wordStart (piece :: (pieces ++ rest)) =
      leading? wordStart (piece :: pieces) := by
  have hfits : ∀ operator : Operator,
      (operator.text.map bare).isPrefixOf (piece :: (pieces ++ rest)) =
        (operator.text.map bare).isPrefixOf (piece :: pieces) := by
    intro operator
    obtain ⟨c, count, htext, -⟩ := operator.text_eq_cons
    rw [Bool.eq_iff_iff, List.isPrefixOf_iff_prefix, List.isPrefixOf_iff_prefix,
      htext, List.map_cons, List.map_replicate, List.cons_prefix_cons,
      List.cons_prefix_cons, replicate_prefix_append_iff hrest]
  simp only [leading?, hfits]

/-- An operator is the longest one where it stands, if no bracket follows a
single one.  One that names its stream has to stand at the start of a word. -/
theorem leading?_operator {wordStart : Bool} {found : Operator}
    {rest : List Piece} (hstart : found.descriptor ≠ none → wordStart = true)
    (hlongest : found.mode = .truncate → rest.head? ≠ some (.bare '>')) :
    leading? wordStart (found.text.map bare ++ rest) = some found := by
  rcases found with ⟨descriptor, _ | _⟩
  · obtain ⟨c, count, htext, -⟩ :=
      (⟨descriptor, .truncate⟩ : Operator).text_eq_cons
    have happend := leading?_append (hlongest rfl) wordStart (.bare c)
      (List.replicate count (.bare '>'))
    rw [htext, List.map_cons, List.map_replicate, List.cons_append, happend,
      ← List.map_replicate, ← List.map_cons, ← htext]
    rcases descriptor with _ | _ | _ <;> cases wordStart <;> simp at hstart <;>
      decide
  · rcases descriptor with _ | _ | _ <;> cases wordStart <;> simp at hstart <;>
      rfl

theorem wordStart_of_leading? {wordStart : Bool} {pieces : List Piece}
    {found : Operator} (h : leading? wordStart pieces = some found)
    (hnamed : found.descriptor ≠ none) :
    wordStart = true := by
  have hfits := List.argmax_mem h
  simp only [List.mem_filter, Bool.and_eq_true, Bool.or_eq_true,
    Option.isNone_iff_eq_none, hnamed, or_false] at hfits
  exact hfits.2.2

theorem leading?_ne_none {wordStart : Bool} {pieces : List Piece}
    (found : Operator) (hstarts : found.text.map bare <+: pieces)
    (hstart : found.descriptor ≠ none → wordStart = true) :
    leading? wordStart pieces ≠ none := by
  intro hnone
  rw [leading?, List.argmax_eq_none, List.filter_eq_nil_iff] at hnone
  apply hnone found found.mem_all
  rw [Bool.and_eq_true, List.isPrefixOf_iff_prefix, Bool.or_eq_true,
    Option.isNone_iff_eq_none]
  refine ⟨hstarts, ?_⟩
  by_cases hnamed : found.descriptor = none
  · exact Or.inr hnamed
  · exact Or.inl (hstart hnamed)

/-- No bracket follows a single one in the longest operator. -/
theorem head?_drop_of_leading? {wordStart : Bool} {pieces : List Piece}
    {found : Operator} (h : leading? wordStart pieces = some found)
    (hmode : found.mode = .truncate) :
    (pieces.drop found.width).head? ≠ some (.bare '>') := by
  obtain ⟨rest, rfl⟩ := prefix_of_leading? h
  rw [drop_width]
  intro hhead
  obtain ⟨after, rfl⟩ := List.head?_eq_some_iff.1 hhead
  have hlonger : leading? wordStart (found.text.map bare ++ bare '>' :: after) =
      some ⟨found.descriptor, .append⟩ := by
    have hstart := wordStart_of_leading? h
    obtain ⟨descriptor, mode⟩ := found
    cases hmode
    have hfound : leading? wordStart
        ((⟨descriptor, .append⟩ : Operator).text.map bare ++ after) =
        some ⟨descriptor, .append⟩ := leading?_operator hstart (by simp)
    simpa [Operator.text] using hfound
  rw [h] at hlonger
  have hsame := congrArg Operator.mode (Option.some.inj hlonger)
  rw [hmode] at hsame
  cases hsame

theorem head?_map_text_iff (found : Operator) :
    (found.text.map bare).head? = some (.bare '>') ↔
      found.descriptor = none := by
  rcases found with ⟨_ | _ | _, _ | _⟩ <;> simp [Operator.text, Operator.digit]

/-- An operator starts at an angle bracket, or at the number of a stream before
one. -/
theorem start_of_leading? {wordStart : Bool} {piece : Piece} {rest : List Piece}
    {found : Operator} (h : leading? wordStart (piece :: rest) = some found) :
    piece = .bare '>' ∨
      (piece = .bare '1' ∨ piece = .bare '2') ∧ wordStart = true ∧
        rest.head? = some (.bare '>') := by
  have hstarts := prefix_of_leading? h
  have hstart := wordStart_of_leading? h
  obtain ⟨descriptor, mode⟩ := found
  cases descriptor with
  | none =>
      have hbracket :
          ∃ brackets, (⟨none, mode⟩ : Operator).text = '>' :: brackets := by
        cases mode <;> exact ⟨_, rfl⟩
      obtain ⟨brackets, htext⟩ := hbracket
      rw [htext, List.map_cons, List.cons_prefix_cons] at hstarts
      exact Or.inl hstarts.1.symm
  | some stream =>
      have hbracket : ∃ brackets, (⟨some stream, mode⟩ : Operator).text =
          Operator.digit stream :: '>' :: brackets := by
        cases mode <;> exact ⟨_, rfl⟩
      obtain ⟨brackets, htext⟩ := hbracket
      rw [htext, List.map_cons, List.map_cons, List.cons_prefix_cons] at hstarts
      obtain ⟨rfl, after, rfl⟩ := hstarts
      refine Or.inr ⟨?_, hstart (by simp), rfl⟩
      cases stream
      · exact Or.inl rfl
      · exact Or.inr rfl

theorem isWhole_space : IsWhole (.bare ' ') := by
  exact ⟨by decide, by decide, by decide⟩

theorem leading?_space (wordStart : Bool) (rest : List Piece) :
    leading? wordStart (.bare ' ' :: rest) = none := by
  cases hfound : leading? wordStart (.bare ' ' :: rest) with
  | none => rfl
  | some found =>
      rcases start_of_leading? hfound with hbracket | ⟨hdigit, -⟩
      · simp at hbracket
      · simp at hdigit

theorem group_space (word : Text) (rest : List Piece) :
    group word (.bare ' ' :: rest) = ended word ++ group [] rest := by
  rw [group, leading?_space]
  simp

/-- An operator ends the word before it and is followed by a new one. -/
theorem group_operator {word : Text} {found : Operator} {rest : List Piece}
    (hstart : found.descriptor ≠ none → word = [])
    (hlongest : found.mode = .truncate → rest.head? ≠ some (.bare '>')) :
    group word (found.text.map bare ++ rest) =
      ended word ++ redirect found :: group [] rest := by
  have hleading := leading?_operator
    (fun hnamed => List.isEmpty_iff.2 (hstart hnamed)) hlongest
  have hdrop := drop_width found rest
  obtain ⟨c, count, htext, -⟩ := found.text_eq_cons
  rw [htext, List.map_cons, List.cons_append] at hleading hdrop ⊢
  rw [group, hleading]
  simp only [hdrop]

def contents (pieces : List Piece) : Text := pieces.flatMap content

/-- Pieces without spaces and brackets add to the word in progress, where the
last of them is not the number of a stream at the start of a word and before a
bracket. -/
theorem group_append {word : Text} {pieces rest : List Piece}
    (h : ∀ piece ∈ pieces, piece ≠ .bare ' ' ∧ piece ≠ .bare '>')
    (hrest : rest.head? = some (.bare '>') →
      ∀ before last, pieces = before ++ [last] →
      last = .bare '1' ∨ last = .bare '2' → word ++ contents before ≠ []) :
    group word (pieces ++ rest) = group (word ++ contents pieces) rest := by
  induction pieces generalizing word with
  | nil => simp [contents]
  | cons piece others ih =>
      obtain ⟨hspace, hbracket⟩ := h piece List.mem_cons_self
      have hothers : ∀ other ∈ others, other ≠ .bare ' ' ∧ other ≠ .bare '>' :=
        fun other hother => h other (List.mem_cons_of_mem piece hother)
      have hnone :
          leading? word.isEmpty (piece :: (others ++ rest)) = none := by
        cases hfound : leading? word.isEmpty (piece :: (others ++ rest)) with
        | none => rfl
        | some found =>
            rcases start_of_leading? hfound
              with hstart | ⟨hdigit, hempty, hhead⟩
            · exact absurd hstart hbracket
            · cases others with
              | nil =>
                  refine absurd ?_ (hrest hhead [] piece rfl hdigit)
                  simpa [contents] using hempty
              | cons next more =>
                  refine absurd ?_ (hothers next List.mem_cons_self).2
                  simpa using hhead
      rw [List.cons_append, group, hnone]
      simp only [hspace, if_false]
      rw [ih hothers]
      · simp [contents]
      · intro hhead before last hsplit hdigit
        have hword :=
          hrest hhead (piece :: before) last (by rw [hsplit]; rfl) hdigit
        simpa [contents] using hword

/-- Pieces before a bare space are grouped by themselves. -/
theorem group_append_space (word : Text) (pieces rest : List Piece) :
    group word (pieces ++ .bare ' ' :: rest) =
      group word pieces ++ group [] rest := by
  have hspace : (.bare ' ' :: rest : List Piece).head? ≠ some (.bare '>') := by
      simp
  fun_induction group word pieces with
  | case1 word => exact group_space word rest
  | case2 word piece pieces found hfound ih =>
      have hwidth : found.width ≤ (piece :: pieces).length := by
        have hlength := (prefix_of_leading? hfound).length_le
        rwa [List.length_map] at hlength
      rw [List.cons_append, group, leading?_append hspace, hfound]
      simp only
      rw [← List.cons_append, List.drop_append_of_le_length hwidth, ih]
      simp
  | case3 word pieces hnone ih =>
      rw [List.cons_append, group_space, ih, List.append_assoc]
  | case4 word piece pieces hnone hne ih =>
      rw [List.cons_append, group, leading?_append hspace, hnone]
      simp only [hne, if_false]
      exact ih

end Piece

/-- Tokens before a bare space are read by themselves, and so are those after
it. -/
theorem ofLine_append_space {first : Text} {tokens : List Token}
    (h : ofLine first = .ok tokens) (second : Text) :
    ofLine (first ++ ' ' :: second) = (ofLine second).map (tokens ++ ·) := by
  obtain ⟨pieces, hwhole, rfl, rfl⟩ := ofLine_eq_ok_iff.1 h
  have hline : Piece.spelled pieces ++ ' ' :: second =
      Piece.spelled (pieces ++ [.bare ' ']) ++ second := by
    simp [Piece.spelled_append, Piece.written]
  have hwholeSpace : ∀ piece ∈ pieces ++ [.bare ' '], piece.IsWhole := by
    intro piece hpiece
    rcases List.mem_append.1 hpiece with hpiece | hpiece
    · exact hwhole piece hpiece
    · rw [List.mem_singleton.1 hpiece]
      exact Piece.isWhole_space
  rw [ofLine_eq_map_group, ofLine_eq_map_group, hline,
    Piece.cut_spelled hwholeSpace]
  cases hsecond : Piece.cut second with
  | error error => rfl
  | ok others =>
      simp only [Except.map, List.append_assoc, List.singleton_append]
      rw [Piece.group_append_space]

/-- A number of a stream before the space and brackets after it make no
operator, and a quote that is left open after it is still refused. -/
theorem ofLine_append_space_digit :
    ofLine "echo 'a' 2".toList =
      .ok [word "echo".toList, word ['a'], word ['2']] ∧
    ofLine ("echo 'a' 2".toList ++ ' ' :: ">>f".toList) =
      .ok [word "echo".toList, word ['a'], word ['2'], redirect ⟨none, .append⟩,
        word ['f']] ∧
    ofLine ("echo 'a' 2".toList ++ ' ' :: "\"b".toList) =
      .error .openDoubleQuote := by
  have h : ofLine "echo 'a' 2".toList =
      .ok [word "echo".toList, word ['a'], word ['2']] := rfl
  refine ⟨h, ?_, ?_⟩
  · rw [ofLine_append_space h]
    rfl
  · rw [ofLine_append_space h]
    rfl

end LineShell.Token
