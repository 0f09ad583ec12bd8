import LineShell.Command
import Mathlib.Data.List.Induction
import Mathlib.Data.List.Nodup

/-!
Where redirections stand on a line: anywhere among the words.

Main statement: words and redirections that are put together in any way, each
list in its own order, make the same command (`ofTokens_of_interleaves`).
-/
namespace LineShell

namespace Redirection

theorem map_stream_insert (redirection : Redirection)
    (kept : List Redirection) :
    (redirection.insert kept).map stream =
      if redirection.stream ∈ kept.map stream then kept.map stream
      else kept.map stream ++ [redirection.stream] := by
  induction kept with
  | nil => rfl
  | cons first rest ih =>
      unfold insert
      by_cases hfirst : first.stream = redirection.stream
      · simp [hfirst]
      · have hne : ¬ redirection.stream = first.stream :=
          fun heq => hfirst heq.symm
        simp only [hfirst, if_false, List.map_cons, ih, List.mem_cons, hne,
          false_or]
        split <;> rfl

variable (redirections : List Redirection)

/-- The redirections that are kept of some in a row: one for each stream. -/
def keep : List Redirection :=
  redirections.foldl (fun kept redirection => redirection.insert kept) []

theorem keep_append_singleton (last : Redirection) :
    keep (redirections ++ [last]) = last.insert (keep redirections) := by
  simp [keep, List.foldl_append]

/-- The streams are kept in the order of their first appearance. -/
theorem map_stream_keep :
    (keep redirections).map stream = (redirections.map stream).eraseDups := by
  induction redirections using List.reverseRecOn with
  | nil => rfl
  | append_singleton rest last ih =>
      rw [keep_append_singleton, map_stream_insert, ih, List.map_append,
        List.eraseDups_append]
      have hmem : last.stream ∈ (rest.map stream).eraseDups ↔
          last.stream ∈ rest.map stream :=
        List.mem_eraseDups
      by_cases hlast : last.stream ∈ rest.map stream
      · have hold : [last.stream].removeAll (rest.map stream) = [] := by
          rw [List.removeAll, List.filter_cons_of_neg (by simpa using hlast),
            List.filter_nil]
        rw [if_pos (hmem.2 hlast), List.map_singleton, hold, List.eraseDups_nil,
          List.append_nil]
      · have hnew :
            [last.stream].removeAll (rest.map stream) = [last.stream] := by
          rw [List.removeAll, List.filter_cons_of_pos (by simpa using hlast),
            List.filter_nil]
        rw [if_neg fun h => hlast (hmem.1 h), List.map_singleton, hnew]
        rfl

/-- No stream is kept twice. -/
theorem nodup_map_stream_keep : ((keep redirections).map stream).Nodup := by
  induction redirections using List.reverseRecOn with
  | nil => exact List.nodup_nil
  | append_singleton rest last ih =>
      rw [keep_append_singleton]
      exact nodup_insert ih

/-- Of each stream the last redirection is kept. -/
theorem of?_keep (stream : Stream) :
    of? stream (keep redirections) =
      redirections.reverse.find? fun redirection =>
        redirection.stream = stream := by
  induction redirections using List.reverseRecOn with
  | nil => rfl
  | append_singleton rest last ih =>
      rw [keep_append_singleton, of?_insert, List.reverse_append, ih]
      by_cases hstream : last.stream = stream
      · simp [hstream]
      · simp [hstream]

theorem of?_stream_eq_some_iff {redirection : Redirection}
    {kept : List Redirection} (hnodup : (kept.map stream).Nodup) :
    of? redirection.stream kept = some redirection ↔ redirection ∈ kept := by
  refine ⟨List.mem_of_find?_eq_some, fun hmem => ?_⟩
  obtain ⟨found, hfound⟩ : ∃ found, of? redirection.stream kept = some found :=
    Option.isSome_iff_exists.1
      (List.find?_isSome.2 ⟨redirection, hmem, by simp⟩)
  have hstream : found.stream = redirection.stream := by
      simpa using List.find?_some hfound
  have hsame := List.inj_on_of_nodup_map hnodup
      (List.mem_of_find?_eq_some hfound) hmem hstream
  rw [hfound, hsame]

/-- Whether a redirection is the last one of its stream. -/
def IsLast (redirections : List Redirection) (redirection : Redirection) :
    Prop :=
  ∃ before after, redirections = before ++ redirection :: after ∧
    ∀ later ∈ after, later.stream ≠ redirection.stream

/-- A redirection is kept exactly if no later one is of the same stream. -/
theorem mem_keep_iff {redirection : Redirection} :
    redirection ∈ keep redirections ↔ IsLast redirections redirection := by
  rw [← of?_stream_eq_some_iff (nodup_map_stream_keep redirections), of?_keep,
    List.find?_eq_some_iff_append]
  constructor
  · rintro ⟨-, after, before, hreverse, hafter⟩
    refine ⟨before.reverse, after.reverse, ?_, fun later hlater => ?_⟩
    · rw [← List.reverse_reverse redirections, hreverse]
      simp
    · simpa using hafter later (List.mem_reverse.1 hlater)
  · rintro ⟨before, after, rfl, hafter⟩
    refine ⟨by simp, after.reverse, before.reverse, by
      simp, fun later hlater => ?_⟩
    simpa using hafter later (List.mem_reverse.1 hlater)

end Redirection

namespace Command

/-- Whether a token counts as a word of a command. -/
def IsWord (token : Token) : Prop :=
  token.kind = .word ∨ token.kind = .quotedFragment

/-- Words and pairs of an operator and its target, put together in the order of
both. -/
inductive Interleaves :
    List Token → List (Operator × Text) → List Token → Prop where
  | nil : Interleaves [] [] []
  | word {token : Token} {words : List Token} {pairs : List (Operator × Text)}
      {tokens : List Token} (hword : IsWord token)
      (h : Interleaves words pairs tokens) :
      Interleaves (token :: words) pairs (token :: tokens)
  | pair (operator : Operator) (target : Text) {words : List Token}
      {pairs : List (Operator × Text)} {tokens : List Token}
      (h : Interleaves words pairs tokens) :
      Interleaves words ((operator, target) :: pairs)
        (.redirect operator :: .word target :: tokens)

variable {words tokens : List Token} {pairs : List (Operator × Text)}

/-- No token is lost or added. -/
theorem Interleaves.length_eq (h : Interleaves words pairs tokens) :
    tokens.length = words.length + 2 * pairs.length := by
  induction h with
  | nil => rfl
  | word hword h ih =>
      simp only [List.length_cons, ih]
      omega
  | pair operator target h ih =>
      simp only [List.length_cons, ih]
      omega

namespace Draft

/-- Takes words, from the left. -/
def addWords (draft : Draft) (words : List Token) : Draft :=
  words.foldl (fun draft token => draft.addWord token.text) draft

theorem addWords_named (name : Text) (arguments : List Text)
    (redirections : List Redirection) (words : List Token) :
    addWords ⟨some name, arguments, redirections⟩ words =
      ⟨some name, arguments ++ words.map Token.text, redirections⟩ := by
  induction words generalizing arguments with
  | nil => simp [addWords]
  | cons token rest ih =>
      have hrest := ih (arguments ++ [token.text])
      rw [List.append_assoc] at hrest
      exact hrest

/-- Words are taken in the same way whatever the redirections are. -/
theorem addWords_with (draft : Draft) (redirections : List Redirection)
    (words : List Token) :
    addWords { draft with redirections := redirections } words =
      { draft.addWords words with redirections := redirections } := by
  induction words generalizing draft with
  | nil => rfl
  | cons token rest ih =>
      have hfirst :
          addWord { draft with redirections := redirections } token.text =
          { draft.addWord token.text with redirections := redirections } := by
        obtain ⟨name, arguments, kept⟩ := draft
        cases name <;> rfl
      have hrest := ih (draft.addWord token.text)
      rw [← hfirst] at hrest
      exact hrest

theorem read_word {token : Token} (hword : IsWord token) (draft : Draft)
    (rest : List Token) :
    draft.read (token :: rest) = (draft.addWord token.text).read rest := by
  obtain ⟨kind, text⟩ := token
  rcases hword with hkind | hkind
  · cases hkind
    rfl
  · cases hkind
    rfl

theorem read_pair (operator : Operator) (target : Text) (draft : Draft)
    (rest : List Token) :
    draft.read (.redirect operator :: .word target :: rest) =
      (draft.addRedirection (operator.toTarget target)).read rest := by
  simp only [Token.redirect, Token.word, read, Operator.ofText?_text]

/-- After words and redirections, what follows is read by a draft that has taken
each of the two lists from the left. -/
theorem read_append_of_interleaves (h : Interleaves words pairs tokens)
    (draft : Draft) (rest : List Token) :
    draft.read (tokens ++ rest) =
      read { draft.addWords words with
        redirections := (pairs.map fun pair => pair.1.toTarget pair.2).foldl
          (fun kept redirection => redirection.insert kept) draft.redirections }
            rest := by
  induction h generalizing draft with
  | nil => rfl
  | word hword h ih =>
      have hkept :
          ∀ text, (draft.addWord text).redirections = draft.redirections := by
        intro text
        obtain ⟨name, arguments, kept⟩ := draft
        cases name <;> rfl
      rw [List.cons_append, read_word hword, ih, hkept]
      rfl
  | pair operator target h ih =>
      rw [List.cons_append, List.cons_append, read_pair, ih, addRedirection,
        addWords_with]
      rfl

theorem read_of_interleaves (h : Interleaves words pairs tokens)
    (draft : Draft) :
    draft.read tokens = .ok
      { draft.addWords words with
        redirections := (pairs.map fun pair => pair.1.toTarget pair.2).foldl
          (fun kept redirection => redirection.insert kept) draft.redirections
            } := by
  have hread := read_append_of_interleaves h draft []
  rw [List.append_nil] at hread
  exact hread

end Draft

/-- Words and redirections make the same command however they are put together:
the first word is its name, the others are its arguments, and of each stream the
last redirection counts, in the order of the first appearance of the streams. -/
theorem ofTokens_of_interleaves {first : Token}
    (h : Interleaves (first :: words) pairs tokens) :
    ∃ command, ofTokens tokens = .ok command ∧
      command.name = first.text ∧ command.arguments = words.map Token.text ∧
      (let redirections := pairs.map fun pair => pair.1.toTarget pair.2
       command.redirections =
          redirections.foldl (fun kept redirection => redirection.insert kept)
            [] ∧
        (command.redirections.map Redirection.stream).Nodup ∧
        command.redirections.map Redirection.stream =
          (redirections.map Redirection.stream).eraseDups ∧
        ∀ stream, Redirection.of? stream command.redirections =
          redirections.reverse.find? fun redirection =>
            redirection.stream = stream) ∧
      tokens.length = 1 + command.arguments.length + 2 * pairs.length := by
  have hread := Draft.read_of_interleaves h Draft.empty
  have hwords : Draft.empty.addWords (first :: words) =
      ⟨some first.text, words.map Token.text, []⟩ :=
        Draft.addWords_named first.text [] [] words
  rw [hwords] at hread
  refine ⟨⟨first.text, words.map Token.text, Redirection.keep _⟩, ?_, rfl, rfl,
    ⟨rfl, Redirection.nodup_map_stream_keep _, Redirection.map_stream_keep _,
      Redirection.of?_keep _⟩, ?_⟩
  · rw [ofTokens, hread]
    rfl
  · have hlength := h.length_eq
    simp only [List.length_cons, List.length_map] at hlength ⊢
    omega

/-- Two redirections of one stream around the words, one of which was quoted,
and one of the other stream between them. -/
theorem ofTokens_of_interleaves_three :
    let tokens := [.redirect ⟨none, .truncate⟩, .word ['a'],
      .word "echo".toList, .redirect ⟨some .errors, .truncate⟩, .word ['b'],
      ⟨.quotedFragment, ['x']⟩, .redirect ⟨some .output, .append⟩, .word ['c']]
    Interleaves [.word "echo".toList, ⟨.quotedFragment, ['x']⟩]
        [(⟨none, .truncate⟩, ['a']), (⟨some .errors, .truncate⟩, ['b']),
          (⟨some .output, .append⟩, ['c'])] tokens ∧
      ofTokens tokens = .ok ⟨"echo".toList, [['x']],
        [⟨.output, .append, ['c']⟩, ⟨.errors, .truncate, ['b']⟩]⟩ := by
  intro tokens
  have h : Interleaves [.word "echo".toList, ⟨.quotedFragment, ['x']⟩]
      [(⟨none, .truncate⟩, ['a']), (⟨some .errors, .truncate⟩, ['b']),
        (⟨some .output, .append⟩, ['c'])] tokens :=
    .pair _ _
      (.word (Or.inl rfl) (.pair _ _ (.word (Or.inr rfl) (.pair _ _ .nil))))
  obtain ⟨command, hcommand, hname, harguments, ⟨hredirections, -⟩, -⟩ :=
    ofTokens_of_interleaves h
  refine ⟨h, ?_⟩
  obtain ⟨name, arguments, redirections⟩ := command
  cases hname
  cases harguments
  cases hredirections
  exact hcommand

end Command

end LineShell
