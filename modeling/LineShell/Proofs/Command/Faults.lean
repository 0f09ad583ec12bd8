import LineShell.Proofs.Command.Placement

/-!
What is wrong with tokens that are no command.

Main statement: tokens are a command exactly if they are words and redirections,
with at least one word, and otherwise the error is that of the first place at
which no word and no redirection can be read (`ofTokens_faults`).
-/
namespace LineShell.Command

/-- Tokens that start with no word and no redirection, with the error for them
and what it says if it is a syntax error.  What stands after an operator is
judged as its target and not by itself. -/
inductive Breaks : List Token → LineError → Option Text → Prop
  | pipe (text : Text) (rest : List Token) :
      Breaks (⟨.pipe, text⟩ :: rest) .pipeline
        (some "pipelines are not supported".toList)
  | last (text : Text) :
      Breaks [⟨.redirect, text⟩] .missingTarget
        (some "near unexpected token `newline'".toList)
  | target (text : Text) {token : Token} (htoken : token.kind ≠ .word)
      (rest : List Token) :
      Breaks (⟨.redirect, text⟩ :: token :: rest) (.unexpected token.text)
        (some ("near unexpected token `".toList ++ token.text ++ ['\'']))
  | operator {text : Text} (htext : ∀ operator : Operator, operator.text ≠ text)
      (target : Text)
      (rest : List Token) :
      Breaks (⟨.redirect, text⟩ :: .word target :: rest) (.unknownOperator text)
        none

/-- Whether the first fault of tokens is this one: a place after words and
redirections at which no other one can be read, or no word in all of them. -/
def IsFirstFault (tokens : List Token) (error : LineError)
    (detail : Option Text) : Prop :=
  (∃ words pairs items rest, tokens = items ++ rest ∧
    Interleaves words pairs items ∧
    Breaks rest error detail) ∨
  (∃ pairs, Interleaves [] pairs tokens) ∧ error = .missingName ∧
    detail = some "missing command name".toList

theorem Breaks.read_eq {rest : List Token} {error : LineError}
    {detail : Option Text} (h : Breaks rest error detail) (draft : Draft) :
    draft.read rest = .error error := by
  cases h with
  | pipe text rest => rfl
  | last text => rfl
  | @target text token htoken rest =>
      obtain ⟨kind, target⟩ := token
      cases kind with
      | word => exact absurd rfl htoken
      | redirect => rfl
      | pipe => rfl
      | quotedFragment => rfl
  | @operator text htext target rest =>
      have hnone : Operator.ofText? text = none := by
        rw [Option.eq_none_iff_forall_ne_some]
        intro operator hoperator
        exact htext operator (Operator.text_eq_of_ofText? hoperator)
      simp only [Token.word, Draft.read, hnone]

/-- Whether words and redirections can be read up to the end or up to a
fault. -/
def HasItems (tokens : List Token) : Prop :=
  ∃ words pairs items rest, tokens = items ++ rest ∧
    Interleaves words pairs items ∧
    (rest = [] ∨ ∃ error : LineError, Breaks rest error error.detail?)

theorem HasItems.of_breaks {tokens : List Token} {error : LineError}
    (h : Breaks tokens error error.detail?) : HasItems tokens :=
  ⟨[], [], [], tokens, rfl, .nil, Or.inr ⟨error, h⟩⟩

theorem HasItems.word {token : Token}
    {tokens : List Token} (hword : IsWord token) (h : HasItems tokens) :
    HasItems (token :: tokens) := by
  obtain ⟨words, pairs, items, rest, rfl, hitems, hrest⟩ := h
  exact ⟨token :: words, pairs, token :: items, rest, rfl, .word hword hitems,
    hrest⟩

theorem HasItems.pair {tokens : List Token} (text target : Text)
    (h : HasItems tokens) :
    HasItems (⟨.redirect, text⟩ :: .word target :: tokens) := by
  cases hoperator : Operator.ofText? text with
  | none =>
      apply HasItems.of_breaks
      apply Breaks.operator
      rintro operator rfl
      rw [Operator.ofText?_text] at hoperator
      cases hoperator
  | some operator =>
      cases Operator.text_eq_of_ofText? hoperator
      obtain ⟨words, pairs, items, rest, rfl, hitems, hrest⟩ := h
      exact ⟨words, (operator, target) :: pairs, _, rest, rfl,
        .pair operator target hitems, hrest⟩

/-- All tokens are words and redirections up to a fault. -/
theorem hasItems : (tokens : List Token) → HasItems tokens
  | [] => ⟨[], [], [], [], rfl, .nil, Or.inl rfl⟩
  | ⟨.word, _⟩ :: rest => (hasItems rest).word (Or.inl rfl)
  | ⟨.quotedFragment, _⟩ :: rest => (hasItems rest).word (Or.inr rfl)
  | ⟨.pipe, text⟩ :: rest => .of_breaks (.pipe text rest)
  | [⟨.redirect, text⟩] => .of_breaks (.last text)
  | ⟨.redirect, text⟩ :: ⟨.word, target⟩ :: rest =>
      (hasItems rest).pair text target
  | ⟨.redirect, text⟩ :: ⟨.redirect, _⟩ :: rest =>
      .of_breaks (.target text (by simp) rest)
  | ⟨.redirect, text⟩ :: ⟨.pipe, _⟩ :: rest =>
      .of_breaks (.target text (by simp) rest)
  | ⟨.redirect, text⟩ :: ⟨.quotedFragment, _⟩ :: rest =>
      .of_breaks (.target text (by simp) rest)

theorem ofTokens_nameless {pairs : List (Operator × Text)}
    {tokens : List Token} (h : Interleaves [] pairs tokens) :
    ofTokens tokens = .error .missingName := by
  rw [ofTokens, Draft.read_of_interleaves h]
  rfl

theorem Draft.exists_finish_eq {draft : Draft} {name : Text}
    (h : draft.name = some name) :
    ∃ command, draft.finish = .ok command := by
  rw [Draft.finish, h]
  exact ⟨_, rfl⟩

theorem exists_ofTokens_eq
    {first : Token} {words tokens : List Token} {pairs : List (Operator × Text)}
    (h : Interleaves (first :: words) pairs tokens) :
    ∃ command, ofTokens tokens = .ok command := by
  have hname : (Draft.empty.addWords (first :: words)).name = some first.text :=
    congrArg Draft.name (Draft.addWords_named first.text [] [] words)
  rw [ofTokens, Draft.read_of_interleaves h]
  exact Draft.exists_finish_eq hname

theorem ofTokens_of_breaks {words items rest : List Token}
    {pairs : List (Operator × Text)} {error : LineError} {detail : Option Text}
    (h : Interleaves words pairs items) (hbreaks : Breaks rest error detail) :
    ofTokens (items ++ rest) = .error error := by
  rw [ofTokens, Draft.read_append_of_interleaves h, hbreaks.read_eq]
  rfl

theorem IsFirstFault.ofTokens_eq {tokens : List Token} {error : LineError}
    {detail : Option Text} (h : IsFirstFault tokens error detail) :
    ofTokens tokens = .error error := by
  rcases h with ⟨words, pairs, items, rest, rfl, hitems,
    hbreaks⟩ | ⟨⟨pairs, hpairs⟩, rfl, -⟩
  · exact ofTokens_of_breaks hitems hbreaks
  · exact ofTokens_nameless hpairs

/-- Tokens are words and redirections with at least one word, or they have a
first fault. -/
theorem exists_interleaves_or_fault (tokens : List Token) :
    (∃ first words pairs, Interleaves (first :: words) pairs tokens) ∨
      ∃ error : LineError, IsFirstFault tokens error error.detail? := by
  obtain ⟨words, pairs, items, rest, rfl, hitems, hrest⟩ := hasItems tokens
  rcases hrest with rfl | ⟨error, hbreaks⟩
  · rw [List.append_nil]
    cases words with
    | nil => exact Or.inr ⟨.missingName, Or.inr ⟨⟨pairs, hitems⟩, rfl, rfl⟩⟩
    | cons first words => exact Or.inl ⟨first, words, pairs, hitems⟩
  · exact Or.inr ⟨error,
      Or.inl ⟨words, pairs, items, rest, rfl, hitems, hbreaks⟩⟩

/-- Tokens are a command exactly if they are words and redirections with at
least one word, and the error for others is that of their first fault. -/
theorem ofTokens_faults (tokens : List Token) :
    ((∃ command, ofTokens tokens = .ok command) ↔
      ∃ first words pairs, Interleaves (first :: words) pairs tokens) ∧
    ∀ error, ofTokens tokens = .error error ↔
      IsFirstFault tokens error error.detail? := by
  constructor
  · constructor
    · rintro ⟨command, hcommand⟩
      rcases exists_interleaves_or_fault tokens with hitems | ⟨error, hfault⟩
      · exact hitems
      · rw [hfault.ofTokens_eq] at hcommand
        cases hcommand
    · rintro ⟨first, words, pairs, hitems⟩
      exact exists_ofTokens_eq hitems
  · intro error
    refine ⟨fun herror => ?_, IsFirstFault.ofTokens_eq⟩
    rcases exists_interleaves_or_fault tokens
      with ⟨first, words, pairs, hitems⟩ | ⟨found, hfault⟩
    · obtain ⟨command, hcommand⟩ := exists_ofTokens_eq hitems
      rw [hcommand] at herror
      cases herror
    · rw [hfault.ofTokens_eq] at herror
      cases herror
      exact hfault

/-- A pipe in the place of a target is no pipeline. -/
example : ofTokens [.word ['a'], ⟨.redirect, ['<']⟩, ⟨.pipe, ['|']⟩] =
    .error (.unexpected ['|']) :=
  rfl

end LineShell.Command
