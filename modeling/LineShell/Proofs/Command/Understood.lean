import LineShell.Command
import LineShell.Proofs.Token.Place

/-!
What is read off a line is understood where commands are made of it.

Main statement: the tokens of a line are words with characters and known
operators, each as long as it can be where it stands.  So a line is a command of
which no text is empty, or it has a syntax error, and never one about pipelines
(`ofLine_understood`).  What a draft keeps is said of one token at a time, and
of all of them by induction along the reading.
-/
namespace LineShell

/-- Whether a line can have an error: it has no pipe, and all of its operators
are known. -/
def LineError.IsLexical (error : LineError) : Prop :=
  error ≠ .pipeline ∧ ∀ text, error ≠ .unknownOperator text

/-- What is wrong with a line is a syntax error, and not one about pipelines. -/
theorem LineError.IsLexical.exists_detail {error : LineError}
    (h : error.IsLexical) :
    ∃ detail, error.detail? = some detail ∧
      detail ≠ "pipelines are not supported".toList := by
  cases error with
  | openSingleQuote => exact ⟨_, rfl, by decide⟩
  | openDoubleQuote => exact ⟨_, rfl, by decide⟩
  | openEscape => exact ⟨_, rfl, by decide⟩
  | pipeline => exact absurd rfl h.1
  | missingTarget => exact ⟨_, rfl, by decide⟩
  | unexpected token => exact ⟨_, rfl, by simp⟩
  | missingName => exact ⟨_, rfl, by decide⟩
  | unknownOperator text => exact absurd rfl (h.2 text)

namespace Token

theorem isLexical_of_ofLine_eq_error {line : Text} {error : LineError}
    (h : ofLine line = .error error) : error.IsLexical := by
  unfold ofLine Lexer.finish at h
  split at h <;> cases h <;> exact ⟨nofun, nofun⟩

namespace IsLexical

variable {token : Token}

theorem text_ne_nil (h : token.IsLexical) : token.text ≠ [] := by
  rcases h with ⟨text, hne, rfl⟩ | ⟨operator, rfl⟩
  · exact hne
  · exact List.ne_nil_of_length_pos operator.width_pos

/-- A token of a line is a word with a character, or an operator that is
known. -/
theorem kind_eq (h : token.IsLexical) :
    token.kind = .word ∧ token.text ≠ [] ∨
      token.kind = .redirect ∧
        ∃ operator, Operator.ofText? token.text = some operator := by
  rcases h with ⟨text, hne, rfl⟩ | ⟨operator, rfl⟩
  · exact Or.inl ⟨rfl, hne⟩
  · exact Or.inr ⟨rfl, operator, Operator.ofText?_text operator⟩

end IsLexical

end Token

theorem Redirection.eq_or_mem_of_mem_insert {redirection other : Redirection}
    {kept : List Redirection} (h : other ∈ redirection.insert kept) :
    other = redirection ∨ other ∈ kept := by
  induction kept with
  | nil => exact Or.inl (List.mem_singleton.1 h)
  | cons first rest ih =>
      unfold insert at h
      split at h
      · exact (List.mem_cons.1 h).imp_right (List.mem_cons_of_mem first)
      · rcases List.mem_cons.1 h with rfl | hrest
        · exact Or.inr List.mem_cons_self
        · exact (ih hrest).imp_right (List.mem_cons_of_mem first)

namespace Command

/-- Whether no text of a draft is empty. -/
structure Draft.IsFilled (draft : Draft) : Prop where
  name : ∀ name ∈ draft.name, name ≠ []
  arguments : ∀ argument ∈ draft.arguments, argument ≠ []
  targets : ∀ redirection ∈ draft.redirections, redirection.target ≠ []

namespace Draft

variable {draft final : Draft} {tokens : List Token} {error : LineError}

theorem isFilled_empty : empty.IsFilled := ⟨nofun, nofun, nofun⟩

namespace IsFilled

theorem addWord (h : draft.IsFilled) {text : Text} (htext : text ≠ []) :
    (draft.addWord text).IsFilled := by
  obtain ⟨name, arguments, redirections⟩ := draft
  cases name with
  | none => exact ⟨fun name hname => Option.some.inj hname ▸ htext, h.arguments,
      h.targets⟩
  | some name =>
      refine ⟨h.name, fun argument hargument => ?_, h.targets⟩
      rcases List.mem_append.1 hargument with hold | hnew
      · exact h.arguments argument hold
      · rw [List.mem_singleton.1 hnew]
        exact htext

theorem addRedirection (h : draft.IsFilled)
    {redirection : Redirection} (htarget : redirection.target ≠ []) :
    (draft.addRedirection redirection).IsFilled := by
  refine ⟨h.name, h.arguments, fun other hother => ?_⟩
  rcases Redirection.eq_or_mem_of_mem_insert hother with rfl | hold
  · exact htarget
  · exact h.targets other hold

/-- Reading the tokens of a line keeps every text of a draft from being
empty. -/
theorem read (h : draft.IsFilled) (hlexical : ∀ token ∈ tokens, token.IsLexical)
    (hread : draft.read tokens = .ok final) : final.IsFilled := by
  fun_induction Draft.read draft tokens with
  | case1 draft => exact Except.ok.inj hread ▸ h
  | case2 => cases hread
  | case3 => cases hread
  | case4 => cases hread
  | case5 draft text target rest operator hfound ih =>
      simp only [List.forall_mem_cons] at hlexical
      obtain ⟨-, htarget, hrest⟩ := hlexical
      exact ih (h.addRedirection htarget.text_ne_nil) hrest hread
  | case6 => cases hread
  | case7 draft kind text rest hpipe hlast hword hother ih =>
      obtain ⟨htoken, hrest⟩ := List.forall_mem_cons.1 hlexical
      exact ih (h.addWord htoken.text_ne_nil) hrest hread

end IsFilled

/-- Reading the tokens of a line comes across no pipe and no unknown
operator. -/
theorem isLexical_of_read_eq_error
    (hlexical : ∀ token ∈ tokens, token.IsLexical)
    (hread : draft.read tokens = .error error) : error.IsLexical := by
  fun_induction Draft.read draft tokens with
  | case1 => cases hread
  | case2 =>
      rcases (hlexical _ List.mem_cons_self).kind_eq
        with ⟨hword, -⟩ | ⟨hredirect, -⟩
      · cases hword
      · cases hredirect
  | case3 =>
      cases hread
      exact ⟨nofun, nofun⟩
  | case4 draft text target rest hunknown =>
      rcases (hlexical _ List.mem_cons_self).kind_eq
        with ⟨hword, -⟩ | ⟨-, operator, hknown⟩
      · cases hword
      · rw [hunknown] at hknown
        cases hknown
  | case5 draft text target rest operator hfound ih =>
      simp only [List.forall_mem_cons] at hlexical
      exact ih hlexical.2.2 hread
  | case6 =>
      cases hread
      exact ⟨nofun, nofun⟩
  | case7 draft kind text rest hpipe hlast hword hother ih =>
      exact ih (List.forall_mem_cons.1 hlexical).2 hread

end Draft

structure IsFilled (command : Command) : Prop where
  name : command.name ≠ []
  arguments : ∀ argument ∈ command.arguments, argument ≠ []
  targets : ∀ redirection ∈ command.redirections, redirection.target ≠ []

theorem ofTokens_of_isLexical {tokens : List Token}
    (hlexical : ∀ token ∈ tokens, token.IsLexical) :
    (∃ error, ofTokens tokens = .error error ∧ error.IsLexical) ∨
      ∃ command, ofTokens tokens = .ok command ∧ command.IsFilled := by
  cases hread : Draft.empty.read tokens with
  | error error =>
      refine Or.inl ⟨error, ?_, Draft.isLexical_of_read_eq_error hlexical hread⟩
      rw [ofTokens, hread]
      rfl
  | ok draft =>
      have hfilled := Draft.isFilled_empty.read hlexical hread
      have hfinish : ofTokens tokens = draft.finish := by
        rw [ofTokens, hread]
        rfl
      rw [hfinish]
      obtain ⟨name, arguments, redirections⟩ := draft
      cases name with
      | none => exact Or.inl ⟨.missingName, rfl, nofun, nofun⟩
      | some name =>
          refine Or.inr ⟨_, rfl, ?_, hfilled.arguments, hfilled.targets⟩
          exact hfilled.name name rfl

theorem ofLine_lexical (line : Text) :
    (∃ error, ofLine line = .error error ∧ error.IsLexical) ∨
      ∃ command, ofLine line = .ok command ∧ command.IsFilled := by
  cases htokens : Token.ofLine line with
  | error error =>
      refine Or.inl ⟨error, ?_, Token.isLexical_of_ofLine_eq_error htokens⟩
      rw [ofLine, htokens]
      rfl
  | ok tokens =>
      have hcommand : ofLine line = ofTokens tokens := by
        rw [ofLine, htokens]
        rfl
      rw [hcommand]
      exact ofTokens_of_isLexical fun token =>
        Token.isLexical_of_mem_ofLine htokens

/-- Whatever is wrong with a line has words. -/
theorem detail?_isSome_of_ofLine {line : Text} {error : LineError}
    (h : ofLine line = .error error) : error.detail?.isSome = true := by
  rcases ofLine_lexical line
    with ⟨other, hother, hlexical⟩ | ⟨command, hcommand, -⟩
  · obtain ⟨detail, hdetail, -⟩ := hlexical.exists_detail
    rw [← Except.error.inj (hother.symm.trans h), hdetail]
    rfl
  · rw [hcommand] at h
    cases h

/-- A line is read as words with characters and known operators, none of which a
bracket after it would make longer, or it is refused as a syntax error.  What is
made of it is a command without empty texts or a syntax error, which is never
that pipelines are not supported. -/
theorem ofLine_understood (line : Text) :
    ((∃ error detail, Token.ofLine line = .error error ∧
      error.detail? = some detail) ∨
      ∃ tokens, Token.ofLine line = .ok tokens ∧
        (∀ token ∈ tokens, token.kind = .word ∧ token.text ≠ [] ∨
          token.kind = .redirect ∧
            ∃ operator, Operator.ofText? token.text = some operator) ∧
        ∀ first found second, tokens = first ++ .redirect found :: second →
          (∃ before after, Token.Stands found first second line before after) ∧
          ∀ before after, Token.Stands found first second line before after →
            found.mode = .truncate → after.head? ≠ some '>') ∧
    ((∃ error detail, ofLine line = .error error ∧ error.detail? = some detail ∧
        detail ≠ "pipelines are not supported".toList) ∨
      ∃ command, ofLine line = .ok command ∧ command.IsFilled) := by
  constructor
  · cases htokens : Token.ofLine line with
    | error error =>
        obtain ⟨detail, hdetail, -⟩ :=
          (Token.isLexical_of_ofLine_eq_error htokens).exists_detail
        exact Or.inl ⟨error, detail, rfl, hdetail⟩
    | ok tokens =>
        refine Or.inr ⟨tokens, rfl, fun token htoken => ?_, ?_⟩
        · exact (Token.isLexical_of_mem_ofLine htokens htoken).kind_eq
        · rintro first found second rfl
          obtain ⟨before, after, hstands, -⟩ := Token.exists_stands htokens
          exact ⟨⟨before, after, hstands⟩, fun _ _ h =>
            h.head?_ne_bracket htokens⟩
  · rcases ofLine_lexical line with ⟨error, herror, hlexical⟩ | hcommand
    · obtain ⟨detail, hdetail, hpipelines⟩ := hlexical.exists_detail
      exact Or.inl ⟨error, detail, herror, hdetail, hpipelines⟩
    · exact Or.inr hcommand

/-- Two operators with their targets before the name.  The first target ends
with a digit, which is no number of a stream for the second operator. -/
theorem ofLine_understood_targets :
    let line := "2>a1>>'b' x".toList
    let others :=
      [.word "a1".toList, .redirect ⟨none, .append⟩, .word ['b'], .word ['x']]
    let command : Command :=
      ⟨['x'], [],
        [⟨.errors, .truncate, "a1".toList⟩, ⟨.output, .append, ['b']⟩]⟩
    Token.ofLine line = .ok (.redirect ⟨some .errors, .truncate⟩ :: others) ∧
      Token.Stands ⟨some .errors, .truncate⟩ [] others line
        [] "a1>>'b' x".toList ∧
      "a1>>'b' x".toList.head? ≠ some '>' ∧ ofLine line = .ok command ∧
      command.IsFilled := by
  intro line others command
  have hline : Token.ofLine line =
      .ok (.redirect ⟨some .errors, .truncate⟩ :: others) := rfl
  have hstands : Token.Stands ⟨some .errors, .truncate⟩ [] others line
      [] "a1>>'b' x".toList :=
    ⟨rfl, rfl, rfl⟩
  obtain ⟨⟨error, -, herror, -⟩ | ⟨tokens, htokens, -, hplaces⟩, hread⟩ :=
    ofLine_understood line
  · rw [hline] at herror
    cases herror
  · cases Except.ok.inj (hline.symm.trans htokens)
    have hbracket := (hplaces [] _ others rfl).2 _ _ hstands rfl
    rcases hread with ⟨error, -, herror, -⟩ | ⟨found, hfound, hfilled⟩
    · cases herror
    · cases hfound
      exact ⟨hline, hstands, hbracket, rfl, hfilled⟩

end Command

end LineShell
