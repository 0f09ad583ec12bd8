import LineShell.Proofs.Lookup.Agreement
import LineShell.Proofs.Token.Verbatim

/-!
Accepting a proposal: what the line says once the text of a proposal is in it.

A proposal puts a name into the line as it is, and leaves the blanks before it.
Both are read by rules of their own: only a space parts words, and a name may
have characters that mean something to the reader.

Main statement: the line is read as the proposed name alone exactly if the
blanks are spaces and the name is plain, and then it is the command of that name
(`ofLine_accept_iff`).
-/
namespace LineShell.Completion

/-- The text before the cursor after a proposal is accepted. -/
def accept (beforeCursor : Text) (completion : Completion) : Text :=
  beforeCursor.take (beforeCursor.length - (-completion.start).toNat) ++
    completion.text

/-- The blanks before the word that is completed. -/
def indent (beforeCursor : Text) : Text := beforeCursor.takeWhile Text.isBlank

variable {session : Session} {machine : Machine} {beforeCursor : Text}
  {completions : List Completion} {completion : Completion}

/-- Accepting a name keeps the blanks before the word and puts the name in the
place of the word. -/
theorem accept_ofName (beforeCursor name : Text) :
    accept beforeCursor (ofName (Text.trimStart beforeCursor) name) =
      indent beforeCursor ++ name ++ [' '] := by
  have hsplit :
      indent beforeCursor ++ Text.trimStart beforeCursor = beforeCursor :=
    List.takeWhile_append_dropWhile
  have hlength := congrArg List.length hsplit
  have hkept : beforeCursor.take
      (beforeCursor.length - (Text.trimStart beforeCursor).length) =
      indent beforeCursor := by
    rw [← hlength, List.length_append, Nat.add_sub_cancel]
    exact (List.prefix_iff_eq_take.1 ⟨_, hsplit⟩).symm
  rw [accept, ofName, Int.neg_neg, Int.toNat_natCast, hkept, List.append_assoc]

/-- A proposal is a name in the place of the word typed so far. -/
theorem eq_ofName_of_mem
    (h : proposals session machine beforeCursor = .ok completions)
    (hmem : completion ∈ completions) :
    completion = ofName (Text.trimStart beforeCursor) completion.display := by
  unfold proposals at h
  by_cases hspace : (Text.trimStart beforeCursor).contains ' ' = true
  · rw [if_pos hspace] at h
    cases h
    cases hmem
  · rw [if_neg hspace] at h
    cases hnames : candidates session machine (Text.trimStart beforeCursor) with
    | error refusal =>
        rw [hnames] at h
        cases h
    | ok names =>
        rw [hnames] at h
        cases h
        obtain ⟨name, -, rfl⟩ := List.mem_map.1 hmem
        rfl

theorem ofTokens_word (name : Text) :
    Command.ofTokens [Token.word name] = .ok (Command.bare name) := rfl

/-- A blank is neither a quote nor a backslash. -/
theorem ne_quote_of_mem_indent {c : Char} (h : c ∈ indent beforeCursor) :
    c ≠ '\'' ∧ c ≠ '"' ∧ c ≠ '\\' := by
  have hblank : Text.isBlank c = true :=
    List.all_eq_true.1 List.all_takeWhile c h
  refine ⟨?_, ?_, ?_⟩
  · rintro rfl
    exact absurd hblank (by decide)
  · rintro rfl
    exact absurd hblank (by decide)
  · rintro rfl
    exact absurd hblank (by decide)

/-- For every proposal: the line after accepting it is the one word that the
proposal shows exactly if the blanks before the word are spaces and the name is
plain; then the line is the command of that name, without arguments and
redirections. -/
theorem ofLine_accept_iff (session : Session)
    (machine : Machine) (beforeCursor : Text) (completions : List Completion)
    (h : proposals session machine beforeCursor = .ok completions) :
    ∀ completion ∈ completions,
      (Token.ofLine (accept beforeCursor completion) =
        .ok [Token.word completion.display] ↔
        (∀ c ∈ indent beforeCursor, c = ' ') ∧
          Token.IsPlain completion.display) ∧
      ((∀ c ∈ indent beforeCursor, c = ' ') → Token.IsPlain completion.display →
        Command.ofLine (accept beforeCursor completion) =
          .ok ⟨completion.display, [], []⟩) := by
  intro completion hmem
  have hline : accept beforeCursor completion =
      indent beforeCursor ++ completion.display ++ [' '] := by
    rw [eq_ofName_of_mem h hmem]
    exact accept_ofName beforeCursor completion.display
  have htokens :=
    @Token.ofLine_verbatim_iff (indent beforeCursor) completion.display
    fun c hc => ne_quote_of_mem_indent hc
  rw [hline]
  refine ⟨htokens, ?_⟩
  intro hspaces hplain
  rw [Command.ofLine, htokens.2 ⟨hspaces, hplain⟩]
  exact ofTokens_word completion.display

/-- A word after two spaces. -/
theorem ofLine_accept_iff_spaces :
    let shell := Shell.cluttered
    let proposed : Completion := ⟨"echo ".toList, -2, "echo".toList⟩
    proposals shell.session shell.machine "  ec".toList = .ok [proposed] ∧
      accept "  ec".toList proposed = "  echo ".toList ∧
      Command.ofLine (accept "  ec".toList proposed) =
        .ok ⟨"echo".toList, [], []⟩ := by
  intro shell proposed
  have h : proposals shell.session shell.machine "  ec".toList =
      .ok [proposed] := rfl
  obtain ⟨-, hcommand⟩ :=
    ofLine_accept_iff shell.session shell.machine "  ec".toList [proposed] h
    proposed List.mem_cons_self
  have hspaces : ∀ c ∈ indent "  ec".toList, c = ' ' := by
    rw [show indent "  ec".toList = [' ', ' '] from rfl]
    simp
  exact ⟨h, rfl, hcommand hspaces (by decide)⟩

/-- A machine with an executable whose name has a space. -/
def spaced : Machine where
  volume :=
    { entries := [(["bin".toList], .directory),
      (["bin".toList, "sp ace".toList], .file [] true)]
      refuses := fun _ => none
      nesting := 0 }
  directory := []

/-- A name with a space is accepted as two words, and a tab before a name as a
part of it. -/
theorem ofLine_accept_misread :
    let session := Shell.cluttered.session
    let parted : Completion := ⟨"sp ace ".toList, -2, "sp ace".toList⟩
    let indented : Completion := ⟨"echo ".toList, -2, "echo".toList⟩
    proposals session spaced "sp".toList = .ok [parted] ∧
      Token.ofLine (accept "sp".toList parted) =
        .ok [Token.word "sp".toList, Token.word "ace".toList] ∧
      Token.ofLine (accept "sp".toList parted) ≠
        .ok [Token.word parted.display] ∧
      proposals session spaced "\tec".toList = .ok [indented] ∧
      Token.ofLine (accept "\tec".toList indented) =
        .ok [Token.word "\techo".toList] ∧
      Token.ofLine (accept "\tec".toList indented) ≠
        .ok [Token.word indented.display] :=
  ⟨rfl, rfl, by decide +kernel, rfl, rfl, by decide +kernel⟩

end LineShell.Completion
