import LineShell.Proofs.CommandLine.Reading
import LineShell.Proofs.Shell.Prior

/-!
The shell on standard input that it shares with its programs.

Main statement: if programs leave alone what lies beyond the part of the input
that is read ahead first, the shell on its input does what it does on the lines
of the input (`serve_eq_run`).  Whatever programs do, what has been said and
told before makes no difference (`exists_serve_logged`).
-/
namespace LineShell

/-- Whether programs take nothing of what is left on standard input, whichever
end of a text that is, and do what they do where nothing is left. -/
def Programs.LeaveAlone (programs : Programs) (text : Text) : Prop :=
  ∀ child left, left <:+ text → left ≠ [] →
    programs child left = { programs child [] with taken := 0 }

namespace Shell

/-- The shell with something else left on standard input. -/
def withInput (shell : Shell) (left : Text) : Shell :=
  { shell with input := left }

section WithInput

variable (shell : Shell) (left : Text)

@[simp] theorem withInput_session :
    (shell.withInput left).session = shell.session := rfl

@[simp] theorem withInput_machine :
    (shell.withInput left).machine = shell.machine := rfl

@[simp] theorem withInput_programs :
    (shell.withInput left).programs = shell.programs := rfl

@[simp] theorem withInput_input : (shell.withInput left).input = left := rfl

@[simp] theorem withInput_withInput (other : Text) :
    (shell.withInput other).withInput left = shell.withInput left := rfl

theorem say_withInput (text : Text) :
    (shell.withInput left).say text = (shell.say text).withInput left := rfl

theorem tell_withInput (event : Event) :
    (shell.withInput left).tell event = (shell.tell event).withInput left := by
  have hjournal : (shell.withInput left).journal = shell.journal := rfl
  unfold tell
  rw [hjournal]
  split <;> rfl

theorem report_withInput (reporter : Reporter) (message : Text) :
    (shell.withInput left).report reporter message =
      (shell.report reporter message).withInput left := by
  cases reporter <;> rfl

theorem tellDirectory_withInput (builtin : Builtin) (old : Path)
    (result : Except Failure Outcome) :
    (shell.withInput left).tellDirectory builtin old result =
      (shell.tellDirectory builtin old result).withInput left := by
  unfold tellDirectory
  split
  · exact shell.tell_withInput left _
  · rfl

end WithInput

variable {shell : Shell} {left text : Text}

theorem settle_withInput (shell : Shell) (builtin : Builtin) (effect : Effect)
    (output : Option Handle) :
    (shell.withInput left).settle builtin effect output =
      ((shell.settle builtin effect output).1,
        (shell.settle builtin effect output).2.withInput left) := by
  have hchanged : ({ shell.withInput left with
      session := effect.session } : Shell).tellDirectory
      builtin shell.session.cwd effect.result =
    (({ shell with session := effect.session } : Shell).tellDirectory builtin
      shell.session.cwd
      effect.result).withInput left :=
    tellDirectory_withInput { shell with session := effect.session }
      left builtin _ _
  simp only [settle, withInput_session, hchanged]
  cases output with
  | none => rfl
  | some handle =>
      dsimp only [withInput_machine]
      split <;> rfl

theorem runBuiltin_withInput (command : Command) :
    (shell.withInput left).runBuiltin command =
      ((shell.runBuiltin command).1,
        (shell.runBuiltin command).2.withInput left) := by
  unfold runBuiltin
  dsimp only [withInput_machine, withInput_session]
  split
  · rfl
  · split
    · rfl
    · rename_i streams machine hopen
      exact settle_withInput { shell with machine := machine } _ _ _

/-- What a child leaves that leaves alone what is left on standard input. -/
theorem receive_withInput (halone : shell.programs.LeaveAlone text)
    (hleft : left <:+ text) (child : Child) :
    (shell.programs child left).code = (shell.programs child []).code ∧
      (shell.withInput left).receive (shell.programs child left) =
        (shell.receive (shell.programs child [])).withInput left := by
  by_cases hnone : left = []
  · subst hnone
    simp [receive, withInput]
  · rw [halone child left hleft hnone]
    simp [receive, withInput]

theorem runProgram_withInput (shell : Shell)
    (halone : shell.programs.LeaveAlone text) (hleft : left <:+ text)
    (hinput : shell.input = []) (name : Text) (program : Program)
    (streams : Streams) :
    (shell.withInput left).runProgram name program streams =
      ((shell.runProgram name program streams).1,
        (shell.runProgram name program streams).2.withInput left) := by
  unfold runProgram
  dsimp only [withInput_machine, withInput_programs, withInput_input]
  split
  · rfl
  · rename_i entered arguments hprepare
    have hprograms := tell_programs shell (.childStarted name program.path)
    obtain ⟨hcode, hreceive⟩ := receive_withInput (hprograms ▸ halone) hleft
      ⟨program, entered, streams, arguments⟩
    rw [hprograms] at hcode hreceive
    rw [hinput, hcode, tell_withInput, hreceive, tell_withInput]

theorem runExternal_withInput (halone : shell.programs.LeaveAlone text)
    (hleft : left <:+ text) (hinput : shell.input = []) (command : Command) :
    (shell.withInput left).runExternal command =
      ((shell.runExternal command).1,
        (shell.runExternal command).2.withInput left) := by
  unfold runExternal
  dsimp only [withInput_machine, withInput_session]
  split
  · rfl
  · rfl
  · split
    · rfl
    · rename_i streams machine hopen
      exact runProgram_withInput { shell with machine := machine } halone hleft
        hinput _ _ _

theorem attempt_withInput (halone : shell.programs.LeaveAlone text)
    (hleft : left <:+ text) (hinput : shell.input = []) (policy : Policy)
    (command : Command) :
    (shell.withInput left).attempt policy command =
      ((shell.attempt policy command).1,
        (shell.attempt policy command).2.withInput left) := by
  unfold attempt
  dsimp only [withInput_session]
  rw [tell_withInput]
  split
  · exact runBuiltin_withInput command
  · exact runExternal_withInput ((tell_programs shell _).symm ▸ halone) hleft
      ((tell_input shell _).trans hinput) command

theorem judge_withInput (halone : shell.programs.LeaveAlone text)
    (hleft : left <:+ text) (hinput : shell.input = []) (policy : Policy)
    (line : Text) :
    (shell.withInput left).judge policy line =
      ((shell.judge policy line).1,
        (shell.judge policy line).2.withInput left) := by
  unfold judge
  split
  · rfl
  · split
    · rfl
    · rw [tell_withInput,
        attempt_withInput ((tell_programs shell _).symm ▸ halone) hleft
        ((tell_input shell _).trans hinput)]

theorem answer_withInput (setup : Setup) (verdict : Verdict) :
    (shell.withInput left).answer setup verdict =
      ((shell.answer setup verdict).1,
        (shell.answer setup verdict).2.withInput left) := by
  cases verdict with
  | blank => rfl
  | done outcome => rfl
  | failed failure outcome =>
      unfold answer
      dsimp only
      split
      · rw [report_withInput]
      · rfl

/-- Handling a line does not depend on what is left on standard input, if
programs leave it alone. -/
theorem handleLine_withInput (shell : Shell)
    (halone : shell.programs.LeaveAlone text) (hleft : left <:+ text)
    (hinput : shell.input = []) (setup : Setup) (line : Text) :
    (shell.withInput left).handleLine setup line =
      ((shell.handleLine setup line).1,
        (shell.handleLine setup line).2.withInput left) := by
  rw [handleLine_eq_answer, handleLine_eq_answer,
    judge_withInput halone hleft hinput, answer_withInput]

end Shell

namespace Text

theorem byteCount_append (first second : Text) :
    byteCount (first ++ second) = byteCount first + byteCount second := by
  induction first with
  | nil => exact (Nat.zero_add _).symm
  | cons c rest ih =>
      rw [List.cons_append, byteCount, byteCount, ih, Nat.add_assoc]

theorem byteCount_replicate (count : Nat) (c : Char) :
    byteCount (List.replicate count c) = count * c.utf8Size := by
  induction count with
  | zero => rw [List.replicate_zero, byteCount, Nat.zero_mul]
  | succ count ih =>
      rw [List.replicate_succ, byteCount, ih, Nat.succ_mul, Nat.add_comm]

/-- As many bytes as the first part of a text has are that part. -/
theorem bytes_append (first second : Text) :
    takeBytes (byteCount first) (first ++ second) = first ∧
      dropBytes (byteCount first) (first ++ second) = second := by
  induction first with
  | nil => exact ⟨takeBytes_zero second, dropBytes_zero second⟩
  | cons c rest ih =>
      obtain ⟨size, hsize⟩ := Nat.exists_eq_succ_of_ne_zero c.utf8Size_pos.ne'
      have hrest : size + byteCount rest + 1 - (size + 1) = byteCount rest := by
          omega
      rw [byteCount, List.cons_append, hsize, Nat.succ_add, takeBytes,
        dropBytes, hsize, hrest]
      exact ⟨congrArg (c :: ·) ih.1, ih.2⟩

theorem dropBytes_of_le {count : Nat} {text : Text}
    (h : byteCount text ≤ count) : dropBytes count text = [] := by
  induction text generalizing count with
  | nil => exact dropBytes_nil count
  | cons c rest ih =>
      rw [byteCount] at h
      cases count with
      | zero => exact absurd h (by have := c.utf8Size_pos; omega)
      | succ count => exact ih (by omega)

theorem cutLine?_append {front : Text} (h : '\n' ∉ front) (rest : Text) :
    cutLine? (front ++ '\n' :: rest) = some (front ++ ['\n'], rest) := by
  induction front with
  | nil => rfl
  | cons c others ih =>
      obtain ⟨hc, hothers⟩ := not_or.1 (mt List.mem_cons.2 h)
      rw [List.cons_append, cutLine?, if_neg (Ne.symm hc), ih hothers]
      rfl

end Text

namespace CommandLine

/-- A line is read up to the first line feed, and where there is none all is
read. -/
theorem readLine_cases (held input : Text) :
    (∃ front, '\n' ∉ front ∧ (readLine held input).line = front ++ ['\n'] ∧
      held ++ input = front ++
        '\n' :: ((readLine held input).held ++ (readLine held input).left)) ∨
    '\n' ∉ held ++ input ∧ readLine held input = ⟨held ++ input, [], []⟩ := by
  fun_induction readLine held input with
  | case1 held input line rest hcut =>
      obtain ⟨front, hfront, rfl, rfl⟩ := Text.exists_of_cutLine? hcut
      exact Or.inl ⟨front, hfront, rfl, by simp⟩
  | case2 held hcut =>
      rw [List.append_nil]
      exact Or.inr ⟨Text.not_mem_of_cutLine? hcut, rfl⟩
  | case3 held input hcut hsome ih =>
      rw [List.append_assoc, Text.takeBytes_append_dropBytes] at ih
      exact ih

/-- The line that is read is the first one of what is there, and the others are
left. -/
theorem lines_readLine (held input : Text) :
    lines (held ++ input) =
      if (readLine held input).line = [] then []
      else stripped (readLine held input).line ::
        lines ((readLine held input).held ++ (readLine held input).left) := by
  rcases readLine_cases held input
    with ⟨front, hfront, hline, htext⟩ | ⟨hfeed, hread⟩
  · have hstripped : stripped (front ++ ['\n']) = stripped front :=
      Text.dropEndWhile_append (by simp) front
    rw [htext, hline, lines_append hfront, if_neg (by simp), hstripped]
  · rw [hread]
    dsimp only
    split
    · rename_i hnone
      rw [hnone, lines_nil]
    · rename_i hsome
      rw [lines_of_not_mem hfeed hsome]
      rfl

theorem readLine_left_suffix (held input : Text) :
    (readLine held input).left <:+ input := by
  fun_induction readLine held input with
  | case1 held input line rest hcut => exact List.suffix_rfl
  | case2 held hcut => exact List.suffix_rfl
  | case3 held input hcut hsome ih => exact ih.trans (Text.dropBytes_suffix _ _)

/-- The first line is read after as much of the input as can be taken at a
time. -/
theorem readLine_nil_left_suffix (input : Text) :
    (readLine [] input).left <:+ Text.dropBytes readAhead input := by
  unfold readLine
  dsimp only [Text.cutLine?]
  split
  · exact List.nil_suffix
  · exact readLine_left_suffix _ _

/-- A line that is read ahead as a whole is read from that. -/
theorem readLine_of_cutLine? {first line held : Text}
    (hcount : Text.byteCount first = readAhead)
    (hcut : Text.cutLine? first = some (line, held)) (second : Text) :
    readLine [] (first ++ second) = ⟨line, held, second⟩ := by
  have hsome : first ++ second ≠ [] := by
    intro hnone
    rw [(List.append_eq_nil_iff.1 hnone).1] at hcut
    cases hcut
  obtain ⟨htake, hdrop⟩ := Text.bytes_append first second
  rw [readLine]
  dsimp only [Text.cutLine?]
  rw [if_neg hsome, ← hcount, htake, hdrop, List.nil_append, readLine, hcut]

variable {shell : Shell} {text : Text}

theorem serve_of_readLine (setup : Setup) (shell : Shell) {held : Text}
    {reading : Reading} (hread : readLine held shell.input = reading) :
    serve setup held shell =
      if reading.line = [] then
        (.status 0,
          ((shell.say setup.prompt).withInput reading.left).tell .inputEnded)
      else if stripped reading.line = Shell.exitLine then
        (.status 0, (shell.say setup.prompt).withInput reading.left)
      else
        let handled :=
          ((shell.say setup.prompt).withInput reading.left).handleLine setup
          (stripped reading.line)
        match handled.1.ending? with
        | some ending => (ending, handled.2)
        | none => serve setup reading.held handled.2 := by
  subst hread
  rw [serve]
  rfl

/-- If programs leave alone what is left on standard input after the next line
has been read, the shell on its input does what it does on the lines that are
held and left. -/
theorem serve_withInput
    (setup : Setup) (held left : Text) (halone : shell.programs.LeaveAlone text)
    (hleft : (readLine held left).left <:+ text) (hinput : shell.input = []) :
    ∃ rest, serve setup held (shell.withInput left) =
      ((Shell.run setup ((lines (held ++ left)).map .line) shell).ending,
        (Shell.run setup ((lines (held ++ left)).map .line)
          shell).shell.withInput rest) := by
  induction hsize : held.length + left.length using Nat.strongRecOn
    generalizing held left shell with
  | ind size ih =>
      have hlines := lines_readLine held left
      have hshorter := @readLine_length_lt held left
      generalize hread : readLine held left = reading at hlines hshorter hleft
      rw [serve_of_readLine setup (shell.withInput left) hread, hlines,
        Shell.say_withInput, Shell.withInput_withInput]
      by_cases hline : reading.line = []
      · rw [if_pos hline, if_pos hline, Shell.tell_withInput]
        exact ⟨reading.left, rfl⟩
      · rw [if_neg hline, if_neg hline, List.map_cons]
        by_cases hexit : stripped reading.line = Shell.exitLine
        · rw [if_pos hexit, Shell.run, if_pos hexit]
          exact ⟨reading.left, rfl⟩
        · rw [if_neg hexit, Shell.run_line hexit, Shell.Visit.run]
          have hcontinues := (shell.say setup.prompt).continues_handleLine setup
            (stripped reading.line)
          rw [Shell.handleLine_withInput (shell.say setup.prompt) halone hleft
            hinput]
          dsimp only
          cases hending : ((shell.say setup.prompt).handleLine setup
            (stripped reading.line)).1.ending? with
          | some ending => exact ⟨reading.left, rfl⟩
          | none =>
              refine ih (reading.held.length + reading.left.length)
                (hsize ▸ hshorter hline) _ _ ?_
                ?_ ?_ rfl
              · rw [hcontinues.programs]
                exact halone
              · exact (readLine_left_suffix _ _).trans hleft
              · exact List.suffix_nil.1 (hinput ▸ hcontinues.input)

/-- Nothing is asked of programs where all the input is read ahead. -/
theorem leaveAlone_of_le (programs : Programs) {input : Text}
    (h : Text.byteCount input ≤ readAhead) :
    programs.LeaveAlone (Text.dropBytes readAhead input) := by
  intro child left hleft hsome
  rw [Text.dropBytes_of_le h] at hleft
  exact absurd (List.suffix_nil.1 hleft) hsome

/-- If programs leave alone what lies beyond the part of the input that is read
ahead first, the shell on its input does what it does on the lines of the input
where nothing is left for programs. -/
theorem serve_eq_run (setup : Setup) (shell : Shell) (input : Text)
    (halone : shell.programs.LeaveAlone (Text.dropBytes readAhead input))
    (hinput : shell.input = []) :
    ∃ rest, serve setup [] (shell.withInput input) =
      ((Shell.run setup ((lines input).map .line) shell).ending,
        (Shell.run setup ((lines input).map .line) shell).shell.withInput
          rest) :=
  serve_withInput setup [] input halone (readLine_nil_left_suffix input) hinput

/-- Whatever was on the console and whatever the journal shows, the shell on its
input ends alike, leaves the same shell, and says and tells the same. -/
theorem exists_serve_logged (setup : Setup) (held : Text) (shell : Shell) :
    ∃ (ending : RunEnd) (after : Shell) (new : List Entry),
      ∀ said journal entries,
      serve setup held (shell.logged said journal entries) =
        (ending, after.logged said journal (entries ++ new)) := by
  induction hsize : held.length + shell.input.length using Nat.strongRecOn
    generalizing held shell with
  | ind size ih =>
      have hshorter := @readLine_length_lt held shell.input
      generalize hread : readLine held shell.input = reading at hshorter
      have hserve : ∀ said journal entries,
          serve setup held (shell.logged said journal entries) =
            if reading.line = [] then
              (.status 0, (((shell.say setup.prompt).withInput
                reading.left).logged said journal
                entries).tell .inputEnded)
            else if stripped reading.line = Shell.exitLine then
              (.status 0, ((shell.say setup.prompt).withInput
                reading.left).logged said journal entries)
            else
              let handled := (((shell.say setup.prompt).withInput
                reading.left).logged said journal
                entries).handleLine setup (stripped reading.line)
              match handled.1.ending? with
              | some ending => (ending, handled.2)
              | none => serve setup reading.held handled.2 := by
        intro said journal entries
        have hlogged :=
          serve_of_readLine setup (shell.logged said journal entries) hread
        rw [Shell.say_logged] at hlogged
        exact hlogged
      by_cases hline : reading.line = []
      · refine ⟨.status 0, (shell.say setup.prompt).withInput reading.left,
          [.event .inputEnded], fun said journal entries => ?_⟩
        rw [hserve, if_pos hline, Shell.tell_logged]
      · by_cases hexit : stripped reading.line = Shell.exitLine
        · refine ⟨.status 0, (shell.say setup.prompt).withInput reading.left,
            [], fun said journal entries => ?_⟩
          rw [hserve, if_neg hline, if_pos hexit, List.append_nil]
        · obtain ⟨reply, after, new, hhandle⟩ := Shell.unheard_handleLine
            ((shell.say setup.prompt).withInput reading.left) setup
              (stripped reading.line)
          dsimp only at hhandle
          cases hending : reply.ending? with
          | some ending =>
              refine ⟨ending, after, new, fun said journal entries => ?_⟩
              simp only [hserve, if_neg hline, if_neg hexit, hhandle, hending]
          | none =>
              have hcontinues :=
                (((shell.say setup.prompt).withInput reading.left).logged []
                shell.journal []).continues_handleLine setup
                  (stripped reading.line)
              rw [hhandle] at hcontinues
              have hsmaller : reading.held.length + after.input.length < size :=
                Nat.lt_of_le_of_lt
                  (Nat.add_le_add_left hcontinues.input.length_le _)
                  (hsize ▸ hshorter hline)
              obtain ⟨ending, final, more, hrest⟩ :=
                ih _ hsmaller reading.held after rfl
              refine ⟨ending, final, new ++ more, fun said journal entries =>
                ?_⟩
              simp only [hserve, if_neg hline, if_neg hexit, hhandle, hending,
                hrest, List.append_assoc]

end CommandLine

end LineShell
