import LineShell.Proofs.Shell.Printing
import LineShell.Proofs.Shell.Visit

/-!
What has been said and told before makes no difference to what is done.

What a shell puts on standard error is a row of entries: texts that are there
whatever the level is, and events of its own, which the journal may show or not
(`Journal.record`).  The shell reads neither of its two streams.  So an action
has one result, leaves one shell, and adds the same output and the same entries,
whatever was on the console and whatever the journal shows (`Unheard`).

This holds of handling a line and of a whole run (`exists_run_logged`).  In
particular, a line on a console that is written on adds what it adds on an empty
one (`handleLine_onto`).
-/
namespace LineShell

/-- Something for standard error. -/
inductive Entry where
  /-- What a child program writes there, or what was there at the start. -/
  | text (text : Text)
  /-- What the shell tells about its work. -/
  | event (event : Event)
  deriving DecidableEq, Repr

namespace Journal

/-- What is seen of an entry. -/
def lineOf (journal : Journal) : Entry → Text
  | .text text => text
  | .event event => journal.text [event]

/-- What is seen of entries. -/
def record (journal : Journal) (entries : List Entry) : Text :=
  entries.flatMap journal.lineOf

@[simp] theorem record_append (journal : Journal) (first second : List Entry) :
    journal.record (first ++ second) =
      journal.record first ++ journal.record second :=
  List.flatMap_append

@[simp] theorem record_singleton (journal : Journal) (entry : Entry) :
    journal.record [entry] = journal.lineOf entry :=
  List.flatMap_singleton _ _

end Journal

/-- A console after what was on another one before. -/
def Console.onto (console prior : Console) : Console :=
  ⟨prior.output ++ console.output, prior.errors ++ console.errors⟩

namespace Shell

/-- A shell on a console where something was said before, and whose standard
error holds entries as a journal shows them. -/
def logged (shell : Shell) (said : Text) (journal : Journal)
    (entries : List Entry) : Shell :=
  { shell with
    journal := journal
    console := ⟨said ++ shell.console.output, journal.record entries⟩ }

section Logged

variable (shell : Shell) (said : Text) (journal : Journal)
  (entries : List Entry)

@[simp] theorem logged_session :
    (shell.logged said journal entries).session = shell.session := rfl

@[simp] theorem logged_machine :
    (shell.logged said journal entries).machine = shell.machine := rfl

@[simp] theorem logged_programs :
    (shell.logged said journal entries).programs = shell.programs := rfl

@[simp] theorem logged_input :
    (shell.logged said journal entries).input = shell.input := rfl

@[simp] theorem logged_journal :
    (shell.logged said journal entries).journal = journal := rfl

theorem say_logged (text : Text) :
    (shell.logged said journal entries).say text =
      (shell.say text).logged said journal entries := by
  simp [say, logged, Console.write]

theorem tell_logged (event : Event) :
    (shell.logged said journal entries).tell event =
      shell.logged said journal (entries ++ [.event event]) := by
  unfold tell
  rw [logged_journal]
  split
  · rename_i hshows
    simp [logged, Console.write, Journal.lineOf, Journal.text, hshows]
  · rename_i hshows
    simp [logged, Journal.lineOf, Journal.text, hshows]

/-- What a child writes on standard error comes after what is there. -/
theorem receive_logged (left : Aftermath) :
    (shell.logged said journal entries).receive left =
      (shell.receive left).logged said journal
        (entries ++ [.text left.written.errors]) := by
  simp [receive, logged, Console.write, Journal.lineOf]

theorem report_logged (reporter : Reporter) (message : Text) :
    (shell.logged said journal entries).report reporter message =
      (shell.report reporter message).logged said journal entries := by
  cases reporter with
  | collected => rfl
  | printed => exact shell.say_logged said journal entries _
  | displayed => exact shell.say_logged said journal entries _
  | hidden => rfl

end Logged

/-- Whether an action on a shell does the same, and says and tells the same,
whatever has been said and told before and whatever the journal shows. -/
def Unheard {α : Type} (act : Shell → α × Shell) (shell : Shell) : Prop :=
  ∃ (result : α) (after : Shell) (new : List Entry), ∀ said journal entries,
    act (shell.logged said journal entries) =
      (result, after.logged said journal (entries ++ new))

namespace Unheard

variable {α : Type} {act : Shell → α × Shell} {shell : Shell}

/-- An action that tells nothing. -/
theorem quiet (result : α) (after : Shell)
    (h : ∀ said journal entries, act (shell.logged said journal entries) =
      (result, after.logged said journal entries)) :
    Unheard act shell := by
  refine ⟨result, after, [], fun said journal entries => ?_⟩
  rw [h, List.append_nil]

/-- An action that is another one on a shell with the same entries. -/
theorem of_eq {other : Shell → α × Shell} {changed : Shell}
    (h : Unheard act changed)
    (heq : ∀ said journal entries, other (shell.logged said journal entries) =
      act (changed.logged said journal entries)) :
    Unheard other shell := by
  obtain ⟨result, after, new, h⟩ := h
  exact ⟨result, after, new, fun said journal entries => by rw [heq, h]⟩

/-- An action after an event is told. -/
theorem after_tell (h : Unheard act shell) (event : Event) :
    Unheard (fun started => act (started.tell event)) shell := by
  obtain ⟨result, after, new, h⟩ := h
  refine ⟨result, after, .event event :: new, fun said journal entries => ?_⟩
  dsimp only
  rw [tell_logged, h, List.append_assoc, List.singleton_append]

end Unheard

variable (shell : Shell)

theorem exists_tellDirectory_logged (builtin : Builtin) (old : Path)
    (result : Except Failure Outcome) :
    ∃ new, ∀ said journal entries,
      (shell.logged said journal entries).tellDirectory builtin old result =
        shell.logged said journal (entries ++ new) := by
  unfold tellDirectory
  split
  · exact ⟨[.event (.directoryChanged old shell.session.cwd)],
      fun said journal entries =>
      shell.tell_logged said journal entries _⟩
  · exact ⟨[], fun said journal entries => by rw [List.append_nil]⟩

theorem unheard_settle (builtin : Builtin) (effect : Effect)
    (output : Option Handle) :
    Unheard (fun started => started.settle builtin effect output) shell := by
  let changed : Shell := { shell with session := effect.session }
  obtain ⟨new, htold⟩ :=
    exists_tellDirectory_logged changed builtin shell.session.cwd effect.result
  have hchanged : ∀ said journal entries,
      ({ shell.logged said journal entries with
        session := effect.session } : Shell).tellDirectory
        builtin (shell.logged said journal entries).session.cwd effect.result =
      changed.logged said journal (entries ++ new) := htold
  cases output with
  | none =>
      refine ⟨effect.result, changed.say effect.written, new,
        fun said journal entries => ?_⟩
      simp only [settle, hchanged, say_logged]
  | some handle =>
      cases hwrite : changed.machine.write handle effect.written with
      | ok written =>
          refine ⟨effect.result, { changed with machine := written.2 }, new,
            fun said journal entries => ?_⟩
          simp only [settle, hchanged]
          simp only [logged_machine, hwrite]
          rfl
      | error error =>
          refine ⟨.error (.refused (.system error)), changed, new,
            fun said journal entries => ?_⟩
          simp only [settle, hchanged]
          simp only [logged_machine, hwrite]

theorem unheard_runBuiltin (command : Command) :
    Unheard (fun started => started.runBuiltin command) shell := by
  cases hbuiltin : Builtin.ofName? command.name with
  | none =>
      refine .quiet (.error (.unknownBuiltin command.name)) shell
        fun said journal entries => ?_
      simp only [runBuiltin, hbuiltin]
  | some builtin =>
      rcases hopen : shell.machine.openTargets shell.session.cwd Streams.none
        command.redirections with ⟨failure | streams, machine⟩
      · refine .quiet (.error failure) { shell with machine := machine }
          fun said journal entries => ?_
        simp only [runBuiltin, hbuiltin, logged_machine, logged_session, hopen]
        rfl
      · refine (unheard_settle { shell with machine := machine } builtin
          (builtin.run shell.session machine command.arguments)
            streams.output).of_eq
          fun said journal entries => ?_
        simp only [runBuiltin, hbuiltin, logged_machine, logged_session, hopen]
        rfl

theorem unheard_runProgram (name : Text) (program : Program)
    (streams : Streams) :
    Unheard (fun started => started.runProgram name program streams) shell := by
  cases hprepare : program.prepare shell.machine streams.locations with
  | error refusal =>
      refine .quiet (.error (.cannotStart name refusal)) shell
        fun said journal entries => ?_
      simp only [runProgram, logged_machine, hprepare]
  | ok prepared =>
      let left :=
        shell.programs ⟨program, prepared.1, streams, prepared.2⟩ shell.input
      refine ⟨.ok (Outcome.ofChild name left.code), shell.receive left,
        [.event (.childStarted name program.path), .text left.written.errors,
          .event (.childEnded name left.code)], fun said journal entries => ?_⟩
      simp only [runProgram, logged_machine, logged_programs, logged_input,
        hprepare, tell_logged, receive_logged, List.append_assoc]
      rfl

theorem unheard_runExternal (command : Command) :
    Unheard (fun started => started.runExternal command) shell := by
  rcases hfind :
    shell.machine.findExecutable command.name shell.session.searchPath with
    refusal | _ | path
  · refine .quiet (.error (.refused refusal)) shell fun said journal entries =>
      ?_
    simp only [runExternal, logged_machine, logged_session, hfind]
  · refine .quiet (.error (.commandNotFound command.name)) shell
      fun said journal entries => ?_
    simp only [runExternal, logged_machine, logged_session, hfind]
  · rcases hopen : shell.machine.openTargets shell.session.cwd Streams.none
      command.redirections with ⟨failure | streams, machine⟩
    · refine .quiet (.error failure) { shell with machine := machine }
        fun said journal entries => ?_
      simp only [runExternal, logged_machine, logged_session, hfind, hopen]
      rfl
    · refine (unheard_runProgram { shell with machine := machine } command.name
        ⟨path, command.name :: command.arguments, shell.session.environment,
          shell.session.cwd⟩
        streams).of_eq fun said journal entries => ?_
      simp only [runExternal, logged_machine, logged_session, hfind, hopen]
      rfl

theorem unheard_attempt (policy : Policy) (command : Command) :
    Unheard (fun started => started.attempt policy command) shell := by
  cases hroute : command.route shell.session policy with
  | builtin =>
      refine ((unheard_runBuiltin shell command).after_tell
        (.routed command.name .builtin)).of_eq fun said journal entries => ?_
      simp only [attempt, logged_session, hroute]
  | external =>
      refine ((unheard_runExternal shell command).after_tell
        (.routed command.name .external)).of_eq fun said journal entries => ?_
      simp only [attempt, logged_session, hroute]

theorem unheard_judge (policy : Policy) (line : Text) :
    Unheard (fun started => started.judge policy line) shell := by
  by_cases hblank : Text.allBlank line = true
  · refine .quiet .blank shell fun said journal entries => ?_
    simp only [judge, if_pos hblank]
  · cases hline : Command.ofLine line with
    | error error =>
        refine .quiet (.failed (.line error) Outcome.malformed) shell
          fun said journal entries => ?_
        simp only [judge, if_neg hblank, hline]
    | ok command =>
        obtain ⟨result, after, new, hattempt⟩ :=
          (unheard_attempt shell policy command).after_tell
          (.lineRead command.name command.arguments)
        refine ⟨.ofResult command.name result, after, new,
          fun said journal entries => ?_⟩
        simp only [judge, if_neg hblank, hline, hattempt]

theorem unheard_answer (setup : Setup) (verdict : Verdict) :
    Unheard (fun started => started.answer setup verdict) shell := by
  cases verdict with
  | blank => exact .quiet .blank shell fun said journal entries => rfl
  | done outcome =>
      exact .quiet (.done outcome) shell fun said journal entries => rfl
  | failed failure outcome =>
      by_cases hreported : failure.isReported setup.policy.strictHome = true
      · refine .quiet (.done outcome)
          (shell.report setup.reporter failure.message)
          fun said journal entries => ?_
        simp only [answer, if_pos hreported, report_logged]
      · refine .quiet (.failed failure) shell fun said journal entries => ?_
        simp only [answer, if_neg hreported]

theorem unheard_handleLine (setup : Setup) (line : Text) :
    Unheard (fun started => started.handleLine setup line) shell := by
  obtain ⟨verdict, judged, new, hjudge⟩ := unheard_judge shell setup.policy line
  obtain ⟨reply, after, more, hanswer⟩ := unheard_answer judged setup verdict
  refine ⟨reply, after, new ++ more, fun said journal entries => ?_⟩
  dsimp only at hjudge hanswer ⊢
  rw [handleLine_eq_answer, hjudge, hanswer, List.append_assoc]

/-- Whatever was on the console and whatever the journal shows, a run ends
alike, leaves the same inputs unread and the same shell, and says and tells the
same. -/
theorem exists_run_logged (setup : Setup) (inputs : List Input) :
    ∃ (ending : RunEnd) (unread : Nat) (after : Shell) (new : List Entry),
      ∀ said journal entries,
        run setup inputs (shell.logged said journal entries) =
        ⟨ending, unread, after.logged said journal (entries ++ new)⟩ := by
  induction inputs generalizing shell with
  | nil =>
      refine ⟨.status 0, 0, shell.say setup.prompt, [.event .inputEnded],
        fun said journal entries => ?_⟩
      rw [run, say_logged, tell_logged]
  | cons input rest ih =>
      cases input with
      | interrupt =>
          obtain ⟨ending, unread, after, new, hrest⟩ :=
            ih (shell.say setup.prompt)
          refine ⟨ending, unread, after, new, fun said journal entries => ?_⟩
          rw [run, say_logged, hrest]
      | line text =>
          by_cases hexit : text = exitLine
          · refine ⟨.status 0, rest.length, shell.say setup.prompt, [],
              fun said journal entries => ?_⟩
            rw [run, if_pos hexit, say_logged, List.append_nil]
          · obtain ⟨reply, after, new, hline⟩ :=
              unheard_handleLine (shell.say setup.prompt) setup text
            dsimp only at hline
            cases hending : reply.ending? with
            | some ending =>
                refine ⟨ending, rest.length, after, new,
                  fun said journal entries => ?_⟩
                simp only [run_line hexit, Visit.run, say_logged, hline,
                  hending]
            | none =>
                obtain ⟨ending, unread, final, more, hrest⟩ := ih after
                refine ⟨ending, unread, final, new ++ more,
                  fun said journal entries => ?_⟩
                simp only [run_line hexit, Visit.run, say_logged, hline,
                  hending, hrest, List.append_assoc]

/-- A shell that has said something before. -/
def onto (prior : Console) : Shell :=
  { shell with console := shell.console.onto prior }

/-- What was on the console before an action is still there after it, and makes
no difference to what the action adds. -/
theorem Unheard.onto {α : Type} {act : Shell → α × Shell} {shell : Shell}
    (h : Unheard act shell) (prior : Console) :
    act (shell.onto prior) = ((act shell).1, (act shell).2.onto prior) := by
  obtain ⟨result, after, new, hact⟩ := h
  have hplain :
      shell = shell.logged [] shell.journal [.text shell.console.errors] := by
    simp [logged, Journal.lineOf]
  have honto : shell.onto prior = shell.logged prior.output shell.journal
      [.text prior.errors, .text shell.console.errors] := by
    simp [Shell.onto, logged, Console.onto, Journal.record, Journal.lineOf]
  have hact' := hact [] shell.journal [.text shell.console.errors]
  rw [← hplain] at hact'
  rw [honto, hact, hact']
  simp [Shell.onto, logged, Console.onto, Journal.record, Journal.lineOf]

theorem judge_onto (prior : Console) (policy : Policy) (line : Text) :
    (shell.onto prior).judge policy line =
      ((shell.judge policy line).1, (shell.judge policy line).2.onto prior) :=
  (unheard_judge shell policy line).onto prior

/-- What has been said before makes no difference to what a line does. -/
theorem handleLine_onto (prior : Console) (setup : Setup) (line : Text) :
    (shell.onto prior).handleLine setup line =
      ((shell.handleLine setup line).1,
        (shell.handleLine setup line).2.onto prior) :=
  (unheard_handleLine shell setup line).onto prior

end Shell

end LineShell
