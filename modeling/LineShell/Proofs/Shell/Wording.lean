import LineShell.Proofs.CommandLine.Transcript
import LineShell.Proofs.Shell.Lockstep
import LineShell.Proofs.Text.Columns

/-!
The words of a reported failure, written as they are and on a display.

Main statement: the two differ exactly where a message has a tab in it or a
control that a display drops, a failure is seen to name its argument exactly if
the argument has none of these, and two runs that differ in nothing but the
reporter are the same up to the first such message (`reporters_agree_iff`).
-/
namespace LineShell

open Text.Columns (IsSteady Shows)

/-- The text from a line that the words of a failure name. -/
def Failure.named? : Failure → Option Text
  | .line (.unexpected token) => some token
  | .commandNotFound name => some name
  | .noDirectory argument => some argument
  | .cannotOpen target _ => some target
  | .cannotStart name _ => some name
  | _ => none

/-- A failure names this text in its words. -/
theorem Failure.infix_message {failure : Failure} {text : Text}
    (h : failure.named? = some text) :
    text <:+: failure.message := by
  unfold named? at h
  split at h <;> cases h
  · have hdetail : text <:+: (LineError.unexpected text).detail?.getD [] :=
      ⟨_, _, rfl⟩
    exact hdetail.trans (List.suffix_append _ _).isInfix
  · exact ⟨[], _, rfl⟩
  · exact ⟨_, [], List.append_nil _⟩
  · exact ⟨[], _, (List.append_assoc _ _ _).symm⟩
  · exact ⟨[], _, (List.append_assoc _ _ _).symm⟩

def Setup.withReporter (setup : Setup) (reporter : Reporter) : Setup :=
  { setup with reporter := reporter }

namespace Reporter

theorem displayed_eq_printed_iff {message : Text} :
    displayed.text message = printed.text message ↔ IsSteady message := by
  simp [text, shown, Text.Columns.display_eq_self_iff]

/-- A part of a message is seen on a display as it is exactly if every character
of it is kept. -/
theorem infix_displayed_iff {part message : Text} (h : part <:+: message) :
    part <:+: displayed.text message ↔ IsSteady part := by
  have htext :
      displayed.text message = Text.Columns.display message ++ ['\n'] := rfl
  rw [htext]
  constructor
  · intro hseen c hc
    rcases List.mem_append.1 (hseen.subset hc) with hmem | hmem
    · exact (Text.Columns.shows_display message).isSteady c hmem
    · rw [List.mem_singleton.1 hmem]
      decide
  · intro hsteady
    exact ((Text.Columns.infix_display_iff h).2 hsteady).trans
      (List.prefix_append _ _).isInfix

end Reporter

namespace Shell

/-- Two shells that differ in what is on standard output at most. -/
structure SameButOutput (first second : Shell) : Prop where
  session : first.session = second.session
  machine : first.machine = second.machine
  errors : first.console.errors = second.console.errors
  reported : first.reported = second.reported
  journal : first.journal = second.journal

theorem SameButOutput.refl (shell : Shell) : SameButOutput shell shell :=
  ⟨rfl, rfl, rfl, rfl, rfl⟩

theorem report_reporters (shell : Shell) (message : Text) :
    SameButOutput (shell.report .displayed message)
      (shell.report .printed message) ∧
      (shell.report .displayed message = shell.report .printed message ↔
        IsSteady message) := by
  refine ⟨⟨rfl, rfl, rfl, rfl, rfl⟩, ?_⟩
  rw [← Reporter.displayed_eq_printed_iff]
  constructor
  · intro h
    have houtput := congrArg (fun shell => shell.console.output) h
    exact List.append_cancel_left houtput
  · intro h
    exact congrArg shell.say h

/-- A line comes to the same however its failure is reported, but for what is
seen of the message. -/
theorem handleLine_reporters (setup : Setup) (shell : Shell) (line : Text) :
    (shell.handleLine (setup.withReporter .displayed) line).1 =
        (shell.handleLine (setup.withReporter .printed) line).1 ∧
      SameButOutput (shell.handleLine (setup.withReporter .displayed) line).2
        (shell.handleLine (setup.withReporter .printed) line).2 ∧
      (shell.handleLine (setup.withReporter .displayed) line =
          shell.handleLine (setup.withReporter .printed) line ↔
        ∀ message ∈ shell.messages setup line, IsSteady message) := by
  rw [handleLine_eq_answer, handleLine_eq_answer, messages_eq]
  have hpolicy : ∀ reporter,
      (setup.withReporter reporter).policy = setup.policy := fun _ => rfl
  simp only [hpolicy]
  generalize (shell.judge setup.policy line).2 = after
  cases (shell.judge setup.policy line).1 with
  | blank => exact ⟨rfl, .refl after, by simp [answer]⟩
  | done outcome => exact ⟨rfl, .refl after, by simp [answer]⟩
  | failed failure outcome =>
      by_cases hreported : failure.isReported setup.policy.strictHome = true
      · obtain ⟨hsame, hiff⟩ := after.report_reporters failure.message
        simp only [answer, hpolicy, hreported, if_true]
        refine ⟨trivial, hsame, ?_⟩
        rw [List.forall_mem_singleton, ← hiff]
        exact ⟨fun h => congrArg Prod.snd h, fun h => congrArg (Prod.mk _) h⟩
      · simp only [answer, hpolicy, hreported]
        exact ⟨rfl, .refl after, by simp⟩

/-- Whether a line reports a message that a display changes. -/
def Misprints (setup : Setup) (shell : Shell) (line : Text) : Prop :=
  ∃ message ∈ shell.messages setup line, ¬ IsSteady message

/-- A display and a plain report agree on a message exactly if it has no tab in
it and none of the controls that a display drops; elsewhere the display keeps
what it can.  So a failure is seen to name its argument exactly if the argument
is free of them.  A line comes to the same under both, but for what is seen of
its message; and two runs are the same up to the first line that reports a
message on which the two do not agree.  The program displays messages, if the
screen has any columns. -/
theorem reporters_agree_iff (setup : Setup) :
    (∀ message, Shows message (Text.Columns.display message) ∧
      (Reporter.displayed.text message = Reporter.printed.text message ↔
        IsSteady message)) ∧
    (∀ (failure : Failure) text, failure.named? = some text →
      text <:+: Reporter.printed.text failure.message ∧
      (text <:+: Reporter.displayed.text failure.message ↔ IsSteady text)) ∧
    (∀ shell line,
      (shell.handleLine (setup.withReporter .displayed) line).1 =
        (shell.handleLine (setup.withReporter .printed) line).1 ∧
      SameButOutput (shell.handleLine (setup.withReporter .displayed) line).2
        (shell.handleLine (setup.withReporter .printed) line).2 ∧
      (shell.handleLine (setup.withReporter .displayed) line =
          shell.handleLine (setup.withReporter .printed) line ↔
            ¬ Misprints setup shell line)) ∧
    (∀ inputs shell,
      Alike (setup.withReporter .printed) (setup.withReporter .displayed)
        (Misprints setup) inputs shell ∨
      ∃ before visit,
        PartAt (setup.withReporter .printed) (setup.withReporter .displayed)
          (Misprints setup) inputs shell before visit) ∧
    ∀ chosen screen message,
      (CommandLine.setup chosen screen).reporter.text message =
        Reporter.printed.text message ↔
        screen.columns ≠ 0 ∧ IsSteady message := by
  have hmisprints : ∀ shell line, ¬ Misprints setup shell line ↔
      ∀ message ∈ shell.messages setup line, IsSteady message := by
    intro shell line
    simp [Misprints]
  refine ⟨fun message => ⟨Text.Columns.shows_display message,
    Reporter.displayed_eq_printed_iff⟩, ?_, ?_, ?_, ?_⟩
  · intro failure text hnamed
    have hwithin := Failure.infix_message hnamed
    exact ⟨hwithin.trans (List.prefix_append _ _).isInfix,
      Reporter.infix_displayed_iff hwithin⟩
  · intro shell line
    rw [hmisprints]
    exact handleLine_reporters setup shell line
  · intro inputs shell
    have hprompt : (setup.withReporter .displayed).prompt =
        (setup.withReporter .printed).prompt :=
      rfl
    refine run_lockstep hprompt (fun shell line hsteady => ?_) inputs shell
    exact (handleLine_reporters setup shell line).2.2.2
      ((hmisprints shell line).1 hsteady)
  · intro chosen screen message
    by_cases hcolumns : screen.columns = 0
    · simp [CommandLine.setup, Screen.isVisible, hcolumns, Reporter.text,
        Reporter.shown]
    · have hvisible : screen.isVisible = true := decide_eq_true hcolumns
      rw [CommandLine.setup_reporter_text chosen hvisible]
      exact (Reporter.displayed_eq_printed_iff).trans
        (and_iff_right hcolumns).symm

/-- A command with a tab in its name is reported under another name. -/
theorem reporters_agree_iff_tab :
    let setup : Setup := ⟨⟨true, true⟩, .displayed, []⟩
    let failure : Failure := .commandNotFound "a\tb".toList
    failure.named? = some "a\tb".toList ∧
      Reporter.printed.text failure.message = "a\tb: not found\n".toList ∧
      Reporter.displayed.text failure.message =
        "a       b: not found\n".toList ∧
      ¬ "a\tb".toList <:+: Reporter.displayed.text failure.message ∧
      fresh.messages setup "a\tb".toList = [failure.message] ∧
      fresh.handleLine (setup.withReporter .displayed) "a\tb".toList ≠
        fresh.handleLine (setup.withReporter .printed) "a\tb".toList := by
  intro setup failure
  obtain ⟨-, hnames, hlines, -, -⟩ := reporters_agree_iff setup
  have hnamed : failure.named? = some "a\tb".toList := rfl
  have hunsteady : ¬ IsSteady "a\tb".toList := by decide
  have hmessages : fresh.messages setup "a\tb".toList = [failure.message] := rfl
  have hmessage : ¬ IsSteady failure.message := by decide
  have hmisprints : Misprints setup fresh "a\tb".toList :=
    ⟨failure.message, by
      rw [hmessages]; exact List.mem_singleton_self _, hmessage⟩
  refine ⟨hnamed, rfl, by decide +kernel, ?_, hmessages, ?_⟩
  · rw [(hnames failure _ hnamed).2]
    exact hunsteady
  · intro hsame
    exact (hlines fresh _).2.2.1 hsame hmisprints

end Shell

end LineShell
