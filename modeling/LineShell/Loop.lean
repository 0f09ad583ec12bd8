import LineShell.Execution
import LineShell.Text.Blank

/-!
Reading and executing lines, one after the other, until a line asks for the end,
the input ends, or a failure cannot be survived.
-/
namespace LineShell

/-- What comes when a line is asked for. -/
inductive Input where
  | line (text : Text)
  /-- The user interrupts instead. -/
  | interrupt
  deriving DecidableEq, Repr

/-- What comes of one line. -/
inductive Reply where
  /-- The line asks for nothing. -/
  | blank
  | done (outcome : Outcome)
  /-- A failure that the shell does not survive. -/
  | failed (failure : Failure)
  deriving DecidableEq, Repr

inductive RunEnd where
  | status (status : Int)
  | failed (failure : Failure)
  deriving DecidableEq, Repr

/-- How a run ends with a line that came to this, if it does not go on. -/
def Reply.ending? : Reply → Option RunEnd
  | .blank => none
  | .done outcome =>
    if outcome.exitRequested then some (.status outcome.exitCode) else none
  | .failed failure => some (.failed failure)

/-- A run of the shell: how it ended, how many inputs were not read, and the
shell after it. -/
structure Run where
  ending : RunEnd
  unread : Nat
  shell : Shell

namespace Shell

/-- The line that ends the shell by itself. -/
def exitLine : Text := "exit 0".toList

/-- Executes what a line asks for. -/
def handleLine (shell : Shell) (setup : Setup) (line : Text) : Reply × Shell :=
  if Text.allBlank line then
    (.blank, shell)
  else
    match Command.ofLine line with
    | .error error =>
      if (Failure.line error).isReported setup.policy.strictHome then
        (.done Outcome.malformed, shell.report setup.reporter error.message)
      else
        (.failed (.line error), shell)
    | .ok command =>
      match (shell.tell (.lineRead command.name command.arguments)).execute
        setup command with
      | (.ok outcome, after) => (.done outcome, after)
      | (.error failure, after) => (.failed failure, after)

theorem continues_handleLine (shell : Shell) (setup : Setup) (line : Text) :
    (shell.handleLine setup line).2.Continues shell := by
  fun_cases handleLine shell setup line with
  | case1 => exact .refl shell
  | case2 hblank error hline hreported => exact shell.continues_report _ _
  | case3 => exact .refl shell
  | case4 hblank command hline outcome after hexecute =>
    have hcontinues := (continues_execute _ setup command).trans
      (shell.continues_tell (.lineRead command.name command.arguments))
    rw [hexecute] at hcontinues
    exact hcontinues
  | case5 hblank command hline failure after hexecute =>
    have hcontinues := (continues_execute _ setup command).trans
      (shell.continues_tell (.lineRead command.name command.arguments))
    rw [hexecute] at hcontinues
    exact hcontinues

/-- Runs the shell on the given inputs, after which the input ends. -/
def run (setup : Setup) : List Input → Shell → Run
  | [], shell => ⟨.status 0, 0, (shell.say setup.prompt).tell .inputEnded⟩
  | .interrupt :: rest, shell => run setup rest (shell.say setup.prompt)
  | .line text :: rest, shell =>
    let prompted := shell.say setup.prompt
    if text = exitLine then
      ⟨.status 0, rest.length, prompted⟩
    else
      match prompted.handleLine setup text with
      | (.blank, after) => run setup rest after
      | (.done outcome, after) =>
        if outcome.exitRequested then
          ⟨.status outcome.exitCode, rest.length, after⟩
        else run setup rest after
      | (.failed failure, after) => ⟨.failed failure, rest.length, after⟩

/-- At most all inputs are left unread. -/
theorem run_unread_le (setup : Setup) (inputs : List Input) (shell : Shell) :
    (run setup inputs shell).unread ≤ inputs.length := by
  induction inputs generalizing shell with
  | nil => exact Nat.le_refl _
  | cons input rest ih =>
    cases input with
    | interrupt =>
      exact Nat.le_succ_of_le (ih _)
    | line text =>
      simp only [run]
      split
      · simp
      · split
        · exact Nat.le_succ_of_le (ih _)
        · split
          · simp
          · exact Nat.le_succ_of_le (ih _)
        · simp

end Shell

end LineShell
