import LineShell.Proofs.Shell.Verdict

/-!
What a shell says: the texts that it adds to the two streams of the console.

Main statement: the text of a builtin is said only if it does not go to a file
(`prints_settle`).
-/
namespace LineShell

/-- The lines that a journal makes of events, if it shows them. -/
def Journal.text (journal : Journal) (events : List Event) : Text :=
  if journal.shows .debug then events.flatMap Event.line else []

@[simp] theorem Journal.text_nil (journal : Journal) :
    journal.text [] = [] := by
  unfold text
  split <;> rfl

theorem Journal.text_append (journal : Journal) (first second : List Event) :
    journal.text (first ++ second) =
      journal.text first ++ journal.text second := by
  unfold text
  split
  · exact List.flatMap_append
  · rfl

/-- What a reported message adds to standard output. -/
def Reporter.text (reporter : Reporter) (message : Text) : Text :=
  match reporter with
  | .collected => []
  | .printed => shown false message
  | .displayed => shown true message
  | .hidden => []

/-- What the shell tells about a builtin that it has run. -/
def Builtin.events (builtin : Builtin) (old : Path) (effect : Effect) :
    List Event :=
  match builtin, effect.result with
  | .cd, .ok _ => [.directoryChanged old effect.session.cwd]
  | _, _ => []

namespace Shell

/-- Whether a shell has gone on to say no more than the given texts on its two
streams. -/
structure Prints (output errors : Text) (before after : Shell) : Prop where
  output : after.console.output = before.console.output ++ output
  errors : after.console.errors = before.console.errors ++ errors
  journal : after.journal = before.journal

theorem Prints.trans {output errors output' errors' : Text}
    {before middle after : Shell} (h : Prints output errors before middle)
    (hnext : Prints output' errors' middle after) :
    Prints (output ++ output') (errors ++ errors') before after := by
  refine ⟨?_, ?_, hnext.journal.trans h.journal⟩
  · rw [hnext.output, h.output, List.append_assoc]
  · rw [hnext.errors, h.errors, List.append_assoc]

variable (shell : Shell)

theorem prints_nothing : Prints [] [] shell shell := by
  refine ⟨?_, ?_, rfl⟩
  · rw [List.append_nil]
  · rw [List.append_nil]

theorem prints_say (text : Text) : Prints text [] shell (shell.say text) := by
  refine ⟨rfl, ?_, rfl⟩
  rw [List.append_nil]
  rfl

theorem prints_tell (event : Event) :
    Prints [] (shell.journal.text [event]) shell (shell.tell event) := by
  unfold tell Journal.text
  split
  · refine ⟨?_, ?_, rfl⟩
    · rw [List.append_nil]
      rfl
    · rw [List.flatMap_singleton]
      rfl
  · exact shell.prints_nothing

theorem tell_output (event : Event) :
    (shell.tell event).console.output = shell.console.output :=
  (shell.prints_tell event).output.trans (List.append_nil _)

theorem prints_report (reporter : Reporter) (message : Text) :
    Prints (reporter.text message) [] shell
      (shell.report reporter message) := by
  cases reporter with
  | collected =>
      obtain ⟨houtput, herrors, -⟩ := shell.prints_nothing
      exact ⟨houtput, herrors, rfl⟩
  | printed => exact shell.prints_say _
  | displayed => exact shell.prints_say _
  | hidden => exact shell.prints_nothing

theorem prints_tellDirectory (builtin : Builtin) (old : Path) (effect : Effect)
    (hsession : shell.session = effect.session) :
    Prints [] (shell.journal.text (builtin.events old effect)) shell
      (shell.tellDirectory builtin old effect.result) := by
  unfold tellDirectory Builtin.events
  cases effect.result with
  | error failure =>
      cases builtin with
      | _ =>
          simp only [Journal.text_nil]
          exact shell.prints_nothing
  | ok outcome =>
      cases builtin with
      | cd =>
          rw [← hsession]
          exact shell.prints_tell _
      | _ =>
          simp only [Journal.text_nil]
          exact shell.prints_nothing

/-- The text of a builtin is said only if it does not go to a file. -/
theorem prints_settle (builtin : Builtin) (effect : Effect)
    (output : Option Handle) :
    Prints (if output.isNone then effect.written else [])
      (shell.journal.text (builtin.events shell.session.cwd effect)) shell
      (shell.settle builtin effect output).2 := by
  have htold :=
    prints_tellDirectory { shell with session := effect.session } builtin
    shell.session.cwd effect rfl
  fun_cases settle shell builtin effect output with
  | case1 changed =>
      have hsaid := htold.trans (prints_say changed effect.written)
      rw [List.append_nil] at hsaid
      exact ⟨hsaid.output, hsaid.errors, hsaid.journal⟩
  | case2 changed => exact ⟨htold.output, htold.errors, htold.journal⟩
  | case3 changed => exact ⟨htold.output, htold.errors, htold.journal⟩

/-- The text of a builtin is written to the file that its output goes to. -/
theorem settle_of_write {builtin : Builtin}
    {effect : Effect} {handle moved : Handle} {machine : Machine}
    (h : shell.machine.write handle effect.written = .ok (moved, machine)) :
    (shell.settle builtin effect (some handle)).1 = effect.result ∧
      (shell.settle builtin effect (some handle)).2.machine = machine := by
  have hmachine :=
    (tellDirectory_frame { shell with session := effect.session } builtin
    shell.session.cwd effect.result).2.1
  simp only [settle, hmachine, h]
  exact ⟨trivial, trivial⟩

theorem settle_none (builtin : Builtin) (effect : Effect) :
    (shell.settle builtin effect none).1 = effect.result ∧
      (shell.settle builtin effect none).2.machine = shell.machine :=
  ⟨rfl, (tellDirectory_frame { shell with session := effect.session } builtin
    shell.session.cwd effect.result).2.1⟩

end Shell

end LineShell
