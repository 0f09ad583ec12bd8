import LineShell.Proofs.CommandLine.Serving
import LineShell.Proofs.Shell.Survival
import LineShell.Proofs.Shell.Visit

/-!
A whole run of the program on a text.

The program runs the shell on the lines of the text, and its standard output is
the prompts, each followed by what the line that was read comes to
(`CommandLine.run_lines`).
-/
namespace LineShell

/-- Texts, each after a prompt. -/
def Setup.prompting (setup : Setup) (texts : List Text) : Text :=
  texts.flatMap fun text => setup.prompt ++ text

theorem Setup.prompting_cons (setup : Setup) (text : Text) (texts : List Text) :
    setup.prompting (text :: texts) =
      setup.prompt ++ text ++ setup.prompting texts := rfl

theorem Setup.prompting_nothing (setup : Setup) :
    setup.prompting [[]] = setup.prompt := by
  simp [prompting]

namespace Shell

/-- What a line puts on standard output: what it writes, and then the messages
that it reports. -/
def saidFor (shell : Shell) (setup : Setup) (line : Text) : Text :=
  ({ shell with console := Console.empty }.judge setup.policy
    line).2.console.output ++
    (shell.messages setup line).flatMap setup.reporter.text

theorem onto_empty (shell : Shell) :
    { shell with console := Console.empty }.onto shell.console = shell := by
  simp [onto, Console.onto, Console.empty]

/-- A line is written on a console after what is there. -/
theorem handleLine_output (shell : Shell) (setup : Setup) (line : Text) :
    (shell.handleLine setup line).2.console.output =
      shell.console.output ++ shell.saidFor setup line := by
  have hjudge := judge_onto { shell with console := Console.empty }
      shell.console setup.policy line
  rw [onto_empty] at hjudge
  have houtput :
      (shell.judge setup.policy line).2.console.output = shell.console.output ++
      ({ shell with console := Console.empty }.judge setup.policy
        line).2.console.output := by
    rw [hjudge]
    rfl
  rw [saidFor, ← List.append_assoc, ← houtput, handleLine_eq_answer,
    messages_eq]
  cases (shell.judge setup.policy line).1 with
  | blank => simp [answer]
  | done outcome => simp [answer]
  | failed failure outcome =>
      by_cases hreported : failure.isReported setup.policy.strictHome = true
      · simp only [answer, hreported, if_true, List.flatMap_singleton]
        exact (prints_report _ _ _).output
      · simp [answer, hreported]

def Visit.said (setup : Setup) (visit : Visit) : Text :=
  visit.shell.saidFor setup visit.line

/-- How a run ends after the lines that it handles: whether that is at the end
of the input, its status, the lines that it has read, those that are left, and
what it says after the last prompt, if that was for no line that it handles. -/
inductive Closes (setup : Setup) (handled : List Visit) :
    Bool → Int → List Text → List Text → List Text → Prop where
  /-- The last line that is handled asks for the end. -/
  | answered {before : List Visit} {visit : Visit} {status : Int}
      (left : List Text)
      (hhandled : handled = before ++ [visit])
      (hreply : (visit.shell.handleLine setup visit.line).1.ending? =
        some (.status status)) :
      Closes setup handled false status (handled.map Visit.line) left []
  /-- After them comes the line that ends the shell by itself. -/
  | exitLine (left : List Text) :
      Closes setup handled false 0
        (handled.map Visit.line ++ [exitLine]) left [[]]
  | inputEnd (hnone : ∀ visit ∈ handled,
        (visit.shell.handleLine setup visit.line).1.ending? = none) :
      Closes setup handled true 0 (handled.map Visit.line) [] [[]]

variable {setup : Setup} {handled : List Visit} {visit : Visit} {atEnd : Bool}
  {status : Int} {read left last : List Text}

theorem Closes.cons (h : Closes setup handled atEnd status read left last)
    (hnone : (visit.shell.handleLine setup visit.line).1.ending? = none) :
    Closes setup (visit :: handled) atEnd status (visit.line :: read)
      left last := by
  cases h with
  | @answered before other _ _ hhandled hreply =>
      rw [hhandled]
      exact @Closes.answered _ _ (visit :: before) other _ left rfl hreply
  | exitLine => exact .exitLine left
  | inputEnd hothers =>
      refine .inputEnd fun other hother => ?_
      rcases List.mem_cons.1 hother with rfl | hother
      · exact hnone
      · exact hothers other hother

/-- There is a prompt for every line that is read, and one more at the end of
the input. -/
theorem Closes.length_eq
    (h : Closes setup handled atEnd status read left last) :
    handled.length + last.length = read.length + atEnd.toNat := by
  cases h with
  | answered => simp
  | exitLine => simp
  | inputEnd => simp

/-- What a run that ends with a status says: a prompt for every line that it
reads, and then what is said for that line. -/
theorem exists_closes {lines : List Text} {shell : Shell}
    (hstatus : (run setup (lines.map Input.line) shell).ending =
      .status status) :
    ∃ atEnd read left last,
      Closes setup (visits setup (lines.map Input.line) shell) atEnd status read
        left last ∧
      lines = read ++ left ∧
      (run setup (lines.map Input.line) shell).unread = left.length ∧
      (run setup (lines.map Input.line) shell).shell.console.output =
        shell.console.output ++
        setup.prompting
          ((visits setup (lines.map Input.line) shell).map (Visit.said setup) ++
            last) := by
  induction lines generalizing shell with
  | nil =>
      obtain rfl : 0 = status := RunEnd.status.inj hstatus
      refine ⟨true, [], [], [[]], .inputEnd nofun, rfl, rfl, ?_⟩
      have hprints :=
        (shell.prints_say setup.prompt).trans (prints_tell _ .inputEnded)
      have houtput := hprints.output
      rw [List.append_nil] at houtput
      rw [List.map_nil, visits, run, List.map_nil, List.nil_append,
        Setup.prompting_nothing]
      exact houtput
  | cons line rest ih =>
      rw [List.map_cons] at hstatus ⊢
      by_cases hexit : line = exitLine
      · have hvisits :
            visits setup (.line line :: rest.map Input.line) shell = [] := by
          rw [visits, if_pos hexit]
        rw [run, if_pos hexit] at hstatus ⊢
        obtain rfl : 0 = status := RunEnd.status.inj hstatus
        rw [hvisits, hexit]
        refine ⟨false, [exitLine], rest, [[]], .exitLine rest, rfl,
          List.length_map _, ?_⟩
        rw [List.map_nil, List.nil_append, Setup.prompting_nothing]
        rfl
      · have hsaid := handleLine_output (shell.say setup.prompt) setup line
        rw [run_line hexit, Visit.run] at hstatus ⊢
        rw [visits_line hexit, Visit.next]
        dsimp only at hstatus ⊢
        cases hending :
          ((shell.say setup.prompt).handleLine setup line).1.ending? with
        | some ending =>
            rw [hending] at hstatus
            obtain rfl : ending = .status status := hstatus
            refine ⟨false, [line], rest, [], @Closes.answered _ _ [] _ _ rest
              rfl hending, rfl, List.length_map _, ?_⟩
            dsimp only
            rw [hsaid]
            simp [Setup.prompting, Visit.said, say, Console.write]
        | none =>
            rw [hending] at hstatus
            obtain ⟨atEnd, read, left, last, hcloses, hlines, hunread,
              houtput⟩ := ih hstatus
            refine ⟨atEnd, line :: read, left, last, hcloses.cons hending,
              congrArg (line :: ·) hlines, hunread, ?_⟩
            rw [List.map_cons, List.cons_append, Setup.prompting_cons, houtput,
              hsaid]
            simp [Visit.said, say, Console.write]

end Shell

namespace CommandLine

variable {programs : Programs}
  {machine : Machine} {environment : List (Text × Text)} {arguments : List Text}
  {level : Option Text} {content input : Text} {chosen : Settings}
  {journal : Journal} {screen : Screen} {status : Int}

theorem foldl_write_errors_output (complaints : List Text) (console : Console) :
    (complaints.foldl (fun console complaint =>
      console.write .errors (complaint ++ ['\n']))
      console).output = console.output := by
  induction complaints generalizing console with
  | nil => rfl
  | cons complaint rest ih => exact ih _

theorem complain_output (content : Text) : (complain content).output = [] :=
  foldl_write_errors_output _ _

/-- The messages that are shown on a screen with columns, each as a line. -/
theorem setup_reporter_text (chosen : Settings)
    (hvisible : screen.isVisible = true) (message : Text) :
    (setup chosen screen).reporter.text message =
      Text.Columns.display message ++ ['\n'] := by
  simp [setup, hvisible, Reporter.text, Reporter.shown]

theorem run_eq_conclude (hlevel : level? arguments = .ok level)
    (hcontent : variableText machine = .ok content)
    (hsettings : settings content environment level = .ok chosen)
    (hjournal : Journal.silent.configure chosen.logLevel = (.ok (), journal))
    (hscreen : Screen.ofEnvironment environment = .ok screen) (input : Text) :
    run programs machine environment arguments input =
      conclude screen
        (serve (setup chosen screen) []
          (startShell programs machine environment input (complain content)
            journal)).1
        (serve (setup chosen screen) []
          (startShell programs machine environment input (complain content)
            journal)).2 := by
  simp only [run, hlevel, hcontent, hsettings, runShell, hjournal, hscreen]

theorem conclude_withInput (screen : Screen) (ending : RunEnd) (shell : Shell)
    (left : Text) :
    conclude screen ending (shell.withInput left) =
      conclude screen ending shell := by
  cases ending with
  | status status => rfl
  | failed failure => cases failure <;> rfl

/-- If programs leave alone what lies beyond the part of the input that is read
ahead first, the program runs the shell on the lines of its input. -/
theorem run_eq_of_leaveAlone (hlevel : level? arguments = .ok level)
    (hcontent : variableText machine = .ok content)
    (hsettings : settings content environment level = .ok chosen)
    (hjournal : Journal.silent.configure chosen.logLevel = (.ok (), journal))
    (hscreen : Screen.ofEnvironment environment = .ok screen) (input : Text)
    (halone : programs.LeaveAlone (Text.dropBytes readAhead input)) :
    run programs machine environment arguments input =
      conclude screen
        (Shell.run (setup chosen screen) ((lines input).map .line)
          (startShell programs machine environment [] (complain content)
            journal)).ending
        (Shell.run (setup chosen screen) ((lines input).map .line)
          (startShell programs machine environment [] (complain content)
            journal)).shell := by
  obtain ⟨rest, hserve⟩ := serve_eq_run (setup chosen screen)
    (startShell programs machine environment [] (complain content) journal)
      input halone rfl
  have hstart : (startShell programs machine environment [] (complain content)
      journal).withInput input =
      startShell programs machine environment input (complain content)
        journal := rfl
  rw [run_eq_conclude hlevel hcontent hsettings hjournal hscreen, ← hstart,
    hserve, conclude_withInput]

/-- Programs that succeed and take all that is left on standard input, as the
one that runs scripts does with blank lines. -/
def swallowing : Programs := fun child left =>
  ⟨0, child.machine, Console.empty, Text.byteCount left⟩

/-- A line of so many spaces and one that starts a program. -/
def padding (count : Nat) : Text :=
  List.replicate count ' ' ++ '\n' :: "sh\n".toList

theorem stripped_spaces (count : Nat) :
    stripped (List.replicate count ' ') = List.replicate count ' ' := by
  refine Text.dropEndWhile_eq_self fun c hlast => ?_
  rw [List.eq_of_mem_replicate (List.mem_of_getLast? hlast)]
  rfl

theorem handleLine_spaces (shell : Shell) (setup : Setup) (count : Nat) :
    shell.handleLine setup (List.replicate count ' ') = (.blank, shell) := by
  have hblank : Text.allBlank (List.replicate count ' ') = true :=
    List.all_eq_true.2 fun c hc => List.eq_of_mem_replicate hc ▸ rfl
  rw [Shell.handleLine, if_pos hblank]

theorem replicate_ne_exitLine (count : Nat) :
    List.replicate (count + 1) ' ' ≠ Shell.exitLine := by
  intro h
  cases congrArg List.head? h

theorem not_mem_spaces (count : Nat) : '\n' ∉ List.replicate count ' ' := by
  intro h
  cases List.eq_of_mem_replicate h

variable {count : Nat}

theorem byteCount_padding : Text.byteCount (padding count) = count + 4 := by
  rw [padding, Text.byteCount_append, Text.byteCount_replicate,
    show ' '.utf8Size = 1 from rfl, Nat.mul_one]
  rfl

/-- The program that is started finds what comes after the padding. -/
theorem serve_padding (count : Nat) (hcount : count + 1 + 4 = readAhead)
    (setup : Setup) (rest : Text) (shell : Shell) :
    serve setup [] (shell.withInput (padding (count + 1) ++ rest)) =
      serve setup "sh\n".toList ((shell.say setup.prompt).withInput rest) := by
  have hread := readLine_of_cutLine? (byteCount_padding.trans hcount)
    (Text.cutLine?_append (not_mem_spaces _) "sh\n".toList) rest
  have hstripped : stripped (List.replicate (count + 1) ' ' ++ ['\n']) =
      List.replicate (count + 1) ' ' :=
    (Text.dropEndWhile_append (by simp) _).trans (stripped_spaces _)
  rw [serve_of_readLine setup (shell.withInput (padding (count + 1) ++ rest))
    hread]
  dsimp only
  rw [if_neg (by simp), hstripped, if_neg (replicate_ne_exitLine count),
    handleLine_spaces]
  rfl

theorem run_padding (setup : Setup) (rest : Text) (shell : Shell) :
    Shell.run setup ((lines (padding (count + 1) ++ rest)).map .line) shell =
      Shell.run setup ((lines ("sh\n".toList ++ rest)).map .line)
        (shell.say setup.prompt) := by
  rw [padding, List.append_assoc, List.cons_append,
    lines_append (not_mem_spaces _), stripped_spaces, List.map_cons,
    Shell.run_line (replicate_ne_exitLine count), Shell.Visit.run,
    handleLine_spaces]
  rfl

end CommandLine

end LineShell
