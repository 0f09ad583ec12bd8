import LineShell.Proofs.CommandLine.Transcript
import LineShell.Proofs.Journal.Sinks

/-!
The level of the journal on the command line.

Main statement: a level after the command counts like one without a command, but
one before the command is lost; where it counts it replaces the level of all
other sources; and two levels that exist give runs with the same end, standard
output and files, and with the same entries on standard error, of which they
show different ones (`run_levels`).
-/
namespace LineShell

namespace Settings

variable (environment : List (Text × Text)) (file : List (Text × Option Text))

/-- A value that is given for another field makes no difference to a field. -/
theorem Sources.read_cons_of_ne {α : Type} {field name : Text}
    (h : field ≠ name) (given : Given) (others : List (Text × Given))
    (reading : Given → Except Mismatch α) (default : α) :
    (Sources.mk ((name, given) :: others) environment file).read field reading
      default =
      (Sources.mk others environment file).read field reading default := by
  have hlookup :
      ((name, given) :: others).lookup field = others.lookup field := by
    rw [List.lookup_cons, beq_false_of_ne h]
  simp only [read, value?, hlookup]

/-- What is not given directly is a text. -/
theorem Sources.exists_text_of_value? {field : Text} {given : Given}
    (h : (Sources.mk [] environment file).value? field = some given) :
    ∃ text, given = .text text := by
  rw [value?, List.lookup_nil, Option.none_or] at h
  obtain ⟨text, -, htext⟩ := Option.map_eq_some_iff.1 h
  exact ⟨text, htext.symm⟩

/-- There always is a level: everything that can stand for one is a text. -/
theorem exists_read_logLevel :
    ∃ level,
      (Sources.mk [] environment file).read "log_level".toList Given.asText
      "WARNING".toList = .ok level := by
  cases hvalue : (Sources.mk [] environment file).value? "log_level".toList with
  | none => exact ⟨"WARNING".toList, by rw [Sources.read, hvalue]⟩
  | some given =>
      obtain ⟨text, rfl⟩ :=
        Sources.exists_text_of_value? environment file hvalue
      refine ⟨text, ?_⟩
      rw [Sources.read, hvalue]
      rfl

/-- A level that is given directly is the level of the settings, and changes
nothing else. -/
theorem load_logLevel (level : Text) :
    load ⟨[("log_level".toList, .text level)], environment, file⟩ =
      (load ⟨[], environment, file⟩).map fun chosen =>
        { chosen with logLevel := level } := by
  obtain ⟨own, hown⟩ := exists_read_logLevel environment file
  have hgiven :
      (Sources.mk [("log_level".toList, .text level)] environment file).read
      "log_level".toList Given.asText "WARNING".toList = .ok level := rfl
  simp only [load, hgiven, hown]
  rw [Sources.read_cons_of_ne _ _ (by decide), Sources.read_cons_of_ne _ _
    (by decide), Sources.read_cons_of_ne _ _ (by decide)]
  cases (Sources.mk [] environment file).read "builtin_redirection".toList
    Given.asFlag true with
  | error mismatch => rfl
  | ok builtinRedirection =>
      cases (Sources.mk [] environment file).read "prompt".toList Given.asText
        "$ ".toList with
      | error mismatch => rfl
      | ok prompt =>
          cases (Sources.mk [] environment file).read "strict_home".toList
            Given.asFlag false with
          | error mismatch => rfl
          | ok strictHome => rfl

end Settings

namespace CommandLine

theorem level?_nil : level? [] = .ok none := rfl

theorem level?_option (level : Text) :
    level? [levelOption, level] = .ok (some level) := rfl

theorem level?_after (level : Text) :
    level? [commandName, levelOption, level] = .ok (some level) := rfl

/-- A level before the command is taken out of the arguments, and then it is
lost. -/
theorem level?_before (level : Text) :
    level? [levelOption, level, commandName] = .ok none := rfl

variable (programs : Programs) (machine : Machine)
  (environment : List (Text × Text)) (content : Text)

theorem settings_level (level : Text) :
    settings content environment (some level) =
      (settings content environment none).map fun chosen =>
        { chosen with logLevel := level } :=
  Settings.load_logLevel environment _ level

theorem run_eq_of_level?_eq {first second : List Text}
    (h : level? first = level? second) (input : Text) :
    run programs machine environment first input =
      run programs machine environment second input := by
  simp only [run, h]

theorem complain_eq : complain content = ⟨[], (complain content).errors⟩ := by
  rw [← complain_output content]

theorem startShell_eq_logged (input : Text) (journal : Journal) :
    startShell programs machine environment input (complain content) journal =
      (startShell programs machine environment input Console.empty
        Journal.silent).logged [] journal
        [.text (complain content).errors] := by
  rw [complain_eq]
  simp [startShell, Shell.logged, Console.empty, Journal.lineOf]

theorem exists_conclude_logged (screen : Screen) (ending : RunEnd)
    (after : Shell) :
    ∃ result output, ∀ journal entries,
      conclude screen ending (after.logged [] journal entries) =
        ⟨result, ⟨output, journal.record entries⟩, after.machine⟩ := by
  cases ending with
  | status status => exact ⟨_, _, fun _ _ => rfl⟩
  | failed failure =>
      cases failure with
      | homeNotSet =>
          exact ⟨.ok 1, after.console.output ++ screen.alert "Error:".toList
            Failure.homeNotSet.message, fun _ _ => rfl⟩
      | _ => exact ⟨.error (.failure _), after.console.output, fun _ _ => rfl⟩

/-- The journal of a level that exists. -/
theorem configure_silent {level : Text} {severity : Severity}
    (h : Severity.ofLevel? level = some severity) :
    Journal.silent.configure level =
      (.ok (), ⟨some severity.name, some severity⟩) := by
  rw [Severity.name_eq_of_ofLevel? h]
  unfold Severity.ofLevel? at h
  simp [Journal.configure, Journal.silent, h]

theorem exists_runShell_level (input : Text) (chosen : Settings) :
    ∃ ending output entries after, ∀ level severity,
      Severity.ofLevel? level = some severity →
      runShell programs machine environment input (complain content)
          { chosen with logLevel := level } =
        ⟨ending, ⟨output, Journal.record ⟨some severity.name, some severity⟩
          entries⟩, after⟩ := by
  cases hscreen : Screen.ofEnvironment environment with
  | error fault =>
      refine ⟨.error (.screen fault), [], [.text (complain content).errors],
        machine, fun level severity hlevel => ?_⟩
      simp only [runShell, configure_silent hlevel, hscreen,
        Journal.record_singleton, Journal.lineOf]
      rw [← complain_eq]
  | ok screen =>
      obtain ⟨runEnd, after, new, hserve⟩ :=
        exists_serve_logged (setup chosen screen) []
        (startShell programs machine environment input Console.empty
          Journal.silent)
      obtain ⟨ending, output, hconclude⟩ :=
        exists_conclude_logged screen runEnd after
      refine ⟨ending, output, [.text (complain content).errors] ++ new,
        after.machine, fun level severity hlevel => ?_⟩
      have hsetup : setup { chosen with logLevel := level } screen =
          setup chosen screen := rfl
      simp only [runShell, configure_silent hlevel, hscreen, hsetup]
      rw [startShell_eq_logged, hserve, hconclude]

theorem exists_run_level (input : Text) :
    ∃ ending output entries after, ∀ level severity,
      Severity.ofLevel? level = some severity →
      run programs machine environment [levelOption, level] input =
        ⟨ending, ⟨output, Journal.record ⟨some severity.name, some severity⟩
          entries⟩, after⟩ := by
  simp only [run, level?_option]
  cases variableText machine with
  | error refusal => exact ⟨_, [], [], _, fun _ _ _ => rfl⟩
  | ok content =>
      simp only [settings_level]
      cases settings content environment none with
      | error invalid =>
          refine ⟨.error (.settings invalid),
            [], [.text (complain content).errors], machine,
            fun level severity hlevel => ?_⟩
          simp only [Except.map, Journal.record_singleton, Journal.lineOf]
          rw [← complain_eq]
      | ok chosen =>
          exact exists_runShell_level programs machine environment content input
            chosen

variable (input : Text)

/-- A level after the command gives the same run as one without a command.  A
level before the command gives the same run as no level at all: the one that
counts is that of the other sources.  A level that counts takes the place of
theirs, and nothing else in the settings changes; without one, theirs is as good
as given.  And for all levels that exist there are one ending, one text on
standard output, one machine afterwards, and one row of entries for standard
error, of which the level decides only which events are seen. -/
theorem run_levels :
    (∀ level,
      run programs machine environment [commandName, levelOption, level] input =
        run programs machine environment [levelOption, level] input ∧
      run programs machine environment [levelOption, level, commandName] input =
        run programs machine environment [] input) ∧
    (∀ content level, settings content environment (some level) =
      (settings content environment none).map fun chosen =>
        { chosen with logLevel := level }) ∧
    (∀ content chosen, variableText machine = .ok content →
      settings content environment none = .ok chosen →
      run programs machine environment [] input =
        run programs machine environment [levelOption, chosen.logLevel] input) ∧
    ∃ ending output entries after, ∀ level severity,
      Severity.ofLevel? level = some severity →
      run programs machine environment [levelOption, level] input =
        ⟨ending, ⟨output, Journal.record ⟨some severity.name, some severity⟩
          entries⟩, after⟩ := by
  refine ⟨fun level => ⟨?_, ?_⟩, fun content level => settings_level
    environment content level, fun content chosen hcontent hchosen => ?_,
    exists_run_level programs machine environment input⟩
  · exact run_eq_of_level?_eq programs machine environment (level?_after level)
      input
  · exact run_eq_of_level?_eq programs machine environment (level?_before level)
      input
  · simp only [run, level?_nil, level?_option, hcontent, settings_level,
      hchosen, Except.map]

/-- The level `debug` before the command: nothing is told, although the same
level after the command tells three events. -/
theorem run_levels_debug :
    let programs : Programs := Programs.idle
    let machine : Machine := Shell.fresh.machine
    let environment : List (Text × Text) := [("PATH".toList, "/bin".toList)]
    let input : Text := "echo hi\n".toList
    let chosen : Settings := ⟨"$ ".toList, "WARNING".toList, false, true⟩
    let told : Text := "DEBUG loop.command name=echo args=['hi']\n".toList ++
      "DEBUG dispatch.route name=echo route=builtin\n".toList ++
        "DEBUG loop.eof\n".toList
    variableText machine = .ok [] ∧ settings [] environment none = .ok chosen ∧
      Severity.ofLevel? "debug".toList = some .debug ∧
      Severity.ofLevel? "Info".toList = some .info ∧
      (run programs machine environment [commandName, levelOption,
        "debug".toList] input).console =
        ⟨"$ hi\n$ ".toList, told⟩ ∧
      (run programs machine environment [levelOption, "Info".toList]
        input).console =
        ⟨"$ hi\n$ ".toList, []⟩ ∧
      (run programs machine environment [levelOption, "debug".toList]
        input).ending =
        (run programs machine environment [levelOption, "Info".toList]
          input).ending ∧
      (run programs machine environment [levelOption, "debug".toList]
        input).machine =
        (run programs machine environment [levelOption, "Info".toList]
          input).machine ∧
      (run programs machine environment [levelOption, "debug".toList,
        commandName] input).console =
        ⟨"$ hi\n$ ".toList, []⟩ := by
  intro programs machine environment input chosen told
  have hcontent : variableText machine = .ok [] := rfl
  have hchosen : settings [] environment none = .ok chosen := rfl
  have hdebug : Severity.ofLevel? "debug".toList = some .debug := rfl
  have hinfo : Severity.ofLevel? "Info".toList = some .info := rfl
  obtain ⟨hforms, -, hown, ending, output, entries, after, hlevels⟩ :=
    run_levels programs machine environment input
  refine ⟨hcontent, hchosen, hdebug, hinfo, ?_, ?_, ?_, ?_, ?_⟩
  · rw [(hforms _).1]
    decide +kernel
  · decide +kernel
  · rw [hlevels _ _ hdebug, hlevels _ _ hinfo]
  · rw [hlevels _ _ hdebug, hlevels _ _ hinfo]
  · rw [(hforms _).2, hown [] chosen hcontent hchosen]
    decide +kernel

end CommandLine

end LineShell
