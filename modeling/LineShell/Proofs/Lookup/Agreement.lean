import LineShell.Completion
import LineShell.Proofs.Lookup.Search
import LineShell.Proofs.Shell.Cause
import LineShell.Proofs.Shell.Verdict
import Mathlib.Data.List.Sort

/-!
What counts as a command: the completion of a word, the builtin `type` and the
execution of a command agree on it (`Shell.commands_agree`).
-/
namespace LineShell

/-- The command with a name, without arguments and redirections. -/
def Command.bare (name : Text) : Command := ⟨name, [], []⟩

/-- Only an error in words of its own is in these words. -/
theorem Refusal.eq_of_message {refusal : Refusal}
    (h : refusal.message = "not found".toList) :
    refusal = .system (.other "not found".toList) := by
  cases refusal with
  | nulCharacter => exact absurd (String.toList_inj.1 h) (by decide)
  | badVariableName => exact absurd (String.toList_inj.1 h) (by decide)
  | tooDeep => exact absurd (String.toList_inj.1 h) (by decide)
  | system error =>
      cases error with
      | other words =>
          obtain rfl : words = "not found".toList := h
          rfl
      | _ => exact absurd (String.toList_inj.1 h) (by decide)

namespace Session

variable {session : Session} {machine : Machine} {name : Text}

/-- Whether a name is that of a command: of a builtin, or of an executable on
the search path. -/
def HasCommand (session : Session) (machine : Machine) (name : Text) : Prop :=
  session.isBuiltin name = true ∨
    ∃ path, machine.findExecutable name session.searchPath = .ok (some path)

theorem isBuiltin_iff :
    session.isBuiltin name = true ↔ name ∈ session.builtinNames := by
  simp [isBuiltin]

/-- Where the system tells, what is no command is looked up and not found. -/
theorem not_hasCommand_iff (h : machine.TellsCommand session.searchPath name) :
    ¬ session.HasCommand machine name ↔
      session.isBuiltin name = false ∧
        machine.findExecutable name session.searchPath = .ok none := by
  obtain ⟨found, hfound, -⟩ := Machine.exists_findExecutable h
  rw [HasCommand, hfound, not_or, Bool.not_eq_true]
  refine and_congr_right fun _ => ?_
  cases found <;> simp

theorem hasCommand_iff (h : machine.TellsCommand session.searchPath name) :
    session.HasCommand machine name ↔ name ∈ session.builtinNames ∨
      Machine.isCommandName name = true ∧
        ∃ directory ∈ session.searchPath,
          machine.offers directory name = true := by
  obtain ⟨found, hfound, hiff⟩ := Machine.exists_findExecutable h
  rw [HasCommand, hfound, ← hiff, isBuiltin_iff]
  cases found <;> simp

end Session

namespace Completion

variable {session : Session} {machine : Machine}

/-- The proposals for a word are the builtins and the executables in the
directories that start with it, in order. -/
theorem exists_candidates (h : machine.Browsable session.searchPath)
    (start : Text) :
    ∃ names, candidates session machine start = .ok names ∧
      names.Pairwise (· < ·) ∧
      ∀ name, name ∈ names ↔ start <+: name ∧ (name ∈ session.builtinNames ∨
        Machine.isCommandName name = true ∧ name ≠ ['.'] ∧
          ∃ directory ∈ session.searchPath,
            machine.offers directory name = true) := by
  obtain ⟨found, hfound, hmem⟩ := h.mem_executablesStarting start
  refine ⟨nameSet (session.builtinNames.filter start.isPrefixOf ++
    nameSet found), ?_, pairwise_nameSet _, fun name => ?_⟩
  · simp only [candidates, Machine.executableNames, hfound]
    rfl
  · rw [mem_nameSet, List.mem_append, List.mem_filter, mem_nameSet, hmem,
      List.isPrefixOf_iff_prefix]
    constructor
    · rintro (⟨hbuiltin, hstart⟩ | ⟨hstart, hexecutable⟩)
      · exact ⟨hstart, Or.inl hbuiltin⟩
      · exact ⟨hstart, Or.inr hexecutable⟩
    · rintro ⟨hstart, hbuiltin | hexecutable⟩
      · exact Or.inl ⟨hbuiltin, hstart⟩
      · exact Or.inr ⟨hstart, hexecutable⟩

/-- A longer word has those of the proposals that start with it. -/
theorem candidates_append (h : machine.Browsable session.searchPath)
    {start : Text} {names : List Text}
    (hnames : candidates session machine start = .ok names) (more : Text) :
    candidates session machine (start ++ more) =
      .ok (names.filter (start ++ more).isPrefixOf) := by
  obtain ⟨all, hall, hsorted, hmem⟩ := exists_candidates h start
  obtain rfl : all = names := Except.ok.inj (hall.symm.trans hnames)
  obtain ⟨fewer, hfewer, hsortedFewer, hmemFewer⟩ :=
    exists_candidates h (start ++ more)
  have hsame : fewer = all.filter (start ++ more).isPrefixOf := by
    apply hsortedFewer.eq_of_mem_iff (hsorted.filter _)
    intro name
    rw [hmemFewer, List.mem_filter, hmem, List.isPrefixOf_iff_prefix]
    constructor
    · rintro ⟨hstart, hname⟩
      exact ⟨⟨(List.prefix_append start more).trans hstart, hname⟩, hstart⟩
    · rintro ⟨⟨-, hname⟩, hstart⟩
      exact ⟨hstart, hname⟩
  rw [hfewer, hsame]

/-- Neither the order of the builtins and of the directories counts nor how
often they occur. -/
theorem candidates_eq_of_mem_iff
    (h : machine.Browsable session.searchPath) {other : Session}
    (hbuiltins : ∀ name, name ∈ other.builtinNames ↔
      name ∈ session.builtinNames)
    (hdirectories : ∀ directory, directory ∈ other.searchPath ↔
      directory ∈ session.searchPath) {start : Text} :
    candidates other machine start = candidates session machine start := by
  obtain ⟨names, hnames, hsorted, hmem⟩ := exists_candidates h start
  obtain ⟨others, hothers, hsortedOthers, hmemOthers⟩ :=
    exists_candidates (h.of_mem_iff hdirectories) start
  have hsame : others = names := by
    apply hsortedOthers.eq_of_mem_iff hsorted
    intro name
    rw [hmem, hmemOthers, hbuiltins]
    simp only [hdirectories]
  rw [hothers, hnames, hsame]

/-- The proposals that the system tells about are the commands that start with
the word. -/
theorem mem_iff_hasCommand {start name : Text} {names : List Text}
    (hnames : ∀ name ∈ session.builtinNames, name ∈ Builtin.names)
    (hmem : ∀ name, name ∈ names ↔
      start <+: name ∧ (name ∈ session.builtinNames ∨
      Machine.isCommandName name = true ∧ name ≠ ['.'] ∧
        ∃ directory ∈ session.searchPath, machine.offers directory name = true))
    (htells : machine.TellsCommand session.searchPath name) :
    name ∈ names ↔
      name ≠ ['.'] ∧ start <+: name ∧ session.HasCommand machine name := by
  have hdot : name ∈ session.builtinNames → name ≠ ['.'] := by
    rintro hname rfl
    exact absurd (hnames _ hname) (by decide)
  rw [hmem, Session.hasCommand_iff htells]
  constructor
  · rintro ⟨hstart, hbuiltin | ⟨hcommand, hne, hoffers⟩⟩
    · exact ⟨hdot hbuiltin, hstart, Or.inl hbuiltin⟩
    · exact ⟨hne, hstart, Or.inr ⟨hcommand, hoffers⟩⟩
  · rintro ⟨hne, hstart, hbuiltin | ⟨hcommand, hoffers⟩⟩
    · exact ⟨hstart, Or.inl hbuiltin⟩
    · exact ⟨hstart, Or.inr ⟨hcommand, hne, hoffers⟩⟩

end Completion

namespace Builtin

/-- What `type` writes about a name that is no command, and only about such a
name. -/
theorem type_written_iff {session : Session} {machine : Machine} {name : Text}
    (h : machine.TellsCommand session.searchPath name) :
    (Builtin.type.run session machine [name]).written =
      line (name ++ ": not found".toList) ↔
      ¬ session.HasCommand machine name := by
  have hwritten : (Builtin.type.run session machine [name]).written =
      match describe session machine name with
      | .ok (text, _) => line text
      | .error _ => [] := by
    simp only [run, runType, describeAll]
    cases describe session machine name with
    | error refusal => rfl
    | ok described => exact List.append_nil _
  obtain ⟨found, hfound, -⟩ := Machine.exists_findExecutable h
  rw [hwritten, Session.not_hasCommand_iff h, describe, hfound]
  cases session.isBuiltin name with
  | true => simp [line]
  | false =>
      cases found with
      | some path => simp [Except.map, line]
      | none => simp [Except.map]

end Builtin

namespace Shell

variable {shell after : Shell} {policy : Policy} {name : Text}
  {failure : Failure}

/-- What can go wrong with a command without arguments and redirections. -/
inductive FailsBare (shell : Shell) (name : Text) : Failure → Prop where
  | unknown : FailsBare shell name (.unknownBuiltin name)
  | refused (refusal : Refusal) : FailsBare shell name (.refused refusal)
  | home (hname : name = Builtin.cd.name) : FailsBare shell name .homeNotSet
  | missing (hname : name = Builtin.cd.name) (argument : Text) :
      FailsBare shell name (.noDirectory argument)
  | notFound (hbuiltin : shell.session.isBuiltin name = false)
      (hfind : shell.machine.findExecutable name shell.session.searchPath =
        .ok none) :
      FailsBare shell name (.commandNotFound name)
  | unstarted {refusal : Refusal} (hwords : ∀ words,
      refusal = .system (.other words) →
        ∃ access, shell.machine.volume.refuses access = some (.other words)) :
      FailsBare shell name (.cannotStart name refusal)

theorem route_bare (session : Session) (policy : Policy) (name : Text) :
    (Command.bare name).route session policy =
      if session.isBuiltin name then .builtin else .external := by
  unfold Command.route Command.bare
  cases session.isBuiltin name <;> rfl

/-- Only what keeps a program from starting is a failure of running it. -/
theorem prepare_of_runProgram {program : Program} {streams : Streams}
    (h : (shell.runProgram name program streams).1 = .error failure) :
    ∃ refusal, failure = .cannotStart name refusal ∧
      program.prepare shell.machine streams.locations = .error refusal := by
  cases hprepare : program.prepare shell.machine streams.locations with
  | error refusal =>
      rw [runProgram_of_error hprepare] at h
      cases h
      exact ⟨refusal, rfl, rfl⟩
  | ok prepared =>
      rw [runProgram_of_ok hprepare] at h
      cases h

theorem Course.failsBare
    (h : shell.Course policy (.bare name) (.error failure) after) :
    shell.FailsBare name failure := by
  generalize hresult :
    (Except.error failure : Except Failure Outcome) = result at h
  cases h with
  | unknown =>
      cases hresult
      exact .unknown
  | builtinUnopened hroute hname hopen => cases hopen
  | @builtin builtin streams machine _ _ hroute hname hopen hsettle =>
      cases hopen
      have heffect : (builtin.run shell.session shell.machine []).result =
          .error failure :=
        (congrArg Prod.fst hsettle).trans hresult.symm
      have hbuiltin : name = builtin.name :=
        (Builtin.name_eq_of_ofName? hname).symm
      rcases (Builtin.result_eq_error_iff.1 heffect).refused_or_cd with
        ⟨refusal, rfl⟩ | ⟨rfl, rfl | ⟨argument, rfl⟩⟩
      · exact .refused refusal
      · exact .home hbuiltin
      · exact .missing hbuiltin argument
  | obscured =>
      cases hresult
      exact .refused _
  | notFound hroute hfind =>
      cases hresult
      refine .notFound ?_ hfind
      rw [route_bare] at hroute
      split at hroute
      · cases hroute
      · rename_i hbuiltin
        exact Bool.eq_false_iff.2 hbuiltin
  | programUnopened hroute hfind hopen => cases hopen
  | @program path streams machine _ _ hroute hfind hopen hrun =>
      cases hopen
      obtain ⟨refusal, rfl, hprepare⟩ :=
        prepare_of_runProgram ((congrArg Prod.fst hrun).trans hresult.symm)
      refine .unstarted fun words hwords => ?_
      rw [hwords] at hprepare
      exact Program.refuses_of_prepare hprepare

theorem attempt_bare_of_not_hasCommand
    (hbuiltin : shell.session.isBuiltin name = false)
    (hfind : shell.machine.findExecutable name shell.session.searchPath =
      .ok none) :
    (shell.attempt policy (.bare name)).1 = .error (.commandNotFound name) := by
  have hroute : (Command.bare name).route shell.session policy = .external := by
    rw [route_bare, hbuiltin]
    rfl
  have hfound : shell.machine.findExecutable (Command.bare name).name
      shell.session.searchPath =
      .ok none := hfind
  simp only [attempt, hroute, runExternal, tell_session, tell_machine, hfound]
  rfl

/-- A command is not found exactly if its name is that of no command. -/
theorem attempt_bare_iff
    (h : shell.machine.TellsCommand shell.session.searchPath name) :
    (shell.attempt policy (.bare name)).1 = .error (.commandNotFound name) ↔
      ¬ shell.session.HasCommand shell.machine name := by
  rw [Session.not_hasCommand_iff h]
  constructor
  · intro hresult
    have hcourse := shell.course_attempt policy (.bare name)
    rw [hresult] at hcourse
    cases hcourse.failsBare with
    | notFound hbuiltin hfind => exact ⟨hbuiltin, hfind⟩
  · rintro ⟨hbuiltin, hfind⟩
    exact attempt_bare_of_not_hasCommand hbuiltin hfind

/-- Only where a command is not found its failure is reported in these words. -/
theorem FailsBare.eq_of_message
    (h : shell.FailsBare name failure) {strictHome : Bool}
    (hwords : ∀ access,
      shell.machine.volume.refuses access ≠ some (.other "not found".toList))
    (hreported : failure.isReported strictHome = true)
    (hmessage : failure.message = name ++ ": not found".toList) :
    failure = .commandNotFound name := by
  cases h with
  | unknown => cases hreported
  | refused => cases hreported
  | home hname =>
      rw [hname] at hmessage
      cases hmessage
  | missing hname argument =>
      rw [hname] at hmessage
      cases hmessage
  | notFound => rfl
  | @unstarted refusal hother =>
      have hcause : refusal.message = "not found".toList := by
        have hparts : name ++ (": ".toList ++ refusal.message) =
            name ++ (": ".toList ++ "not found".toList) := by
          rw [← List.append_assoc]
          exact hmessage
        exact List.append_cancel_left (List.append_cancel_left hparts)
      obtain rfl := Refusal.eq_of_message hcause
      obtain ⟨access, haccess⟩ := hother _ rfl
      exact absurd haccess (hwords access)

/-- The messages that executing a command reports. -/
def reports (shell : Shell) (setup : Setup) (command : Command) : List Text :=
  (shell.execute { setup with reporter := .collected } command).2.reported.drop
    shell.reported.length

theorem reports_eq (shell : Shell) (setup : Setup) (command : Command) :
    shell.reports setup command =
      match (shell.attempt setup.policy command).1 with
      | .ok _ => []
      | .error failure =>
          if failure.isReported setup.policy.strictHome then [failure.message]
          else [] := by
  have hreported := (shell.course_attempt setup.policy command).reported_eq
  unfold reports execute
  generalize shell.attempt setup.policy command = attempted at hreported ⊢
  obtain ⟨failure | outcome, after⟩ := attempted
  · dsimp only at hreported ⊢
    by_cases hsurvived : failure.isReported setup.policy.strictHome = true
    · simp [hsurvived, report, hreported]
    · simp [hsurvived, hreported]
  · dsimp only at hreported ⊢
    simp [hreported]

/-- A command is reported not to be found exactly if it is not. -/
theorem mem_reports_bare_iff {setup : Setup}
    (hwords : ∀ access,
      shell.machine.volume.refuses access ≠ some (.other "not found".toList)) :
    name ++ ": not found".toList ∈ shell.reports setup (.bare name) ↔
      (shell.attempt setup.policy (.bare name)).1 =
        .error (.commandNotFound name) := by
  have hcourse := shell.course_attempt setup.policy (.bare name)
  rw [reports_eq]
  constructor
  · intro hmessage
    split at hmessage
    · cases hmessage
    · rename_i failure hfailure
      rw [hfailure] at hcourse
      split at hmessage
      · rename_i hsurvived
        rw [hfailure, hcourse.failsBare.eq_of_message hwords hsurvived
          (List.mem_singleton.1 hmessage).symm]
      · cases hmessage
  · intro hfailure
    rw [hfailure]
    exact List.mem_singleton_self _

/-- Completion, `type` and execution agree on what is a command. -/
theorem commands_agree (shell : Shell) (setup : Setup)
    (hnames : ∀ name ∈ shell.session.builtinNames, name ∈ Builtin.names)
    (hbrowsable : shell.machine.Browsable shell.session.searchPath) :
    (∀ start, ∃ names,
      Completion.candidates shell.session shell.machine start = .ok names ∧
      names.Pairwise (· < ·) ∧
      (∀ name, shell.machine.TellsCommand shell.session.searchPath name →
        (name ∈ names ↔
          name ≠ ['.'] ∧ start <+: name ∧
            shell.session.HasCommand shell.machine name)) ∧
      (∀ more,
        Completion.candidates shell.session shell.machine (start ++ more) =
        .ok (names.filter (start ++ more).isPrefixOf)) ∧
      ∀ other : Session,
        (∀ name, name ∈ other.builtinNames ↔
          name ∈ shell.session.builtinNames) →
        (∀ directory, directory ∈ other.searchPath ↔
          directory ∈ shell.session.searchPath) →
        Completion.candidates other shell.machine start = .ok names) ∧
    ∀ name, name ≠ ['.'] →
      shell.machine.TellsCommand shell.session.searchPath name →
      ∃ names,
        Completion.candidates shell.session shell.machine name = .ok names ∧
        (name ∈ names ↔
          (Builtin.type.run shell.session shell.machine [name]).written ≠
          Builtin.line (name ++ ": not found".toList)) ∧
        (name ∈ names ↔
          (shell.attempt setup.policy (.bare name)).1 ≠
            .error (.commandNotFound name)) ∧
        ((∀ access, shell.machine.volume.refuses access ≠
          some (.other "not found".toList)) →
          (name ∈ names ↔
            name ++ ": not found".toList ∉
              shell.reports setup (.bare name))) := by
  constructor
  · intro start
    obtain ⟨names, hcandidates, hsorted, hmem⟩ :=
      Completion.exists_candidates hbrowsable start
    refine ⟨names, hcandidates, hsorted, ?_, ?_, ?_⟩
    · intro name htells
      exact Completion.mem_iff_hasCommand hnames hmem htells
    · intro more
      exact Completion.candidates_append hbrowsable hcandidates more
    · intro other hbuiltins hdirectories
      rw [Completion.candidates_eq_of_mem_iff hbrowsable hbuiltins hdirectories,
        hcandidates]
  · intro name hdot htells
    obtain ⟨names, hcandidates, -, hmem⟩ :=
      Completion.exists_candidates hbrowsable name
    have hcommand : name ∈ names ↔
        shell.session.HasCommand shell.machine name := by
      rw [Completion.mem_iff_hasCommand hnames hmem htells]
      exact ⟨fun h => h.2.2, fun h => ⟨hdot, List.prefix_refl name, h⟩⟩
    refine ⟨names, hcandidates, ?_, ?_, ?_⟩
    · rw [hcommand, ne_eq, Builtin.type_written_iff htells, not_not]
    · rw [hcommand, ne_eq, attempt_bare_iff htells, not_not]
    · intro hwords
      rw [hcommand, mem_reports_bare_iff hwords, attempt_bare_iff htells,
        not_not]

/-- A shell with a search path of two directories, one of them twice, a file and
a directory that is missing.  `tool` is a link, `notes` may not be run, `attic`
is a directory, `ls` is there twice, and `echo` is a builtin as well. -/
def cluttered : Shell where
  session := ⟨⟨.single, []⟩, Builtin.names,
    [("PATH".toList, "/bin:/opt:/gone:/bin/ls:/bin".toList)]⟩
  machine :=
    { volume :=
        { entries :=
            [(["bin".toList], .directory), (["opt".toList], .directory),
             (["bin".toList, "attic".toList], .directory),
             (["bin".toList, "echo".toList], .file [] true),
             (["bin".toList, "ls".toList], .file [] true),
             (["bin".toList, "notes".toList], .file [] false),
             (["bin".toList, "tool".toList], .link "../opt/ls".toList),
             (["opt".toList, "ls".toList], .file [] true)]
          refuses := fun _ => none
          nesting := 0 }
      directory := [] }
  programs := Programs.idle
  input := []
  console := Console.empty
  reported := []
  journal := Journal.silent

theorem browsable_cluttered :
    cluttered.machine.Browsable cluttered.session.searchPath where
  tree := ⟨by decide, by decide⟩
  searchable := by
    have hpath : cluttered.session.searchPath =
        ["/bin".toList, "/opt".toList, "/gone".toList, "/bin/ls".toList,
          "/bin".toList] := by decide
    rw [hpath]
    intro directory hdirectory
    simp only [List.mem_cons, List.not_mem_nil, or_false] at hdirectory
    rcases hdirectory with rfl | rfl | rfl | rfl | rfl
    · exact ⟨by decide, Or.inl ⟨_, rfl⟩⟩
    · exact ⟨by decide, Or.inl ⟨_, rfl⟩⟩
    · exact ⟨by decide, Or.inr fun ⟨location, hwalk, _⟩ => by cases hwalk⟩
    · refine ⟨by decide, Or.inr fun ⟨location, hwalk, hdirectory⟩ => ?_⟩
      cases hwalk
      cases hdirectory
    · exact ⟨by decide, Or.inl ⟨_, rfl⟩⟩
  tells := fun _ _ _ _ _ _ => Machine.tells_of_refuses_nothing (fun _ => rfl) _

theorem commands_agree_cluttered :
    let setup : Setup := ⟨⟨true, false⟩, .collected, []⟩
    (∀ name ∈ cluttered.session.builtinNames, name ∈ Builtin.names) ∧
      cluttered.machine.Browsable cluttered.session.searchPath ∧
      Completion.candidates cluttered.session cluttered.machine [] =
        .ok ["cd".toList, "echo".toList, "exit".toList, "ls".toList,
          "pwd".toList, "tool".toList, "type".toList] ∧
      Completion.candidates cluttered.session cluttered.machine "t".toList =
        .ok ["tool".toList, "type".toList] ∧
      (Builtin.type.run cluttered.session cluttered.machine
        ["tool".toList]).written ≠
        "tool: not found\n".toList ∧
      "notes: not found".toList ∈
        cluttered.reports setup (.bare "notes".toList) := by
  intro setup
  have hnames : ∀ name ∈ cluttered.session.builtinNames, name ∈ Builtin.names :=
    fun _ h => h
  have htells : ∀ name,
      cluttered.machine.TellsCommand cluttered.session.searchPath name :=
    fun _ _ _ _ => Machine.tells_of_refuses_nothing (fun _ => rfl) _
  obtain ⟨hprefixes, hagree⟩ :=
    commands_agree cluttered setup hnames browsable_cluttered
  have hall : Completion.candidates cluttered.session cluttered.machine [] =
      .ok ["cd".toList, "echo".toList, "exit".toList, "ls".toList, "pwd".toList,
        "tool".toList, "type".toList] := rfl
  obtain ⟨all, hcandidates, -, -, hlonger, -⟩ := hprefixes []
  rw [hall] at hcandidates
  cases hcandidates
  obtain ⟨found, hfound, htype, -⟩ :=
    hagree "tool".toList (by decide) (htells _)
  obtain rfl : ["tool".toList] = found := Except.ok.inj hfound
  obtain ⟨missing, hmissing, -, -, hreports⟩ :=
    hagree "notes".toList (by decide) (htells _)
  obtain rfl : [] = missing := Except.ok.inj hmissing
  refine ⟨hnames, browsable_cluttered, hall, hlonger "t".toList,
    htype.1 (List.mem_singleton_self _), ?_⟩
  exact Decidable.not_not.1 fun hnot =>
    absurd ((hreports nofun).2 hnot) List.not_mem_nil

end Shell

end LineShell
