import LineShell.Proofs.Shell.History

/-!
Whether the status of an outcome and its exit code tell the same story.

Main statement: they do for every outcome that asks for no end, except for the
outcome of a `type` that does not know some name: this is an error with exit
code zero (`accounts_of_outcome`).
-/
namespace LineShell

namespace Outcome

/-- Whether an outcome is a success exactly if its exit code is zero, and an
error exactly if it is not. -/
structure IsCoherent (outcome : Outcome) : Prop where
  ok_iff : outcome.status = .ok ↔ outcome.exitCode = 0
  error_iff : outcome.status = .error ↔ outcome.exitCode ≠ 0

theorem isCoherent_success (name : Text) : (success name).IsCoherent :=
  ⟨by simp [success], by simp [success]⟩

theorem isCoherent_failed (name : Text) : (failed name).IsCoherent :=
  ⟨by simp [failed], by simp [failed]⟩

theorem isCoherent_malformed : malformed.IsCoherent :=
  ⟨by simp [malformed], by simp [malformed]⟩

/-- Whatever a child ends with, a signal included. -/
theorem isCoherent_ofChild (name : Text) (code : Int) :
    (ofChild name code).IsCoherent := by
  unfold ofChild
  by_cases hcode : code = 0
  · exact ⟨by simp [hcode], by simp [hcode]⟩
  · exact ⟨by simp [hcode], by simp [hcode]⟩

/-- The outcome of a `type` that does not know all names: an error with exit
code zero. -/
def overlooked : Outcome := ⟨Builtin.type.name, .error, 0, false⟩

/-- Whether an outcome is the overlooked error if it has to be that, and
coherent if not. -/
structure Accounts (overlooks : Prop) (outcome : Outcome) : Prop where
  overlooked : overlooks → outcome = .overlooked
  coherent : ¬ overlooks → outcome.IsCoherent

theorem Accounts.of_coherent {overlooks : Prop}
    {outcome : Outcome} (hnot : ¬ overlooks) (hcoherent : outcome.IsCoherent) :
    outcome.Accounts overlooks :=
  ⟨fun h => absurd h hnot, fun _ => hcoherent⟩

end Outcome

namespace Builtin

variable {session : Session} {machine : Machine} {arguments : List Text}
  {outcome : Outcome}

/-- Whether no command has a name, as far as the system tells. -/
def Misses (session : Session) (machine : Machine) (argument : Text) : Prop :=
  session.isBuiltin argument = false ∧
    machine.findExecutable argument session.searchPath = .ok none

theorem known_of_describe {argument text : Text} {known : Bool}
    (h : describe session machine argument = .ok (text, known)) :
    known = true ↔ ¬ Misses session machine argument := by
  unfold describe at h
  cases hbuiltin : session.isBuiltin argument with
  | true =>
      simp only [hbuiltin, if_true] at h
      cases h
      simp [Misses, hbuiltin]
  | false =>
      simp only [hbuiltin, Bool.false_eq_true, if_false] at h
      cases hfound : machine.findExecutable argument session.searchPath with
      | error refusal =>
          rw [hfound] at h
          cases h
      | ok found =>
          rw [hfound] at h
          cases found with
          | none =>
              cases h
              simp [Misses, hbuiltin, hfound]
          | some path =>
              cases h
              simp [Misses, hfound]

theorem known_of_describeAll {known all : Bool}
    (h : (describeAll session machine known arguments).2 = .ok all) :
    all = true ↔ known = true ∧
      ∀ argument ∈ arguments, ¬ Misses session machine argument := by
  induction arguments generalizing known with
  | nil =>
      cases h
      simp
  | cons first rest ih =>
      unfold describeAll at h
      cases hfirst : describe session machine first with
      | error refusal =>
          rw [hfirst] at h
          cases h
      | ok described =>
          rw [hfirst] at h
          have hknown := known_of_describe hfirst
          rw [ih h, Bool.and_eq_true, List.forall_mem_cons, hknown, and_assoc]

/-- Whether a builtin is a `type` that misses a name. -/
def Overlooks (session : Session) (machine : Machine) (arguments : List Text)
    (builtin : Builtin) : Prop :=
  builtin = .type ∧ ∃ argument ∈ arguments, Misses session machine argument

theorem accounts_of_runType
    (h : (runType session machine arguments).result = .ok outcome) :
    outcome.Accounts (Builtin.type.Overlooks session machine arguments) := by
  simp only [runType] at h
  cases hall : (describeAll session machine true arguments).2 with
  | error refusal =>
      rw [hall] at h
      cases h
  | ok all =>
      rw [hall] at h
      have hknown := known_of_describeAll hall
      cases all with
      | true =>
          cases h
          refine .of_coherent ?_ (Outcome.isCoherent_success _)
          rintro ⟨-, argument, hargument, hmisses⟩
          exact (hknown.1 rfl).2 argument hargument hmisses
      | false =>
          cases h
          refine ⟨fun _ => rfl, fun hnot => ?_⟩
          refine absurd (hknown.2 ⟨rfl, ?_⟩) Bool.false_ne_true
          intro argument hargument hmisses
          exact hnot ⟨rfl, argument, hargument, hmisses⟩

theorem isCoherent_of_runExit
    (h : (runExit session arguments).result = .ok outcome)
    (hstays : outcome.exitRequested = false) : outcome.IsCoherent := by
  unfold runExit at h
  cases arguments with
  | nil =>
      cases h
      cases hstays
  | cons argument rest =>
      cases hcode : Text.Numeral.parse? argument with
      | some code =>
          simp only [hcode] at h
          cases h
          cases hstays
      | none =>
          simp only [hcode] at h
          cases h
          exact ⟨by simp, by simp⟩

/-- The outcome of a builtin that asks for no end. -/
theorem accounts_of_run {builtin : Builtin}
    (h : (builtin.run session machine arguments).result = .ok outcome)
    (hstays : outcome.exitRequested = false) :
    outcome.Accounts (builtin.Overlooks session machine arguments) := by
  have hother : builtin ≠ .type → outcome.IsCoherent →
      outcome.Accounts (builtin.Overlooks session machine arguments) :=
    fun hne => .of_coherent fun hoverlooks => hne hoverlooks.1
  cases builtin with
  | type => exact accounts_of_runType h
  | exit =>
      apply hother
      · exact Builtin.noConfusion
      · exact isCoherent_of_runExit h hstays
  | echo =>
      cases h
      exact hother Builtin.noConfusion (Outcome.isCoherent_success _)
  | pwd =>
      cases h
      exact hother Builtin.noConfusion (Outcome.isCoherent_success _)
  | cd =>
      apply hother
      · exact Builtin.noConfusion
      · rcases Shell.cd_run_cases session machine arguments with
          ⟨path, -, -, heffect⟩ | ⟨failure, heffect⟩
        · rw [heffect] at h
          cases h
          exact Outcome.isCoherent_success _
        · rw [heffect] at h
          cases h

/-- A `type` fails of nothing but what the system refuses. -/
theorem refused_of_type {failure : Failure}
    (h : (Builtin.type.run session machine arguments).result = .error failure) :
    ∃ refusal, failure = .refused refusal := by
  rcases (result_eq_error_iff.1 h).refused_or_cd with hrefused | ⟨hcd, -⟩
  · exact hrefused
  · cases hcd

end Builtin

namespace Shell

variable {shell after : Shell} {policy : Policy} {setup : Setup}
  {command : Command} {outcome : Outcome} {failure : Failure}

/-- Whether a command is a `type` that runs inside the shell, with its targets
open, and misses a name. -/
def Overlooks (shell : Shell) (policy : Policy) (command : Command) : Prop :=
  command.route shell.session policy = .builtin ∧
    ∃ streams opened,
      shell.machine.openTargets shell.session.cwd .none command.redirections =
        (.ok streams, opened) ∧
      command.name = Builtin.type.name ∧
      ∃ argument ∈ command.arguments,
        Builtin.Misses shell.session opened argument

/-- Only the builtin of a command can overlook a name. -/
theorem overlooks_iff {builtin : Builtin} {streams : Streams} {opened : Machine}
    (hroute : command.route shell.session policy = .builtin)
    (hname : Builtin.ofName? command.name = some builtin)
    (hopen : shell.machine.openTargets shell.session.cwd .none
      command.redirections =
      (.ok streams, opened)) :
    shell.Overlooks policy command ↔
      builtin.Overlooks shell.session opened command.arguments := by
  have hbuiltin : command.name = Builtin.type.name ↔ builtin = .type := by
    constructor
    · intro htype
      rw [htype, Builtin.ofName?_name] at hname
      exact (Option.some.inj hname).symm
    · rintro rfl
      exact (Builtin.name_eq_of_ofName? hname).symm
  constructor
  · rintro ⟨-, _, _, hopened, htype, hmisses⟩
    rw [hopen] at hopened
    cases hopened
    exact ⟨hbuiltin.1 htype, hmisses⟩
  · rintro ⟨htype, hmisses⟩
    exact ⟨hroute, streams, opened, hopen, hbuiltin.2 htype, hmisses⟩

theorem not_overlooks_of_external
    (h : command.route shell.session policy = .external) :
    ¬ shell.Overlooks policy command := by
  rintro ⟨hroute, -⟩
  rw [h] at hroute
  cases hroute

theorem isCoherent_of_runProgram
    {name : Text} {program : Program} {streams : Streams}
    (h : (shell.runProgram name program streams).1 = .ok outcome) :
    outcome.IsCoherent := by
  cases hprepare : program.prepare shell.machine streams.locations with
  | error refusal =>
      rw [runProgram_of_error hprepare] at h
      cases h
  | ok prepared =>
      rw [runProgram_of_ok hprepare] at h
      cases h
      exact Outcome.isCoherent_ofChild _ _

/-- The outcome of every course that asks for no end. -/
theorem Course.accounts (h : shell.Course policy command (.ok outcome) after)
    (hstays : outcome.exitRequested = false) :
    outcome.Accounts (shell.Overlooks policy command) := by
  cases h with
  | @builtin builtin streams machine _ _ hroute hname hopen hsettle =>
      rw [overlooks_iff hroute hname hopen]
      apply Builtin.accounts_of_run _ hstays
      rcases settle_result
        { shell.routed policy command with machine := machine } builtin
        (builtin.run shell.session machine command.arguments) streams.output
          with
        hresult | ⟨error, hresult⟩
      · rw [hsettle] at hresult
        exact hresult.symm
      · rw [hsettle] at hresult
        cases hresult
  | program hroute hfind hopen hrun =>
      refine .of_coherent (not_overlooks_of_external hroute) ?_
      exact isCoherent_of_runProgram (congrArg Prod.fst hrun)

/-- A `type` that misses a name and fails nevertheless is refused something,
which the shell does not survive. -/
theorem Course.not_overlooks
    (h : shell.Course policy command (.error failure) after)
    (hreported : failure.isReported setup.policy.strictHome = true) :
    ¬ shell.Overlooks policy command := by
  cases h with
  | unknown hroute hname =>
      rintro ⟨-, _, _, -, htype, -⟩
      rw [htype, Builtin.ofName?_name] at hname
      cases hname
  | builtinUnopened hroute hname hopen =>
      rintro ⟨-, _, _, hopened, -⟩
      rw [hopen] at hopened
      cases hopened
  | @builtin builtin streams machine _ _ hroute hname hopen hsettle =>
      rw [overlooks_iff hroute hname hopen]
      rintro ⟨rfl, -⟩
      rcases settle_result
        { shell.routed policy command with machine := machine } .type
        (Builtin.type.run shell.session machine command.arguments)
          streams.output with
        hresult | ⟨error, hresult⟩
      · rw [hsettle] at hresult
        obtain ⟨refusal, rfl⟩ := Builtin.refused_of_type hresult.symm
        cases hreported
      · rw [hsettle] at hresult
        cases hresult
        cases hreported
  | obscured hroute => exact not_overlooks_of_external hroute
  | notFound hroute => exact not_overlooks_of_external hroute
  | programUnopened hroute => exact not_overlooks_of_external hroute
  | program hroute => exact not_overlooks_of_external hroute

theorem accounts_of_execute (h : (shell.execute setup command).1 = .ok outcome)
    (hstays : outcome.exitRequested = false) :
    outcome.Accounts (shell.Overlooks setup.policy command) := by
  have hcourse := shell.course_attempt setup.policy command
  rcases shell.execute_cases setup command with
    ⟨attempted, hattempt, hexecute⟩ | ⟨failure, hattempt, hexecute⟩
  · rw [hexecute] at h
    cases h
    rw [hattempt] at hcourse
    exact hcourse.accounts hstays
  · rw [hattempt] at hcourse
    by_cases hreported : failure.isReported setup.policy.strictHome = true
    · rw [hexecute, if_pos hreported] at h
      cases h
      exact .of_coherent (hcourse.not_overlooks hreported)
        (Outcome.isCoherent_failed _)
    · rw [hexecute, if_neg hreported] at h
      cases h

theorem overlooks_read : (shell.read command).Overlooks policy command ↔
    shell.Overlooks policy command := by
  have hsession : (shell.read command).session = shell.session :=
    tell_session _ _
  have hmachine : (shell.read command).machine = shell.machine :=
    tell_machine _ _
  simp only [Overlooks, hsession, hmachine]

theorem accounts_of_handleLine {line : Text}
    (h : (shell.handleLine setup line).1 = .done outcome)
    (hstays : outcome.exitRequested = false) :
    outcome.Accounts (∃ command, Command.ofLine line = .ok command ∧
      shell.Overlooks setup.policy command) := by
  revert h
  fun_cases handleLine shell setup line with
  | case1 =>
      intro h
      cases h
  | case2 hblank error hline hreported =>
      intro h
      cases h
      refine .of_coherent ?_ Outcome.isCoherent_malformed
      rintro ⟨command, hcommand, -⟩
      rw [hline] at hcommand
      cases hcommand
  | case3 =>
      intro h
      cases h
  | case4 hblank command hline other after hexecute =>
      intro h
      cases h
      have hresult :
          ((shell.read command).execute setup command).1 = .ok outcome :=
        congrArg Prod.fst hexecute
      have haccounts := accounts_of_execute hresult hstays
      rw [overlooks_read] at haccounts
      constructor
      · rintro ⟨_, hcommand, hoverlooks⟩
        rw [hline] at hcommand
        cases hcommand
        exact haccounts.overlooked hoverlooks
      · intro hnot
        exact haccounts.coherent fun hoverlooks =>
          hnot ⟨command, hline, hoverlooks⟩
  | case5 =>
      intro h
      cases h

/-- Whatever a command or a line comes to, if that asks for no end: its status
and its exit code tell the same story, unless it is a `type` that misses a name,
which is an error with exit code zero. -/
theorem accounts_of_outcome (shell : Shell) (setup : Setup) (outcome : Outcome)
    (hstays : outcome.exitRequested = false) :
    (∀ command, (shell.execute setup command).1 = .ok outcome →
      (shell.Overlooks setup.policy command →
        outcome = ⟨"type".toList, .error, 0, false⟩) ∧
      (¬ shell.Overlooks setup.policy command → outcome.IsCoherent)) ∧
    ∀ line, (shell.handleLine setup line).1 = .done outcome →
      ((∃ command, Command.ofLine line = .ok command ∧
        shell.Overlooks setup.policy command) →
        outcome = ⟨"type".toList, .error, 0, false⟩) ∧
      ((∀ command, Command.ofLine line = .ok command →
        ¬ shell.Overlooks setup.policy command) →
        outcome.IsCoherent) := by
  constructor
  · intro command h
    have haccounts := accounts_of_execute h hstays
    exact ⟨haccounts.overlooked, haccounts.coherent⟩
  · intro line h
    have haccounts := accounts_of_handleLine h hstays
    refine ⟨haccounts.overlooked, fun hnot => haccounts.coherent ?_⟩
    rintro ⟨command, hcommand, hoverlooks⟩
    exact hnot command hcommand hoverlooks

/-- A name that no command has, and a directory that does not exist. -/
theorem accounts_of_outcome_nosuch :
    let setup : Setup := ⟨⟨true, true⟩, .collected, []⟩
    let asked : Command := ⟨"type".toList, ["nosuch".toList], []⟩
    (fresh.execute setup asked).1 = .ok ⟨"type".toList, .error, 0, false⟩ ∧
      fresh.Overlooks setup.policy asked ∧
      (fresh.handleLine setup "type nosuch".toList).1 =
        .done ⟨"type".toList, .error, 0, false⟩ ∧
      ¬ (⟨"type".toList, .error, 0, false⟩ : Outcome).IsCoherent ∧
      (fresh.handleLine setup "cd gone".toList).1 =
        .done ⟨"cd".toList, .error, 1, false⟩ ∧
      (⟨"cd".toList, .error, 1, false⟩ : Outcome).IsCoherent := by
  intro setup asked
  have hasked : (fresh.execute setup asked).1 =
      .ok ⟨"type".toList, .error, 0, false⟩ := by
    decide +kernel
  have hline : (fresh.handleLine setup "type nosuch".toList).1 =
      .done ⟨"type".toList, .error, 0, false⟩ := by
    decide +kernel
  have hgone : (fresh.handleLine setup "cd gone".toList).1 =
      .done ⟨"cd".toList, .error, 1, false⟩ := by
    decide +kernel
  have hincoherent :
      ¬ (⟨"type".toList, .error, 0, false⟩ : Outcome).IsCoherent :=
    fun h => absurd (h.ok_iff.2 rfl) (by decide)
  have hcd : ∀ command, Command.ofLine "cd gone".toList = .ok command →
      ¬ fresh.Overlooks setup.policy command := by
    rintro command hcommand ⟨-, _, _, -, htype, -⟩
    have hread : Command.ofLine "cd gone".toList =
        .ok ⟨"cd".toList, ["gone".toList], []⟩ := by
      decide +kernel
    rw [hread] at hcommand
    cases hcommand
    exact absurd htype (by decide)
  obtain ⟨hexecute, -⟩ :=
    accounts_of_outcome fresh setup ⟨"type".toList, .error, 0, false⟩ rfl
  obtain ⟨-, hhandle⟩ :=
    accounts_of_outcome fresh setup ⟨"cd".toList, .error, 1, false⟩ rfl
  have hoverlooks : fresh.Overlooks setup.policy asked := by
    by_contra hnot
    exact hincoherent ((hexecute asked hasked).2 hnot)
  exact ⟨hasked, hoverlooks, hline, hincoherent, hgone, (hhandle _ hgone).2 hcd⟩

end Shell

end LineShell
