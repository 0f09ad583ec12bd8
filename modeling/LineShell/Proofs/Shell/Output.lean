import LineShell.Proofs.Command.Placement
import LineShell.Proofs.Shell.History
import LineShell.Proofs.Volume.Storing

/-!
Where the output of a command that runs inside the shell goes.

Main statements: a command says its output if that is not redirected
(`Proceeds.prints`), and else the output comes after what a file holds, which
may have been emptied before (`Proceeds.content_after`); any other place is
spared, but for directories above targets (`Proceeds.spares_after`).
-/
namespace LineShell

namespace Execution

variable (execution : Execution)

/-- The machine with the targets of the command open. -/
def opened : Machine :=
  (execution.shell.machine.openTargets execution.shell.session.cwd .none
    execution.command.redirections).2

/-- What the builtin does that the command names. -/
def effect : Effect :=
  Builtin.call execution.command.name execution.shell.session execution.opened
    execution.command.arguments

/-- Whether a redirection of the given kind leads to a place, seen from the
directory in which the command is executed. -/
def Leads (kind : Redirection → Bool) (location : Location) : Prop :=
  ∃ redirection ∈ execution.command.redirections, kind redirection = true ∧
    execution.opened.LeadsTo (redirection.path execution.shell.session.cwd)
      location

/-- Whether a place is a target of the command. -/
def Targets : Location → Prop := execution.Leads fun _ => true

/-- Whether the command empties what is at a place. -/
def Empties : Location → Prop :=
  execution.Leads fun redirection => redirection.mode = .truncate

/-- Whether the output of the command goes to a place. -/
def Fills : Location → Prop :=
  execution.Leads fun redirection => redirection.stream = .output

instance (kind : Redirection → Bool) (location : Location) :
    Decidable (execution.Leads kind location) :=
  List.decidableBEx _ _

instance (location : Location) : Decidable (execution.Targets location) :=
  inferInstanceAs (Decidable (execution.Leads _ location))

instance (location : Location) : Decidable (execution.Empties location) :=
  inferInstanceAs (Decidable (execution.Leads _ location))

instance (location : Location) : Decidable (execution.Fills location) :=
  inferInstanceAs (Decidable (execution.Leads _ location))

/-- What the command adds to the text of a file. -/
def output (location : Location) : Text :=
  if execution.Fills location then execution.effect.written else []

/-- The message of the failure of the command, as it is seen on standard
output. -/
def complaint : Text :=
  match execution.effect.result with
  | .ok _ => []
  | .error failure =>
    if failure.isReported execution.setup.policy.strictHome then
      execution.setup.reporter.text failure.message
    else []

/-- The output of the command that is not redirected. -/
def spoken : Text :=
  if ∀ redirection ∈ execution.command.redirections,
    redirection.stream ≠ .output then
    execution.effect.written
  else []

/-- What the shell tells about the command. -/
def events : List Event :=
  .routed execution.command.name .builtin ::
    match Builtin.ofName? execution.command.name with
    | some builtin =>
        builtin.events execution.shell.session.cwd execution.effect
    | none => []

/-- Whether a command runs inside the shell, and its targets open as files that
take its output. -/
structure Proceeds : Prop where
  route : execution.command.route execution.shell.session
    execution.setup.policy = .builtin
  /-- A name that counts as a builtin and is none opens nothing. -/
  known : execution.command.redirections ≠ [] →
    (Builtin.ofName? execution.command.name).isSome = true
  opens : (execution.shell.machine.openTargets execution.shell.session.cwd .none
    execution.command.redirections).1.isOk = true
  file : ∀ location, execution.Targets location →
    execution.opened.volume.IsFile location
  takes : ∀ location, execution.Fills location → execution.effect.written ≠ [] →
    execution.opened.volume.refuses (.write location) = none

/-- What an attempt to execute the command comes to. -/
structure Attempts (result : Except Failure Outcome) (after : Shell) :
    Prop where
  result : result = execution.effect.result
  prints : Shell.Prints execution.spoken
    (execution.shell.journal.text execution.events)
    execution.shell after
  appends : Machine.Appends execution.Fills execution.effect.written
    execution.opened after.machine

variable {execution}

theorem effect_of_ofName? {builtin : Builtin}
    (h : Builtin.ofName? execution.command.name = some builtin) :
    execution.effect = builtin.run execution.shell.session execution.opened
      execution.command.arguments := by
  simp only [effect, Builtin.call, h]

theorem targets_of_leads {kind : Redirection → Bool} {location : Location}
    (h : execution.Leads kind location) : execution.Targets location := by
  obtain ⟨redirection, hmem, -, hleads⟩ := h
  exact ⟨redirection, hmem, rfl, hleads⟩

/-- The shell in which the builtin runs. -/
def ready (execution : Execution) : Shell :=
  { execution.shell.routed execution.setup.policy execution.command with
    machine := execution.opened }

theorem ready_session : execution.ready.session = execution.shell.session :=
  Shell.tell_session _ _

theorem prints_ready
    (hroute : execution.command.route execution.shell.session
      execution.setup.policy = .builtin) :
    Shell.Prints []
      (execution.shell.journal.text [.routed execution.command.name .builtin])
      execution.shell execution.ready := by
  have htold :=
    execution.shell.prints_tell (.routed execution.command.name .builtin)
  rw [← hroute] at htold ⊢
  exact ⟨htold.output, htold.errors, htold.journal⟩

namespace Proceeds

theorem of_places (places : List Location)
    (hroute : execution.command.route execution.shell.session
      execution.setup.policy = .builtin)
    (hknown : (Builtin.ofName? execution.command.name).isSome = true)
    (hopens : (execution.shell.machine.openTargets execution.shell.session.cwd
      .none
      execution.command.redirections).1.isOk = true)
    (hleads : ∀ redirection ∈ execution.command.redirections, ∃ place ∈ places,
      execution.opened.LeadsTo (redirection.path execution.shell.session.cwd)
      place)
    (hfile : ∀ place ∈ places, execution.opened.volume.IsFile place)
    (htakes : ∀ place ∈ places,
      execution.opened.volume.refuses (.write place) = none) :
    execution.Proceeds := by
  have hplaces : ∀ location, execution.Targets location →
      location ∈ places := by
    rintro location ⟨redirection, hmem, -, hlocation⟩
    obtain ⟨place, hplace, hthere⟩ := hleads redirection hmem
    rw [hlocation.unique hthere]
    exact hplace
  refine ⟨hroute, fun _ => hknown, hopens, fun location htarget => ?_,
    fun location hfills _ => ?_⟩
  · exact hfile location (hplaces location htarget)
  · exact htakes location (hplaces location (targets_of_leads hfills))

theorem exists_streams (h : execution.Proceeds) :
    ∃ streams,
      execution.shell.machine.openTargets execution.shell.session.cwd .none
      execution.command.redirections = (.ok streams, execution.opened) := by
  have hopens := h.opens
  unfold opened
  generalize execution.shell.machine.openTargets execution.shell.session.cwd
    .none
    execution.command.redirections = result at hopens ⊢
  obtain ⟨failure | streams, after⟩ := result
  · cases hopens
  · exact ⟨streams, rfl⟩

/-- A name that is no builtin does nothing at all. -/
theorem attempts_unknown (h : execution.Proceeds)
    (hname : Builtin.ofName? execution.command.name = none) :
    execution.Attempts (.error (.unknownBuiltin execution.command.name))
      (execution.shell.routed execution.setup.policy execution.command) := by
  have hnone : execution.command.redirections = [] := by
    by_cases hempty : execution.command.redirections = []
    · exact hempty
    · have hknown := h.known hempty
      rw [hname] at hknown
      cases hknown
  have heffect : execution.effect =
      ⟨[], execution.shell.session,
        .error (.unknownBuiltin execution.command.name)⟩ := by
    simp only [effect, Builtin.call, hname]
  have hevents :
      execution.events = [.routed execution.command.name .builtin] := by
    simp only [events, hname]
  have hopened : execution.opened = execution.shell.machine := by
    simp only [opened, hnone, Machine.openTargets]
  have hmachine : (execution.shell.routed execution.setup.policy
      execution.command).machine =
      execution.shell.machine := Shell.tell_machine _ _
  have hprints := prints_ready h.route
  refine ⟨by rw [heffect], ?_, ?_⟩
  · rw [spoken, heffect, hevents, ite_self]
    exact ⟨hprints.output, hprints.errors, hprints.journal⟩
  · rw [hopened, hmachine]
    refine .refl _ fun location => ?_
    rintro ⟨redirection, hmem, -⟩
    rw [hnone] at hmem
    cases hmem

end Proceeds

section Opened

variable {streams : Streams}

/-- The output goes to where the redirection of that stream leads. -/
theorem output_cases
    (hdistinct : (execution.command.redirections.map Redirection.stream).Nodup)
    (hopen : execution.shell.machine.openTargets execution.shell.session.cwd
      .none
      execution.command.redirections = (.ok streams, execution.opened)) :
    (streams.output = none ∧
      ∀ redirection ∈ execution.command.redirections,
        redirection.stream ≠ .output) ∨
    ∃ redirection ∈ execution.command.redirections,
      redirection.stream = .output ∧
      ∃ location, streams.output = some ⟨location, redirection.mode, 0⟩ ∧
        execution.opened.LeadsTo (redirection.path execution.shell.session.cwd)
          location ∧
        ∀ other, execution.Fills other ↔ other = location := by
  rcases Machine.output_of_openTargets hopen with
    hnone | ⟨redirection, hmem, hstream, location, houtput, hleads⟩
  · exact Or.inl hnone
  · refine Or.inr ⟨redirection, hmem, hstream, location, houtput, hleads,
      fun other => ?_⟩
    constructor
    · rintro ⟨filling, hfilling, hkind, hother⟩
      have hsame : filling = redirection :=
        List.inj_on_of_nodup_map hdistinct hfilling hmem
          ((of_decide_eq_true hkind).trans hstream.symm)
      rw [hsame] at hother
      exact hother.unique hleads
    · rintro rfl
      exact ⟨redirection, hmem, decide_eq_true hstream, hleads⟩

theorem content_of_empties
    (hopen : execution.shell.machine.openTargets execution.shell.session.cwd
      .none
      execution.command.redirections = (.ok streams, execution.opened))
    {location : Location} (h : execution.Empties location) :
    execution.opened.volume.content location = [] := by
  obtain ⟨redirection, hmem, hmode, hleads⟩ := h
  exact Machine.content_of_openTargets_truncate hopen hmem
    (of_decide_eq_true hmode) hleads

end Opened

/-- What the shell says when it runs a builtin. -/
theorem prints_settle {builtin : Builtin} (output : Option Handle)
    (hroute : execution.command.route
      execution.shell.session execution.setup.policy = .builtin)
    (hname : Builtin.ofName? execution.command.name = some builtin) :
    Shell.Prints (if output.isNone then execution.effect.written else [])
      (execution.shell.journal.text execution.events) execution.shell
      (execution.ready.settle builtin execution.effect output).2 := by
  have hready := prints_ready hroute
  have hevents : execution.events = [.routed execution.command.name .builtin] ++
      builtin.events execution.shell.session.cwd execution.effect := by
    simp only [events, hname]
    rfl
  have hboth :=
    hready.trans (execution.ready.prints_settle builtin execution.effect output)
  rw [List.nil_append, hready.journal, ready_session] at hboth
  rw [hevents, Journal.text_append]
  exact hboth

namespace Proceeds

theorem touches (h : execution.Proceeds) :
    Machine.Touches
      (Machine.aboveTargets execution.shell.session.cwd
        execution.command.redirections)
      (Machine.targets execution.shell.session.cwd
        execution.command.redirections)
      execution.shell.machine execution.opened := by
  obtain ⟨streams, hopen⟩ := h.exists_streams
  exact Machine.touches_of_openTargets hopen

/-- While targets are opened, what is no target is spared, but for directories
above targets. -/
theorem spares_opened (h : execution.Proceeds) {location : Location}
    (hnot : ¬ execution.Targets location) :
    Machine.Spares
      (Machine.aboveTargets execution.shell.session.cwd
        execution.command.redirections)
      execution.shell.machine execution.opened location := by
  refine h.touches.spares ?_
  rintro path mode ⟨redirection, hmem, rfl, -⟩ hleads
  exact hnot ⟨redirection, hmem, rfl, hleads⟩

variable (h : execution.Proceeds)
  (hdistinct : (execution.command.redirections.map Redirection.stream).Nodup)

include h hdistinct

/-- The builtin runs with its targets open, and its output, if it is redirected,
comes after what the file holds then. -/
theorem attempts_builtin {builtin : Builtin} {streams : Streams}
    (hname : Builtin.ofName? execution.command.name = some builtin)
    (hopen : execution.shell.machine.openTargets execution.shell.session.cwd
      .none
      execution.command.redirections = (.ok streams, execution.opened)) :
    execution.Attempts
      (execution.ready.settle builtin execution.effect streams.output).1
      (execution.ready.settle builtin execution.effect streams.output).2 := by
  have hprints := prints_settle streams.output h.route hname
  rcases output_cases hdistinct hopen with
    ⟨hnone, hnot⟩ | ⟨redirection, hmem, hstream, location, houtput, hleads,
      hfills⟩
  · rw [hnone] at hprints ⊢
    obtain ⟨hresult, hmachine⟩ :=
      execution.ready.settle_none builtin execution.effect
    refine ⟨hresult, ?_, ?_⟩
    · rw [spoken, if_pos hnot]
      exact hprints
    · rw [hmachine]
      refine .refl _ fun location => ?_
      rintro ⟨redirection, hmem, hkind, -⟩
      exact hnot redirection hmem (of_decide_eq_true hkind)
  · -- The file is empty by now if this redirection, or that of the other
    -- stream, empties it; what matters for the position is only whether this
    -- one does.
    have hfilled : execution.Fills location := (hfills location).2 rfl
    have hfile := h.file location (targets_of_leads hfilled)
    have hempty : redirection.mode = .truncate →
        execution.opened.volume.content location = [] :=
      fun hmode => content_of_empties hopen ⟨redirection, hmem,
        decide_eq_true hmode, hleads⟩
    obtain ⟨moved, machine, hwrite⟩ :=
      Machine.write_of_isFile hfile (h.takes location hfilled)
      redirection.mode 0
    obtain ⟨hresult, hmachine⟩ :=
      @Shell.settle_of_write execution.ready builtin _ _ _ _ hwrite
    rw [houtput] at hprints ⊢
    refine ⟨hresult, ?_, ?_⟩
    · rw [spoken, if_neg fun hnot => hnot redirection hmem hstream]
      exact hprints
    · have hsame : execution.Fills = fun other => other = location :=
        funext fun other => propext (hfills other)
      rw [hmachine, hsame]
      exact Machine.write_appends hwrite hfile rfl hempty

/-- Whatever the command is, it opens its targets, and its output comes after
what they hold. -/
theorem attempts :
    execution.Attempts
      (execution.shell.attempt execution.setup.policy execution.command).1
      (execution.shell.attempt execution.setup.policy execution.command).2 := by
  have hcourse :=
    execution.shell.course_attempt execution.setup.policy execution.command
  obtain ⟨streams, hopen⟩ := h.exists_streams
  generalize (execution.shell.attempt execution.setup.policy
    execution.command).1 = result
    at hcourse ⊢
  generalize (execution.shell.attempt execution.setup.policy
    execution.command).2 = after
    at hcourse ⊢
  have hinside : ∀ {P : Prop}, execution.command.route execution.shell.session
      execution.setup.policy = .external → P := by
    intro P hroute
    rw [h.route] at hroute
    cases hroute
  cases hcourse with
  | unknown hroute hname => exact h.attempts_unknown hname
  | builtinUnopened hroute hname hunopened =>
      rw [hopen] at hunopened
      cases hunopened
  | builtin hroute hname hopened hsettle =>
      rw [hopen] at hopened
      cases hopened
      rw [← effect_of_ofName? hname] at hsettle
      have hattempts := h.attempts_builtin hdistinct hname hopen
      rw [ready, hsettle] at hattempts
      exact hattempts
  | obscured hroute => exact hinside hroute
  | notFound hroute => exact hinside hroute
  | programUnopened hroute => exact hinside hroute
  | program hroute => exact hinside hroute

/-- What is said is the output, if it is not redirected, and the message of a
failure. -/
theorem prints :
    Shell.Prints (execution.spoken ++ execution.complaint)
      (execution.shell.journal.text execution.events) execution.shell
        execution.after := by
  have hattempts := h.attempts hdistinct
  have hprints := hattempts.prints
  rcases execution.shell.execute_cases execution.setup execution.command with
    ⟨outcome, hattempt, hexecute⟩ | ⟨failure, hattempt, hexecute⟩
  · have hresult := hattempts.result.symm.trans hattempt
    rw [complaint, hresult, List.append_nil, after, hexecute]
    exact hprints
  · have hresult := hattempts.result.symm.trans hattempt
    rw [complaint, hresult, after, hexecute]
    by_cases hreported :
      failure.isReported execution.setup.policy.strictHome = true
    · simp only [hreported, if_true]
      have hboth := hprints.trans
          (Shell.prints_report _ execution.setup.reporter failure.message)
      rw [List.append_nil] at hboth
      exact hboth
    · simp only [hreported]
      rw [if_neg Bool.false_ne_true, List.append_nil]
      exact hprints

theorem appends :
    Machine.Appends execution.Fills execution.effect.written execution.opened
      execution.after.machine := by
  rw [after, Shell.execute_machine]
  exact (h.attempts hdistinct).appends

theorem grows :
    execution.shell.machine.Grows execution.after.machine :=
  h.touches.grows.trans (h.appends hdistinct).grows

/-- A command empties a file, or does not, and then its output comes after what
the file holds. -/
theorem content_after (location : Location) :
    execution.after.machine.volume.content location =
      (if execution.Empties location then []
        else execution.shell.machine.volume.content location) ++
          execution.output location := by
  have happends := h.appends hdistinct
  obtain ⟨streams, hopen⟩ := h.exists_streams
  have hopened : execution.opened.volume.content location =
      if execution.Empties location then []
      else execution.shell.machine.volume.content location := by
    by_cases hempties : execution.Empties location
    · rw [if_pos hempties]
      exact content_of_empties hopen hempties
    · rw [if_neg hempties]
      rcases Machine.content_of_openTargets hopen location with
        hsame | ⟨-, redirection, hmem, hmode, hleads⟩
      · exact hsame
      · exact absurd ⟨redirection, hmem, decide_eq_true hmode, hleads⟩ hempties
  rw [← hopened, output]
  by_cases hfills : execution.Fills location
  · rw [if_pos hfills]
    exact happends.content_of_filled hfills
  · rw [if_neg hfills, List.append_nil]
    exact happends.content_of_not_filled hfills

/-- The files after a command are those before it and its targets. -/
theorem isFile_after (location : Location) :
    execution.after.machine.volume.IsFile location ↔
      execution.shell.machine.volume.IsFile location ∨
        execution.Targets location := by
  rw [(h.appends hdistinct).isFile_iff]
  constructor
  · rintro ⟨content, executable, hfound⟩
    by_cases htarget : execution.Targets location
    · exact Or.inr htarget
    · left
      rcases h.spares_opened htarget with hsame | ⟨-, hmade, -⟩
      · exact ⟨content, executable, hsame.symm.trans hfound⟩
      · rw [hfound] at hmade
        cases hmade
  · rintro (hfile | htarget)
    · exact h.touches.grows.volume.isFile hfile
    · exact h.file location htarget

/-- What is no target is spared, but for directories above targets. -/
theorem spares_after {location : Location}
    (hnot : ¬ execution.Targets location) :
    Machine.Spares
      (Machine.aboveTargets execution.shell.session.cwd
        execution.command.redirections)
      execution.shell.machine execution.after.machine location := by
  have happends := h.appends hdistinct
  have hframe :=
    happends.frame location fun hfills => hnot (targets_of_leads hfills)
  exact (h.spares_opened hnot).trans happends.grows (Or.inl hframe)

end Proceeds

end Execution

end LineShell
