import LineShell.Proofs.Lookup.Agreement
import LineShell.Proofs.Shell.Output
import LineShell.Proofs.Volume.Filing

/-!
Redirecting the output of a builtin only moves it.

The file has been made or emptied before the builtin looks at the volume.  But a
builtin asks only for directories and executables, and no answer depends on the
text of a file or on a new file that may not be run
(`Builtin.run_eq_of_refiles`).

Main statement: with its output redirected a builtin comes to the same, changes
the session in the same way and complains in the same words; what it would have
said stands in the file instead, and no other place differs
(`execute_redirected`).
-/
namespace LineShell

namespace Builtin

variable {place : Location} {before after : Machine}

section Refiled

variable (h : before.Refiles place after) (htells : before.TellsOfNew place)
  (session : Session) (arguments : List Text)

include h htells

theorem describe_eq_of_refiles (argument : Text) :
    describe session after argument = describe session before argument := by
  unfold describe
  rw [h.findExecutable_eq htells]

theorem describeAll_eq_of_refiles (known : Bool) :
    describeAll session after known arguments =
      describeAll session before known arguments := by
  induction arguments generalizing known with
  | nil => rfl
  | cons argument rest ih =>
      rw [describeAll, describeAll, describe_eq_of_refiles h htells]
      cases describe session before argument with
      | error refusal => rfl
      | ok described =>
          simp only
          rw [ih]

theorem runCd_eq_of_refiles :
    runCd session after arguments = runCd session before arguments := by
  cases htarget : session.target? (Text.joinWith [' '] arguments) with
  | none => simp only [runCd, htarget]
  | some path =>
      rw [runCd_eq htarget, runCd_eq htarget, h.isDirectory_eq htells]

/-- No builtin does anything else because of a file. -/
theorem run_eq_of_refiles (builtin : Builtin) :
    builtin.run session after arguments =
      builtin.run session before arguments := by
  cases builtin with
  | echo => rfl
  | pwd => rfl
  | exit => rfl
  | cd => exact runCd_eq_of_refiles h htells session arguments
  | type =>
      show runType session after arguments = runType session before arguments
      rw [runType, runType, describeAll_eq_of_refiles h htells]

end Refiled

end Builtin

namespace Shell

/-- Two attempts that come to the same are concluded in the same way, and the
same is reported. -/
theorem execute_alike {shell other : Shell} {setup : Setup}
    {command moved : Command}
    (hname : moved.name = command.name)
    (hresult : (other.attempt setup.policy moved).1 =
      (shell.attempt setup.policy command).1)
    (hreported : (other.attempt setup.policy moved).2.reported =
      (shell.attempt setup.policy command).2.reported) :
    (other.execute setup moved).1 = (shell.execute setup command).1 ∧
      (other.execute setup moved).2.reported =
        (shell.execute setup command).2.reported := by
  unfold execute
  rw [hname]
  generalize other.attempt setup.policy moved = second at hresult hreported ⊢
  generalize shell.attempt setup.policy command = first at hresult hreported ⊢
  obtain ⟨result, after⟩ := first
  obtain ⟨_, later⟩ := second
  cases hresult
  cases result with
  | ok outcome => exact ⟨rfl, hreported⟩
  | error failure =>
      by_cases hsurvived : failure.isReported setup.policy.strictHome = true
      · simp only [hsurvived, if_true, true_and]
        cases setup.reporter with
        | collected => exact congrArg (· ++ [failure.message]) hreported
        | printed => exact hreported
        | displayed => exact hreported
        | hidden => exact hreported
      · simp only [hsurvived]
        exact ⟨rfl, hreported⟩

end Shell

/-- The text that a file keeps when it is opened. -/
def Machine.keptText (machine : Machine) (mode : WriteMode) (place : Location) :
    Text :=
  match mode with
  | .truncate => []
  | .append => machine.volume.content place

namespace Execution

variable {execution : Execution}

namespace Proceeds

/-- A builtin whose targets open gives the shell its session. -/
theorem session_after (h : execution.Proceeds) {builtin : Builtin}
    (hname : Builtin.ofName? execution.command.name = some builtin) :
    execution.after.session = execution.effect.session := by
  obtain ⟨streams, hopen⟩ := h.exists_streams
  have hattempt :
      execution.shell.attempt execution.setup.policy execution.command =
      execution.ready.settle builtin execution.effect streams.output := by
    unfold Shell.attempt
    simp only [h.route, Shell.runBuiltin, hname, Shell.tell_session,
      Shell.tell_machine, hopen]
    rw [effect_of_ofName? hname, ready, Shell.routed, h.route,
      Shell.tell_session]
  rw [after, Shell.execute_session, hattempt]
  exact (Shell.settle_frame _ _ _ _).1

end Proceeds

def redirected (execution : Execution) (mode : WriteMode) (target : Text) :
    Execution :=
  { execution with
    command :=
      { execution.command with redirections := [⟨.output, mode, target⟩] } }

/-- Whether the output of a command can be redirected to a place: the target is
in a directory, it opens there as a file that was there or is new, the system
tells what a new one is, and the file takes the output. -/
structure Receives (execution : Execution) (mode : WriteMode) (target : Text)
    (place : Location) :
    Prop where
  directory : execution.shell.machine.isDirectory
    (execution.shell.session.cwd.join (Path.ofText target)).parent = .ok true
  opens :
    ∃ opened, execution.shell.machine.openTarget execution.shell.session.cwd
    ⟨.output, mode, target⟩ = (.ok ⟨place, mode, 0⟩, opened)
  plain : execution.shell.machine.volume.find? place = none ∨
    execution.shell.machine.volume.IsFile place
  tells : execution.shell.machine.TellsOfNew place
  takes : execution.effect.written ≠ [] →
    execution.shell.machine.volume.refuses (.write place) = none

/-- Whether a command is a call of a builtin that runs inside the shell with
redirections or without, and has none. -/
structure IsCall (execution : Execution) : Prop where
  policy : execution.setup.policy.builtinRedirection = true
  builtin : execution.shell.session.isBuiltin execution.command.name = true
  known : execution.command.name ∈ Builtin.names
  bare : execution.command.redirections = []

namespace IsCall

variable (h : execution.IsCall)

include h

theorem exists_builtin :
    ∃ builtin, Builtin.ofName? execution.command.name = some builtin :=
  Option.isSome_iff_exists.1 (Builtin.ofName?_isSome_iff.2 h.known)

theorem opened_eq : execution.opened = execution.shell.machine := by
  rw [opened, h.bare]
  rfl

/-- The builtin runs inside the shell, whatever is redirected. -/
theorem route {command : Command}
    (hname : command.name = execution.command.name) :
    command.route execution.shell.session execution.setup.policy =
      .builtin := by
  rw [Command.route, hname, h.builtin, h.policy]
  simp

theorem nodup :
    (execution.command.redirections.map Redirection.stream).Nodup := by
  rw [h.bare]
  exact List.nodup_nil

theorem proceeds : execution.Proceeds := by
  refine .of_places [] (h.route rfl) (Builtin.ofName?_isSome_iff.2 h.known) ?_
    ?_ nofun nofun
  · rw [h.bare]
    rfl
  · rw [h.bare]
    exact nofun

end IsCall

namespace Receives

variable {mode : WriteMode} {target : Text} {place : Location}
  (h : execution.Receives mode target place)

include h

/-- No directory is made when the target is opened, only the file is. -/
theorem openTargets_eq :
    execution.shell.machine.openTargets execution.shell.session.cwd .none
      [⟨.output, mode, target⟩] =
        (.ok ⟨some ⟨place, mode, 0⟩, none⟩,
          (execution.redirected mode target).opened) ∧
    execution.shell.machine.openFile
      (execution.shell.session.cwd.join (Path.ofText target)) mode =
        .ok (⟨place, mode, 0⟩, (execution.redirected mode target).opened) := by
  obtain ⟨machine, hopen⟩ := h.opens
  obtain ⟨made, hmade, hfile⟩ := Machine.openTarget_eq_ok hopen
  have hopens :
      execution.shell.machine.openTargets execution.shell.session.cwd .none
      [⟨.output, mode, target⟩] =
        (.ok ⟨some ⟨place, mode, 0⟩, none⟩, machine) := by
    rw [Machine.openTargets, hopen]
    rfl
  have hopened : (execution.redirected mode target).opened = machine :=
    congrArg Prod.snd hopens
  rw [hopened]
  refine ⟨hopens, ?_⟩
  rw [Redirection.path] at hmade hfile
  rw [Machine.makeDirectories_of_isDirectory h.directory] at hmade
  cases hmade
  exact hfile

theorem refiles :
    execution.shell.machine.Refiles place
      (execution.redirected mode target).opened :=
  Machine.refiles_of_openFile h.openTargets_eq.2 h.plain

theorem leadsTo : (execution.redirected mode target).opened.LeadsTo
    (execution.shell.session.cwd.join (Path.ofText target)) place :=
  (Machine.leadsTo_of_openFile h.openTargets_eq.2).1

/-- The place is the only one to which a redirection leads. -/
theorem leads_iff (kind : Redirection → Bool) (location : Location) :
    (execution.redirected mode target).Leads kind location ↔
      kind ⟨.output, mode, target⟩ = true ∧ location = place := by
  constructor
  · rintro ⟨redirection, hmem, hkind, hleads⟩
    cases List.mem_singleton.1 hmem
    exact ⟨hkind, hleads.unique h.leadsTo⟩
  · rintro ⟨hkind, rfl⟩
    exact ⟨_, List.mem_singleton_self _, hkind, h.leadsTo⟩

variable (hcall : execution.IsCall)

include hcall

/-- The builtin does the same with the target open. -/
theorem effect_eq :
    (execution.redirected mode target).effect = execution.effect := by
  obtain ⟨builtin, hname⟩ := hcall.exists_builtin
  have hmoved : Builtin.ofName?
      (execution.redirected mode target).command.name = some builtin :=
    hname
  rw [effect_of_ofName? hmoved, effect_of_ofName? hname, hcall.opened_eq]
  exact Builtin.run_eq_of_refiles h.refiles h.tells _ _ builtin

theorem proceeds : (execution.redirected mode target).Proceeds where
  route := hcall.route rfl
  known := fun _ => Builtin.ofName?_isSome_iff.2 hcall.known
  opens := by
    have hopens := h.openTargets_eq.1
    exact congrArg (fun opened => opened.1.isOk) hopens
  file := by
    intro location htarget
    obtain ⟨-, rfl⟩ := (h.leads_iff _ location).1 htarget
    exact h.refiles.volume.exists_file
  takes := by
    intro location hfills hwritten
    obtain ⟨-, rfl⟩ := (h.leads_iff _ location).1 hfills
    rw [h.effect_eq hcall] at hwritten
    rw [h.refiles.volume.refuses]
    exact h.takes hwritten

theorem result_eq :
    (execution.redirected mode target).result = execution.result ∧
      (execution.redirected mode target).after.reported =
        execution.after.reported := by
  have hplain := hcall.proceeds
  have hmoved := h.proceeds hcall
  refine @Shell.execute_alike execution.shell execution.shell execution.setup
    execution.command
    (execution.redirected mode target).command rfl ?_ ?_
  · have hresult := (hmoved.attempts (List.nodup_singleton _)).result
    rw [h.effect_eq hcall] at hresult
    exact hresult.trans (hplain.attempts hcall.nodup).result.symm
  · exact (Shell.course_attempt _ _ _).reported_eq.trans
      (Shell.course_attempt _ _ _).reported_eq.symm

theorem session_eq :
    (execution.redirected mode target).after.session =
      execution.after.session := by
  obtain ⟨builtin, hname⟩ := hcall.exists_builtin
  rw [hcall.proceeds.session_after hname,
    (h.proceeds hcall).session_after hname, h.effect_eq hcall]

/-- The file holds what the call without redirections says, after what it is
opened to keep. -/
theorem content_eq :
    (execution.redirected mode target).after.machine.volume.IsFile place ∧
      (execution.redirected mode target).after.machine.volume.content place =
        execution.shell.machine.keptText mode place ++
          execution.effect.written := by
  have hmoved := h.proceeds hcall
  have hdistinct := List.nodup_singleton Stream.output
  have hfills : (execution.redirected mode target).Fills place :=
    (h.leads_iff _ place).2 ⟨rfl, rfl⟩
  refine ⟨(hmoved.isFile_after hdistinct place).2
    (Or.inr (targets_of_leads hfills)), ?_⟩
  rw [hmoved.content_after hdistinct, output, if_pos hfills, h.effect_eq hcall]
  cases mode with
  | truncate =>
      have hempties : (execution.redirected .truncate target).Empties place :=
        (h.leads_iff _ place).2 ⟨rfl, rfl⟩
      rw [if_pos hempties]
      rfl
  | append =>
      have hkeeps : ¬ (execution.redirected .append target).Empties place := by
        intro hempties
        cases ((h.leads_iff _ place).1 hempties).1
      rw [if_neg hkeeps]
      rfl

/-- No other place differs. -/
theorem elsewhere_eq {other : Location} (hother : other ≠ place) :
    (execution.redirected mode target).after.machine.volume.find? other =
      execution.after.machine.volume.find? other := by
  have hmoved :=
    ((h.proceeds hcall).appends (List.nodup_singleton _)).frame other
    fun hfills => hother ((h.leads_iff _ other).1 hfills).2
  have hplain :=
    (hcall.proceeds.appends hcall.nodup).frame other fun hfills => by
    obtain ⟨redirection, hmem, -⟩ := hfills
    rw [hcall.bare] at hmem
    cases hmem
  rw [hmoved, hplain, h.refiles.volume.elsewhere other hother, hcall.opened_eq]

theorem complaint_eq :
    (execution.redirected mode target).complaint = execution.complaint := by
  unfold complaint
  rw [h.effect_eq hcall]
  rfl

theorem events_eq :
    (execution.redirected mode target).events = execution.events := by
  unfold events
  rw [h.effect_eq hcall]
  rfl

end Receives

/-- Redirecting the output of a builtin only moves it: the command comes to the
same and leaves the same session and the same reports; without the redirection
it says its output and its complaint, and with it only the complaint; the output
stands in the file, after the old text if that is kept, and no other place
differs. -/
theorem execute_redirected (execution : Execution) (mode : WriteMode)
    (target : Text) (place : Location) (hcall : execution.IsCall)
    (h : execution.Receives mode target place) :
    let moved := execution.redirected mode target
    moved.result = execution.result ∧
      moved.after.session = execution.after.session ∧
      moved.after.reported = execution.after.reported ∧
      Shell.Prints (execution.effect.written ++ execution.complaint)
        (execution.shell.journal.text execution.events) execution.shell
          execution.after ∧
      Shell.Prints execution.complaint
        (execution.shell.journal.text execution.events) execution.shell
          moved.after ∧
      moved.after.machine.LeadsTo
        (execution.shell.session.cwd.join (Path.ofText target)) place ∧
      moved.after.machine.volume.IsFile place ∧
      moved.after.machine.volume.content place =
        execution.shell.machine.keptText mode place ++
          execution.effect.written ∧
      ∀ other, other ≠ place →
        moved.after.machine.volume.find? other =
          execution.after.machine.volume.find? other := by
  intro moved
  have hdistinct : (moved.command.redirections.map Redirection.stream).Nodup :=
    List.nodup_singleton _
  have hmoved := h.proceeds hcall
  have hprints := hcall.proceeds.prints hcall.nodup
  have hcomplains := hmoved.prints hdistinct
  have hspoken : execution.spoken = execution.effect.written := by
    rw [spoken, hcall.bare]
    exact if_pos fun redirection hmem => absurd hmem List.not_mem_nil
  have hsilent : moved.spoken = [] :=
    if_neg fun hnot =>
      hnot ⟨.output, mode, target⟩ (List.mem_singleton_self _) rfl
  rw [hspoken] at hprints
  rw [hsilent, h.complaint_eq hcall, h.events_eq hcall] at hcomplains
  obtain ⟨hresult, hreported⟩ := h.result_eq hcall
  obtain ⟨hfile, hcontent⟩ := h.content_eq hcall
  refine ⟨hresult, h.session_eq hcall, hreported, hprints, hcomplains, ?_,
    hfile, hcontent, ?_⟩
  · exact (hmoved.appends hdistinct).grows.leadsTo h.leadsTo
  · intro other hother
    exact h.elsewhere_eq hcall hother

/-- The file is made in a directory of the search path under a name that is
asked for. -/
theorem execute_redirected_search_path :
    let execution : Execution := ⟨Shell.cluttered, ⟨⟨true, true⟩, .printed, []⟩,
      ⟨"type".toList, ["out".toList, "ls".toList], []⟩⟩
    let moved := execution.redirected .truncate "/bin/out".toList
    let place : Location := ["bin".toList, "out".toList]
    execution.IsCall ∧ execution.Receives .truncate "/bin/out".toList place ∧
      execution.after.console.output =
        "out: not found\nls is /bin/ls\n".toList ∧
      moved.result = execution.result ∧
      moved.after.console.output = [] ∧
      moved.after.machine.volume.content place =
        "out: not found\nls is /bin/ls\n".toList := by
  intro execution moved place
  have hcall : execution.IsCall := ⟨rfl, by decide, by decide, rfl⟩
  have hreceives : execution.Receives .truncate "/bin/out".toList place := by
    refine ⟨by decide +kernel, ⟨_, rfl⟩, Or.inl rfl, ?_, fun _ => rfl⟩
    intro _ error hrefused
    cases hrefused
  have hwritten :
      execution.effect.written = "out: not found\nls is /bin/ls\n".toList := by
    decide +kernel
  have hcomplaint : execution.complaint = [] := by decide +kernel
  obtain ⟨hresult, -, -, hprints, hcomplains, -, -, hcontent, -⟩ :=
    execute_redirected execution .truncate "/bin/out".toList place hcall
      hreceives
  refine ⟨hcall, hreceives, ?_, hresult, ?_, ?_⟩
  · rw [hprints.output, hwritten, hcomplaint]
    rfl
  · rw [hcomplains.output, hcomplaint]
    rfl
  · rw [hcontent, hwritten]
    rfl

end Execution

end LineShell
