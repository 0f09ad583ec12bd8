import LineShell.Builtin

/-!
Why a command fails: which look-ups the system does not answer, and what a
builtin fails of.
-/
namespace LineShell

namespace Machine

/-- Whether the first directory in which a look-up of an executable gets an
answer other than no is one where the system does not answer. -/
inductive Obscured (machine : Machine) (name : Text) (refusal : Refusal) :
    List Text → Prop where
  | here {directory : Text} {rest : List Text}
      (hexamine : machine.examine
        ((Path.ofText directory).join (Path.ofText name)) =
        .error refusal)
      (hvisible : refusal.isAbsence = false) :
      Obscured machine name refusal (directory :: rest)
  | later {directory : Text} {rest : List Text}
      (hother : machine.isExecutable
        ((Path.ofText directory).join (Path.ofText name)) = .ok false)
      (hrest : Obscured machine name refusal rest) :
      Obscured machine name refusal (directory :: rest)

variable {machine : Machine} {name : Text} {refusal : Refusal}
  {directories : List Text}

theorem test_eq_error_iff {holds : Node → Bool} {path : Path} :
    machine.test holds path = .error refusal ↔
      machine.examine path = .error refusal ∧ refusal.isAbsence = false := by
  unfold test
  cases machine.examine path with
  | ok found => simp
  | error other =>
      by_cases habsence : other.isAbsence = true
      · have hne : other = refusal → refusal.isAbsence = true :=
          fun heq => heq ▸ habsence
        simp only [habsence, if_true, reduceCtorEq, false_iff,
          Except.error.injEq]
        rintro ⟨heq, hfalse⟩
        rw [hne heq] at hfalse
        cases hfalse
      · have heq : other = refusal → refusal.isAbsence = false := by
          rintro rfl
          exact Bool.eq_false_iff.2 habsence
        simp only [habsence, Bool.false_eq_true, if_false, Except.error.injEq]
        exact ⟨fun h => ⟨h, heq h⟩, fun h => h.1⟩

theorem findIn_eq_error_iff :
    machine.findIn name directories = .error refusal ↔
      machine.Obscured name refusal directories := by
  induction directories with
  | nil =>
      constructor
      · intro h
        cases h
      · intro h
        cases h
  | cons directory rest ih =>
      have hstep : machine.findIn name (directory :: rest) = .error refusal ↔
          machine.isExecutable
            ((Path.ofText directory).join (Path.ofText name)) =
              .error refusal ∨
            machine.isExecutable
              ((Path.ofText directory).join (Path.ofText name)) = .ok false ∧
              machine.findIn name rest = .error refusal := by
        rw [findIn]
        cases machine.isExecutable
          ((Path.ofText directory).join (Path.ofText name)) with
        | error other => simp [bind, Except.bind]
        | ok found => cases found <;>
            simp [bind, Except.bind, pure, Except.pure]
      rw [hstep, ih, isExecutable, test_eq_error_iff]
      constructor
      · rintro (⟨hexamine, hvisible⟩ | ⟨hother, hrest⟩)
        · exact .here hexamine hvisible
        · exact .later hother hrest
      · intro h
        cases h with
        | here hexamine hvisible => exact Or.inl ⟨hexamine, hvisible⟩
        | later hother hrest => exact Or.inr ⟨hother, hrest⟩

/-- A look-up fails exactly if the system does not answer where the answer
counts. -/
theorem findExecutable_eq_error_iff :
    machine.findExecutable name directories = .error refusal ↔
      isCommandName name = true ∧
        machine.Obscured name refusal directories := by
  unfold findExecutable
  rw [← findIn_eq_error_iff]
  split
  · rename_i hname
    exact ⟨fun h => ⟨hname, h⟩, fun h => h.2⟩
  · rename_i hname
    constructor
    · intro h
      cases h
    · intro h
      exact absurd h.1 hname

end Machine

namespace Builtin

variable {session : Session} {machine : Machine} {arguments : List Text}

/-- Whether the system does not answer what a command with this name would
run. -/
def Unanswered (session : Session) (machine : Machine) (refusal : Refusal)
    (argument : Text) : Prop :=
  session.isBuiltin argument = false ∧ Machine.isCommandName argument = true ∧
    machine.Obscured argument refusal session.searchPath

theorem describe_eq_error_iff {argument : Text} {refusal : Refusal} :
    describe session machine argument = .error refusal ↔
      Unanswered session machine refusal argument := by
  unfold describe Unanswered
  rw [← Machine.findExecutable_eq_error_iff]
  cases hbuiltin : session.isBuiltin argument with
  | true => simp
  | false =>
      cases machine.findExecutable argument session.searchPath with
      | error other => simp [Except.map]
      | ok found => simp [Except.map]

/-- Describing names fails at the first name that the system does not answer
for. -/
theorem describeAll_eq_error_iff {known : Bool} {refusal : Refusal} :
    (describeAll session machine known arguments).2 = .error refusal ↔
      ∃ before argument after, arguments = before ++ argument :: after ∧
        (∀ other ∈ before, ∀ cause, ¬ Unanswered session machine cause other) ∧
        Unanswered session machine refusal argument := by
  induction arguments generalizing known with
  | nil => simp [describeAll]
  | cons first rest ih =>
      unfold describeAll
      cases hfirst : describe session machine first with
      | error cause =>
          have hunanswered := describe_eq_error_iff.1 hfirst
          constructor
          · intro h
            cases h
            exact ⟨[], first, rest, rfl, by simp, hunanswered⟩
          · rintro ⟨before, argument, after, harguments, hbefore, hargument⟩
            cases before with
            | nil =>
                cases harguments
                rw [describe_eq_error_iff.2 hargument] at hfirst
                cases hfirst
                rfl
            | cons other before =>
                cases harguments
                exact absurd hunanswered (hbefore _ List.mem_cons_self cause)
      | ok described =>
          have hanswered :
              ∀ cause, ¬ Unanswered session machine cause first := by
            intro cause hcause
            rw [describe_eq_error_iff.2 hcause] at hfirst
            cases hfirst
          refine Iff.trans (@ih (known && described.2)) ?_
          constructor
          · rintro ⟨before, argument, after, rfl, hbefore, hargument⟩
            refine ⟨first :: before, argument, after, rfl, ?_, hargument⟩
            intro other hother
            rcases List.mem_cons.1 hother with rfl | hother
            · exact hanswered
            · exact hbefore other hother
          · rintro ⟨before, argument, after, harguments, hbefore, hargument⟩
            cases before with
            | nil =>
                cases harguments
                exact absurd hargument (hanswered refusal)
            | cons other before =>
                cases harguments
                exact ⟨before, argument, after, rfl, fun other hother =>
                  hbefore other (List.mem_cons_of_mem _ hother), hargument⟩

/-- Why a builtin fails. -/
inductive Fails (session : Session) (machine : Machine)
    (arguments : List Text) :
    Builtin → Failure → Prop where
  /-- The directory is to be found from the home directory, and none is set. -/
  | home (htarget : session.target? (Text.joinWith [' '] arguments) = none) :
      Fails session machine arguments .cd .homeNotSet
  /-- There is no directory. -/
  | missing {path : Path}
      (htarget : session.target? (Text.joinWith [' '] arguments) = some path)
      (hmissing : machine.isDirectory path = .ok false) :
      Fails session machine arguments .cd
        (.noDirectory (Text.joinWith [' '] arguments))
  /-- The system does not tell whether there is a directory. -/
  | directory {path : Path} {refusal : Refusal}
      (htarget : session.target? (Text.joinWith [' '] arguments) = some path)
      (hexamine : machine.examine path = .error refusal)
      (hvisible : refusal.isAbsence = false) :
      Fails session machine arguments .cd (.refused refusal)
  /-- The system does not tell what a name would run. -/
  | type {before after : List Text} {argument : Text} {refusal : Refusal}
      (harguments : arguments = before ++ argument :: after)
      (hbefore : ∀ other ∈ before, ∀ cause,
        ¬ Unanswered session machine cause other)
      (hargument : Unanswered session machine refusal argument) :
      Fails session machine arguments .type (.refused refusal)

/-- Only `cd` fails of anything but a request to the system. -/
theorem Fails.refused_or_cd {builtin : Builtin} {failure : Failure}
    (h : Fails session machine arguments builtin failure) :
    (∃ refusal, failure = .refused refusal) ∨
      builtin = .cd ∧
      (failure = .homeNotSet ∨
        ∃ argument, failure = .noDirectory argument) := by
  cases h with
  | home => exact Or.inr ⟨rfl, Or.inl rfl⟩
  | missing => exact Or.inr ⟨rfl, Or.inr ⟨_, rfl⟩⟩
  | directory => exact Or.inl ⟨_, rfl⟩
  | type => exact Or.inl ⟨_, rfl⟩

/-- What `cd` does with the directory that its arguments mean. -/
theorem runCd_eq {path : Path}
    (htarget : session.target? (Text.joinWith [' '] arguments) = some path) :
    runCd session machine arguments =
      match machine.isDirectory path with
      | .ok true => ⟨[], { session with cwd := path },
          .ok (Outcome.success Builtin.cd.name)⟩
      | .ok false =>
          ⟨[], session, .error (.noDirectory (Text.joinWith [' '] arguments))⟩
      | .error refusal => ⟨[], session, .error (.refused refusal)⟩ := by
  simp only [runCd, htarget, Machine.isDirectory, Machine.test]
  cases machine.examine path with
  | error refusal => cases habsence : refusal.isAbsence <;> simp [habsence]
  | ok found =>
      obtain ⟨location, node⟩ := found
      cases node <;> rfl

/-- A failing `cd` writes nothing and leaves the session as it is. -/
theorem runCd_eq_of_error {failure : Failure}
    (h : (runCd session machine arguments).result = .error failure) :
    runCd session machine arguments = ⟨[], session, .error failure⟩ := by
  cases htarget : session.target? (Text.joinWith [' '] arguments) with
  | none =>
      simp only [runCd, htarget] at h ⊢
      rw [h]
  | some path =>
      rw [runCd_eq htarget] at h ⊢
      cases hdirectory : machine.isDirectory path with
      | error refusal =>
          rw [hdirectory] at h
          rw [← h]
      | ok found =>
          rw [hdirectory] at h
          cases found with
          | true => cases h
          | false => rw [← h]

theorem runCd_result_eq_error_iff {failure : Failure} :
    (runCd session machine arguments).result = .error failure ↔
      Fails session machine arguments .cd failure := by
  constructor
  · intro h
    cases htarget : session.target? (Text.joinWith [' '] arguments) with
    | none =>
        simp only [runCd, htarget] at h
        cases h
        exact .home htarget
    | some path =>
        rw [runCd_eq htarget] at h
        cases hdirectory : machine.isDirectory path with
        | error refusal =>
            rw [hdirectory] at h
            cases h
            obtain ⟨hexamine, hvisible⟩ :=
              Machine.test_eq_error_iff.1 hdirectory
            exact .directory htarget hexamine hvisible
        | ok found =>
            rw [hdirectory] at h
            cases found with
            | true => cases h
            | false =>
                cases h
                exact .missing htarget hdirectory
  · intro h
    cases h with
    | home htarget => simp only [runCd, htarget]
    | missing htarget hmissing => simp only [runCd_eq htarget, hmissing]
    | @directory path refusal htarget hexamine hvisible =>
        have hrefusal : machine.isDirectory path = .error refusal :=
          Machine.test_eq_error_iff.2 ⟨hexamine, hvisible⟩
        simp only [runCd_eq htarget, hrefusal]

theorem runType_result_eq_error_iff {failure : Failure} :
    (runType session machine arguments).result = .error failure ↔
      Fails session machine arguments .type failure := by
  have hresult : (runType session machine arguments).result = .error failure ↔
      ∃ refusal,
        (describeAll session machine true arguments).2 = .error refusal ∧
        failure = .refused refusal := by
    simp only [runType]
    cases (describeAll session machine true arguments).2 with
    | error refusal => simp [eq_comm]
    | ok known => cases known <;> simp
  rw [hresult]
  constructor
  · rintro ⟨refusal, hrefusal, rfl⟩
    obtain ⟨before, argument, after, harguments, hbefore, hargument⟩ :=
      describeAll_eq_error_iff.1 hrefusal
    exact .type harguments hbefore hargument
  · intro h
    cases h with
    | @type before after argument refusal harguments hbefore hargument =>
        exact ⟨refusal, describeAll_eq_error_iff.2
          ⟨before, argument, after, harguments, hbefore, hargument⟩, rfl⟩

theorem runExit_result_isOk (session : Session) (arguments : List Text) :
    (runExit session arguments).result.isOk = true := by
  unfold runExit
  split
  · rfl
  · split <;> rfl

/-- A builtin fails exactly for one of these reasons. -/
theorem result_eq_error_iff {builtin : Builtin} {failure : Failure} :
    (builtin.run session machine arguments).result = .error failure ↔
      Fails session machine arguments builtin failure := by
  cases builtin with
  | echo =>
      constructor
      · intro h
        cases h
      · intro h
        cases h
  | type => exact runType_result_eq_error_iff
  | pwd =>
      constructor
      · intro h
        cases h
      · intro h
        cases h
  | cd => exact runCd_result_eq_error_iff
  | exit =>
      constructor
      · intro h
        have hok := runExit_result_isOk session arguments
        rw [show (runExit session arguments).result = .error failure from h]
          at hok
        cases hok
      · intro h
        cases h

end Builtin

end LineShell
