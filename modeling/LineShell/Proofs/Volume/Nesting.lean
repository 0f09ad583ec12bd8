import LineShell.Proofs.Volume.Opening
import Mathlib.Logic.Function.Iterate

/-!
Directories that are missing one above the other.

A request for a directory waits until the one above it is made.  Opening the
targets of redirections fails in a way that the shell does not survive exactly
if the first target that cannot be opened lies below more missing directories
than requests can wait (`openTargets_unreported_iff`).
-/
namespace LineShell

theorem Path.parent_eq_self_iff {path : Path} :
    path.parent = path ↔ path.parts = [] := by
  constructor
  · intro h
    have hlength := congrArg (fun other : Path => other.parts.length) h
    simp only [parent, List.length_dropLast] at hlength
    exact List.length_eq_zero_iff.1 (by omega)
  · intro h
    obtain ⟨root, parts⟩ := path
    obtain rfl : parts = [] := h
    rfl

namespace Machine

variable {machine after : Machine} {path : Path} {cwd : Path}
  {streams : Streams}

/-- Whether the directory above has to be made before a directory. -/
def LacksParent (machine : Machine) (path : Path) : Prop :=
  machine.makeDirectory path = .error (.system .noEntry) ∧ path.parts ≠ []

/-- Whether a directory and the ones above it, more of them than requests can
wait, all lack the one above. -/
def LiesTooDeep (machine : Machine) (path : Path) : Prop :=
  ∀ count ≤ machine.volume.nesting,
    machine.LacksParent (Path.parent^[count] path)

theorem bind_ne_tooDeep {α β : Type} {first : Except Refusal α}
    {next : α → Except Refusal β} (hfirst : first ≠ .error .tooDeep)
    (hnext : ∀ value, next value ≠ .error .tooDeep) :
    first >>= next ≠ .error .tooDeep := by
  cases first with
  | ok value => exact hnext value
  | error refusal =>
      intro h
      apply hfirst
      cases h
      rfl

theorem mapError_ne_tooDeep {α : Type} (result : Except SystemError α) :
    result.mapError Refusal.system ≠ .error .tooDeep := by
  intro h
  cases result with
  | ok value => cases h
  | error error => cases h

theorem locate_ne_tooDeep (aim : Aim) :
    machine.locate aim path ≠ .error .tooDeep := by
  unfold locate
  split
  · intro h
    cases h
  · split
    · intro h
      cases h
    · apply mapError_ne_tooDeep

theorem examine_ne_tooDeep : machine.examine path ≠ .error .tooDeep := by
  apply bind_ne_tooDeep (locate_ne_tooDeep _)
  intro place
  apply mapError_ne_tooDeep

theorem makeDirectory_ne_tooDeep :
    machine.makeDirectory path ≠ .error .tooDeep := by
  apply bind_ne_tooDeep (locate_ne_tooDeep _)
  intro place h
  cases place with
  | occupied location => cases h
  | vacant directory name =>
      dsimp only at h
      split at h <;> cases h

theorem openFile_ne_tooDeep {mode : WriteMode} :
    machine.openFile path mode ≠ .error .tooDeep := by
  apply bind_ne_tooDeep (locate_ne_tooDeep _)
  intro place
  apply mapError_ne_tooDeep

theorem isDirectory_ne_tooDeep :
    machine.isDirectory path ≠ .error .tooDeep := by
  intro h
  unfold isDirectory test at h
  split at h
  · cases h
  · rename_i refusal hexamine
    split at h
    · cases h
    · cases h
      exact examine_ne_tooDeep hexamine

theorem settle_ne_tooDeep {refusal : Refusal} (h : refusal ≠ .tooDeep) :
    machine.settle path refusal ≠ .error .tooDeep := by
  have hrefusal {α : Type} : (.error refusal : Except Refusal α) ≠
      .error .tooDeep := mt Except.error.inj h
  unfold settle
  split
  · apply bind_ne_tooDeep isDirectory_ne_tooDeep
    intro found
    split
    · intro hok
      cases hok
    · exact hrefusal
  · exact hrefusal

theorem makeOneDirectory_ne_tooDeep :
    (machine.makeOneDirectory path).1 ≠ .error .tooDeep := by
  fun_cases makeOneDirectory machine path with
  | case1 made hmake =>
      intro h
      cases h
  | case2 hmake =>
      intro h
      cases h
  | case3 refusal hmake hother =>
      refine settle_ne_tooDeep ?_
      rintro rfl
      exact makeDirectory_ne_tooDeep hother

theorem forall_le_succ_parent {depth : Nat} {holds : Path → Prop} :
    (∀ count ≤ depth + 1, holds (Path.parent^[count] path)) ↔
      holds path ∧
        ∀ count ≤ depth, holds (Path.parent^[count] path.parent) := by
  constructor
  · intro h
    exact ⟨h 0 (Nat.zero_le _), fun count hcount =>
      h (count + 1) (Nat.succ_le_succ hcount)⟩
  · rintro ⟨hhere, habove⟩ count hcount
    cases count with
    | zero => exact hhere
    | succ count => exact habove count (Nat.le_of_succ_le_succ hcount)

/-- Too many requests wait exactly if so many directories are missing one above
the other. -/
theorem makeDirectoriesWithin_tooDeep_iff (depth : Nat) :
    (makeDirectoriesWithin depth machine path).1 = .error .tooDeep ↔
      ∀ count ≤ depth, machine.LacksParent (Path.parent^[count] path) := by
  fun_induction makeDirectoriesWithin depth machine path with
  | case1 depth path made hmake =>
      constructor
      · intro h
        cases h
      · intro h
        cases hmake.symm.trans (h 0 (Nat.zero_le _)).1
  | case2 depth path hmake hparent =>
      constructor
      · intro h
        cases h
      · intro h
        exact absurd (Path.parent_eq_self_iff.1 hparent) (h 0 (Nat.zero_le _)).2
  | case3 path hmake hparent =>
      refine iff_of_true rfl fun count hcount => ?_
      obtain rfl := Nat.le_zero.1 hcount
      exact ⟨hmake, mt Path.parent_eq_self_iff.2 hparent⟩
  | case4 path hmake hparent depth made hmade ih =>
      rw [hmade] at ih
      refine iff_of_false makeOneDirectory_ne_tooDeep fun h => ?_
      cases ih.2 (forall_le_succ_parent.1 h).2
  | case5 path hmake hparent depth refusal made hmade ih =>
      rw [hmade] at ih
      have hhere : machine.LacksParent path :=
        ⟨hmake, mt Path.parent_eq_self_iff.2 hparent⟩
      rw [Nat.succ_eq_add_one, forall_le_succ_parent, ← ih]
      exact ⟨fun h => ⟨hhere, h⟩, fun h => h.2⟩
  | case6 depth path refusal hother hmake =>
      refine iff_of_false (settle_ne_tooDeep ?_) fun h => ?_
      · rintro rfl
        exact makeDirectory_ne_tooDeep hmake
      · cases hmake.symm.trans (h 0 (Nat.zero_le _)).1
        exact hother rfl

theorem openTarget_tooDeep_iff {redirection : Redirection} :
    (machine.openTarget cwd redirection).1 = .error .tooDeep ↔
      machine.LiesTooDeep (redirection.path cwd).parent := by
  unfold LiesTooDeep
  rw [← makeDirectoriesWithin_tooDeep_iff]
  change _ ↔ (machine.makeDirectories (redirection.path cwd).parent).1 = _
  unfold openTarget
  dsimp only
  rw [← Redirection.path]
  split
  · rename_i refusal made hmade
    rw [hmade]
    simp
  · rename_i made hmade
    rw [hmade]
    split
    · simp
    · rename_i refusal hopen
      constructor
      · intro h
        cases h
        exact absurd hopen openFile_ne_tooDeep
      · intro h
        cases h

/-- Opening targets fails at the first one that cannot be opened. -/
theorem openTargets_eq_error_iff {redirections : List Redirection}
    {failure : Failure} :
    (machine.openTargets cwd streams redirections).1 = .error failure ↔
      ∃ opened failed rest reached made refusal,
        redirections = opened ++ failed :: rest ∧
        machine.openTargets cwd streams opened = (.ok reached, made) ∧
        (made.openTarget cwd failed).1 = .error refusal ∧
        failure = .ofTarget failed.target refusal := by
  fun_induction machine.openTargets cwd streams redirections with
  | case1 machine streams =>
      constructor
      · intro h
        cases h
      · rintro ⟨opened, failed, rest, -, -, -, h, -⟩
        cases opened <;> cases h
  | case2 machine streams redirection rest handle made hmade ih =>
      rw [ih]
      constructor
      · rintro ⟨opened, failed, others, reached, last, refusal, rfl, hopened,
          hfailed, hfailure⟩
        refine ⟨redirection :: opened, failed, others, reached, last, refusal,
          rfl, ?_, hfailed, hfailure⟩
        rw [openTargets, hmade]
        exact hopened
      · rintro ⟨opened, failed, others, reached, last, refusal, h, hopened,
          hfailed, hfailure⟩
        cases opened with
        | nil =>
            cases h
            cases hopened
            rw [hmade] at hfailed
            cases hfailed
        | cons first opened =>
            cases h
            rw [openTargets, hmade] at hopened
            exact ⟨opened, failed, others, reached, last, refusal, rfl, hopened,
              hfailed, hfailure⟩
  | case3 machine streams redirection rest refusal made hmade =>
      constructor
      · intro h
        cases h
        exact ⟨[], redirection, rest, streams, machine, refusal, rfl,
          rfl, by rw [hmade], rfl⟩
      · rintro ⟨opened, failed, others, reached, last, other, h, hopened,
          hfailed, rfl⟩
        cases opened with
        | nil =>
            cases h
            cases hopened
            rw [hmade] at hfailed
            cases hfailed
            rfl
        | cons first opened =>
            cases h
            rw [openTargets, hmade] at hopened
            cases hopened

/-- Whether the first target that cannot be opened lies too deep. -/
def OpensTooDeep (machine : Machine) (cwd : Path)
    (redirections : List Redirection) : Prop :=
  ∃ opened failed rest streams made, redirections = opened ++ failed :: rest ∧
    machine.openTargets cwd .none opened = (.ok streams, made) ∧
    made.LiesTooDeep (failed.path cwd).parent

theorem openTargets_unreported_iff {redirections : List Redirection}
    {failure : Failure} (strictHome : Bool) :
    (machine.openTargets cwd .none redirections).1 = .error failure ∧
        failure.isReported strictHome = false ↔
      failure = .refused .tooDeep ∧ machine.OpensTooDeep cwd redirections := by
  rw [openTargets_eq_error_iff]
  constructor
  · rintro ⟨⟨opened, failed, rest, streams, made, refusal, hsplit, hopened,
      hfailed, rfl⟩, h⟩
    obtain rfl := Failure.isReported_ofTarget.1 h
    exact ⟨rfl, opened, failed, rest, streams, made, hsplit, hopened,
      openTarget_tooDeep_iff.1 hfailed⟩
  · rintro ⟨rfl, opened, failed, rest, streams, made, hsplit, hopened, hdeep⟩
    exact ⟨⟨opened, failed, rest, streams, made, .tooDeep, hsplit, hopened,
      openTarget_tooDeep_iff.2 hdeep, rfl⟩, rfl⟩

end Machine

end LineShell
