import LineShell.Program
import LineShell.Proofs.Volume.Growth

/-!
Where the errors of a machine come from.

A look at what a path leads to fails because nothing is there, because the path
holds NUL, or with an error with which the volume refuses an access
(`Machine.declines_of_examine`).  A program fails to start with an error in
other words than the fixed ones only if the volume refuses an access in these
words (`Program.refuses_of_prepare`).
-/
namespace LineShell

namespace Volume

/-- Whether an error says that nothing is there, or is one with which the volume
refuses an access. -/
def Raises (volume : Volume) (error : SystemError) : Prop :=
  error.isAbsence = true ∨ ∃ access, volume.refuses access = some error

variable {volume : Volume} {error : SystemError} {words : Text}

theorem Raises.of_refuses {access : Access}
    (h : volume.refuses access = some error) :
    volume.Raises error := Or.inr ⟨access, h⟩

theorem Raises.refuses_of_other (h : volume.Raises (.other words)) :
    ∃ access, volume.refuses access = some (.other words) :=
  h.resolve_left Bool.false_ne_true

theorem raises_of_advance {here : Location} {names : List Text}
    (h : volume.advance .target here names = .refused error) :
    volume.Raises error := by
  fun_induction volume.advance .target here names with
  | case2 =>
      cases h
      exact Or.inl rfl
  | case3 here name rest hdirectory hskip ih => exact ih h
  | case4 here rest hdirectory hskip ih => exact ih h
  | case5 here name rest hdirectory hskip hup hwriting => cases hwriting
  | case6 here name rest hdirectory hskip hup hwriting refused hsearch =>
      cases h
      exact .of_refuses hsearch
  | case8 =>
      cases h
      exact Or.inl rfl
  | case11 here name rest hdirectory hskip hup hwriting hsearch node hlink
      hfound ih => exact ih h
  | _ => cases h

theorem raises_of_walk {links : Nat} {here : Location} {names : List Text}
    (h : volume.walk .target links here names = .error error) :
    volume.Raises error := by
  fun_induction volume.walk .target links here names with
  | case1 => cases h
  | case2 links here names refused hstretch =>
      cases h
      exact raises_of_advance hstretch
  | case3 =>
      cases h
      exact Or.inl rfl
  | case4 here names directory target rest hstretch links ih => exact ih h

end Volume

namespace Machine

variable {machine : Machine} {path : Path} {error : SystemError}
  {refusal : Refusal}

/-- Whether a refusal is one of a path: for NUL in the path, or an error of the
volume. -/
inductive Declines (machine : Machine) (path : Path) : Refusal → Prop where
  | nul (htext : '\x00' ∈ path.toText) : Declines machine path .nulCharacter
  | system {error : SystemError} (hraises : machine.volume.Raises error) :
      Declines machine path (.system error)

theorem declines_of_locate (h : machine.locate .target path = .error refusal) :
    machine.Declines path refusal := by
  unfold locate at h
  split at h
  · rename_i htext
    cases h
    exact .nul (by simpa using htext)
  · split at h
    · rename_i hspell
      cases h
      exact .system (.of_refuses hspell)
    · cases hwalk :
        machine.volume.walk .target Volume.linkLimit (machine.origin path)
        path.parts with
      | ok place =>
          rw [hwalk] at h
          cases h
      | error error =>
          rw [hwalk] at h
          cases h
          exact .system (Volume.raises_of_walk hwalk)

theorem raises_of_nodeAt {place : Place}
    (h : machine.nodeAt place = .error error) :
    machine.volume.Raises error := by
  unfold nodeAt at h
  split at h
  · cases h
    exact Or.inl rfl
  · split at h
    · rename_i hrefuses
      cases h
      exact .of_refuses hrefuses
    · split at h
      · cases h
        exact Or.inl rfl
      · cases h

/-- Why the system does not tell what a path leads to. -/
theorem declines_of_examine (h : machine.examine path = .error refusal) :
    machine.Declines path refusal := by
  unfold examine at h
  cases hlocate : machine.locate .target path with
  | error other =>
      rw [hlocate] at h
      cases h
      exact declines_of_locate hlocate
  | ok place =>
      simp only [hlocate, bind, Except.bind] at h
      cases hnode : machine.nodeAt place with
      | error other =>
          rw [hnode] at h
          cases h
          exact .system (raises_of_nodeAt hnode)
      | ok found =>
          rw [hnode] at h
          cases h

theorem declines_of_list (h : machine.list path = .error refusal) :
    machine.Declines path refusal := by
  unfold list at h
  cases hexamine : machine.examine path with
  | error other =>
      rw [hexamine] at h
      cases h
      exact declines_of_examine hexamine
  | ok found =>
      simp only [hexamine, bind, Except.bind] at h
      split at h
      · split at h
        · rename_i hrefuses
          cases h
          exact .system (.of_refuses hrefuses)
        · cases h
      · cases h
        exact .system (Or.inl rfl)

theorem raises_of_examineText {text : Text}
    (h : machine.examineText text = .error error) :
    machine.volume.Raises error := by
  unfold examineText at h
  cases hlocate : machine.locateText .target text with
  | ok place =>
      rw [hlocate] at h
      exact raises_of_nodeAt h
  | error other =>
      rw [hlocate] at h
      cases h
      unfold locateText at hlocate
      split at hlocate
      · cases hlocate
        exact Or.inl rfl
      · split at hlocate
        · rename_i hspell
          cases hlocate
          exact .of_refuses hspell
        · exact Volume.raises_of_walk hlocate

end Machine

namespace Launch

variable {machine : Machine} {written : List Location} {file words : Text}

theorem refuses_of_seek
    (h : seek machine written file = .error (.other words)) :
    ∃ access, machine.volume.refuses access = some (.other words) := by
  unfold seek at h
  cases hexamine : machine.examineText file with
  | error other =>
      rw [hexamine] at h
      cases h
      exact (Machine.raises_of_examineText hexamine).refuses_of_other
  | ok found =>
      simp only [hexamine, bind, Except.bind] at h
      split at h
      · cases h
      · split at h <;> cases h

theorem refuses_of_follow {chain : Nat} {node : Node} {arguments : List Text}
    (h : follow machine written chain node file arguments =
      .error (.other words)) :
    ∃ access, machine.volume.refuses access = some (.other words) := by
  induction chain generalizing node file arguments with
  | zero => cases h
  | succ chain ih =>
      unfold follow at h
      split at h
      · split at h
        · cases h
        · dsimp only [bind, Except.bind] at h
          split at h
          · rename_i hseek
            cases h
            exact refuses_of_seek hseek
          · exact ih h
      · cases h

theorem refuses_of_resolve {launch : Launch}
    (h : launch.resolve machine written file = .error (.other words)) :
    ∃ access, machine.volume.refuses access = some (.other words) := by
  unfold resolve at h
  cases hseek : seek machine written file with
  | error other =>
      rw [hseek] at h
      cases h
      exact refuses_of_seek hseek
  | ok node =>
      simp only [hseek, bind, Except.bind] at h
      split at h
      · cases h
      · exact refuses_of_follow h

end Launch

namespace Program

variable {program : Program} {machine : Machine} {written : List Location}

theorem objection?_ne_system (program : Program) (error : SystemError) :
    program.objection? ≠ some (.system error) := by
  intro h
  unfold objection? at h
  dsimp only at h
  split at h
  · cases h
  · split at h <;> cases h

/-- An error in words of its own with which a program does not start is one of
the volume. -/
theorem refuses_of_prepare {words : Text}
    (h : program.prepare machine written = .error (.system (.other words))) :
    ∃ access, machine.volume.refuses access = some (.other words) := by
  unfold prepare at h
  split at h
  · rename_i refusal hobjection
    cases h
    exact absurd hobjection (program.objection?_ne_system _)
  · split at h
    · rename_i refusal hexamine
      cases h
      cases Machine.declines_of_examine hexamine with
      | system hraises => exact hraises.refuses_of_other
    · dsimp only at h
      split at h
      · rename_i error hresolve
        cases h
        obtain ⟨access, haccess⟩ := Launch.refuses_of_resolve hresolve
        exact ⟨access, haccess⟩
      · cases h
    · cases h

end Program

end LineShell
