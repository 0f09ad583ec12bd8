import LineShell.Volume.Walk
import LineShell.Session

/-!
Looking executables up along a list of directories: the first one with a given
name, and the names of all that start with a given text.

A set of names is a list in strictly increasing order of code points
(`pairwise_nameSet`) with the same members as the list that it is made from
(`mem_nameSet`).
-/
namespace LineShell

def insertName (name : Text) : List Text → List Text
  | [] => [name]
  | first :: rest =>
    if name = first then first :: rest
    else if name < first then name :: first :: rest
    else first :: insertName name rest

def nameSet (names : List Text) : List Text := names.foldr insertName []

theorem mem_insertName {name other : Text} {names : List Text} :
    other ∈ insertName name names ↔ other = name ∨ other ∈ names := by
  induction names with
  | nil => simp [insertName]
  | cons first rest ih =>
    unfold insertName
    split
    · rename_i h
      subst h
      simp
    · split
      · simp
      · simp only [List.mem_cons, ih]
        constructor
        · rintro (h | h | h)
          · exact Or.inr (Or.inl h)
          · exact Or.inl h
          · exact Or.inr (Or.inr h)
        · rintro (h | h | h)
          · exact Or.inr (Or.inl h)
          · exact Or.inl h
          · exact Or.inr (Or.inr h)

@[simp] theorem mem_nameSet {name : Text} {names : List Text} :
    name ∈ nameSet names ↔ name ∈ names := by
  induction names with
  | nil => simp [nameSet]
  | cons first rest ih =>
    simp only [nameSet, List.foldr_cons, mem_insertName] at ih ⊢
    simp only [List.mem_cons, ih]

theorem lt_of_not_lt_of_ne {first second : Text} (hne : first ≠ second)
    (h : ¬ first < second) :
    second < first :=
  Decidable.byContradiction fun hnot =>
    hne (List.le_antisymm (List.not_lt.1 hnot) (List.not_lt.1 h))

theorem pairwise_insertName {name : Text} {names : List Text}
    (h : names.Pairwise (· < ·)) :
    (insertName name names).Pairwise (· < ·) := by
  induction names with
  | nil => simp [insertName]
  | cons first rest ih =>
    obtain ⟨hfirst, hrest⟩ := List.pairwise_cons.1 h
    unfold insertName
    by_cases heq : name = first
    · rw [if_pos heq]
      exact h
    · rw [if_neg heq]
      by_cases hlt : name < first
      · rw [if_pos hlt]
        refine List.pairwise_cons.2 ⟨fun other hother => ?_, h⟩
        rcases List.mem_cons.1 hother with rfl | hother
        · exact hlt
        · exact List.lt_trans hlt (hfirst other hother)
      · rw [if_neg hlt]
        refine List.pairwise_cons.2 ⟨fun other hother => ?_, ih hrest⟩
        rcases mem_insertName.1 hother with rfl | hother
        · exact lt_of_not_lt_of_ne heq hlt
        · exact hfirst other hother

/-- A set of names is in strictly increasing order. -/
theorem pairwise_nameSet (names : List Text) :
    (nameSet names).Pairwise (· < ·) := by
  induction names with
  | nil => exact List.Pairwise.nil
  | cons name rest ih => exact pairwise_insertName ih

namespace Machine

/-- Whether a text can be the name of an executable at all. -/
def isCommandName (name : Text) : Bool :=
  !(name.isEmpty || name.contains '\x00' || name.contains '/')

/-- The path of the first executable with this name in the directories, made
absolute. -/
def findIn (machine : Machine) (name : Text) :
    List Text → Except Refusal (Option Path)
  | [] => .ok none
  | directory :: rest => do
    let candidate := (Path.ofText directory).join (Path.ofText name)
    if ← machine.isExecutable candidate then
      return some (machine.absolute candidate)
    else
      machine.findIn name rest

/-- The executable with this name; a text that is no name has none. -/
def findExecutable (machine : Machine) (name : Text) (directories : List Text) :
    Except Refusal (Option Path) :=
  if isCommandName name then machine.findIn name directories else .ok none

/-- Of some names in a directory, those that start with a text and are
executables. -/
def executablesAmong (machine : Machine) (start : Text) (directory : Path) :
    List Text → Except Refusal (List Text)
  | [] => .ok []
  | name :: rest => do
    let matching ←
      if start.isPrefixOf name then
        machine.isExecutable (directory.join (Path.ofText name))
      else .ok false
    let others ← machine.executablesAmong start directory rest
    return if matching then name :: others else others

/-- The names of executables in the directories that start with a text.  A
directory that the system does not list has none. -/
def executablesStarting (machine : Machine) (start : Text) :
    List Text → Except Refusal (List Text)
  | [] => .ok []
  | directory :: rest => do
    let path := Path.ofText directory
    let found ←
      match machine.list path with
      | .ok names => machine.executablesAmong start path names
      | .error (.system _) => .ok []
      | .error refusal => .error refusal
    let others ← machine.executablesStarting start rest
    return found ++ others

def executableNames (machine : Machine) (start : Text)
    (directories : List Text) : Except Refusal (List Text) :=
  (machine.executablesStarting start directories).map nameSet

end Machine

end LineShell
