import LineShell.Lookup
import LineShell.Proofs.Volume.Listing
import LineShell.Proofs.Volume.Storing

/-!
What one file does to the rest of a volume: nothing that a question about
directories or executables could tell.

A file may have been given another text, or have been made where nothing was,
not to be run.  Walks then end as before, but at the file where they ended at
the vacant place, and with another error where they went on through it
(`Volume.Refiles.walks`).  So no path leads to a directory or an executable that
did not lead to one before (`Machine.Refiles.test_eq`), and the same executables
are found (`Machine.Refiles.findExecutable_eq`).
-/
namespace LineShell

/-- Whether a place has had the text of its file changed, or got a file that may
not be run. -/
inductive Node.Refiled : Option Node → Option Node → Prop
  | text (old new : Text) (executable : Bool) :
      Refiled (some (.file old executable)) (some (.file new executable))
  | made (new : Text) : Refiled none (some (.file new false))

namespace Volume

/-- Whether a volume has come from another one by filing a text at one place. -/
structure Refiles (place : Location) (before after : Volume) : Prop where
  refuses : after.refuses = before.refuses
  file : Node.Refiled (before.find? place) (after.find? place)
  elsewhere : ∀ other, other ≠ place → after.find? other = before.find? other

/-- How a walk ends after a file has come to a place, compared with how it ended
before. -/
inductive Diverts (place : Location) :
    Except SystemError Place → Except SystemError Place → Prop
  | same (result : Except SystemError Place) : Diverts place result result
  /-- The file is at the end of the walk. -/
  | filled {directory : Location} {name : Text}
      (hplace : place = directory ++ [name]) :
      Diverts place (.ok (.vacant directory name)) (.ok (.occupied place))
  /-- The file is on the way. -/
  | barred : Diverts place (.error .noEntry) (.error .notDirectory)

/-- How a stretch of a walk ends after a file has come to a place, compared with
how it ended before. -/
inductive Stretches (place : Location) : Stretch → Stretch → Prop
  | same (stretch : Stretch) : Stretches place stretch stretch
  | filled {directory : Location} {name : Text}
      (hplace : place = directory ++ [name]) :
      Stretches place (.done (.vacant directory name)) (.done (.occupied place))
  | barred : Stretches place (.refused .noEntry) (.refused .notDirectory)

variable {place here : Location} {before after : Volume}

namespace Refiles

/-- The file at the place is no directory, neither before nor after. -/
theorem ne_directory (h : Refiles place before after) :
    before.find? place ≠ some .directory ∧
    after.find? place ≠ some .directory := by
  have hfile := h.file
  generalize before.find? place = old at hfile
  generalize after.find? place = new at hfile
  cases hfile with
  | text => exact ⟨nofun, nofun⟩
  | made => exact ⟨nofun, nofun⟩

theorem directory_iff (h : Refiles place before after) (other : Location) :
    after.find? other = some .directory ↔
      before.find? other = some .directory := by
  by_cases hplace : other = place
  · rw [hplace]
    exact iff_of_false h.ne_directory.2 h.ne_directory.1
  · rw [h.elsewhere other hplace]

/-- The file stands where nothing was or a file. -/
theorem exists_file (h : Refiles place before after) :
    ∃ new executable, after.find? place = some (.file new executable) := by
  have hfile := h.file
  generalize before.find? place = old at hfile
  generalize after.find? place = node at hfile ⊢
  cases hfile with
  | text old new executable => exact ⟨new, executable, rfl⟩
  | made new => exact ⟨new, false, rfl⟩

/-- A walk that went on through a vacant place is barred by the file there. -/
theorem advance_barred (h : Refiles place before after) {rest : List Text}
    (hrest : rest ≠ []) :
    after.advance .target place rest = .refused .notDirectory := by
  obtain ⟨name, others, rfl⟩ := List.exists_cons_of_ne_nil hrest
  rw [advance, if_pos h.ne_directory.2]

/-- What a name leads to that something else than a file, or a file somewhere
else, has. -/
theorem find?_eq_of_ne_file (h : Refiles place before after)
    {other : Location} {node : Node} (hfound : before.find? other = some node)
    (hnode : ∀ text executable, node ≠ .file text executable) :
    after.find? other = some node := by
  by_cases hplace : other = place
  · rw [hplace] at hfound
    have hfile := h.file
    rw [hfound] at hfile
    generalize after.find? place = later at hfile
    cases hfile with
    | text old new executable => exact absurd rfl (hnode old executable)
  · rw [h.elsewhere other hplace, hfound]

theorem stretches (h : Refiles place before after) (here : Location)
    (names : List Text) :
    Stretches place (before.advance .target here names)
      (after.advance .target here names) := by
  fun_induction before.advance .target here names with
  | case1 here => exact .same _
  | case2 here name rest hdirectory =>
      rw [advance, if_pos (mt (h.directory_iff here).1 hdirectory)]
      exact .same _
  | case3 here name rest hdirectory hskip ih =>
      have hlater := (h.directory_iff here).2 (Decidable.not_not.1 hdirectory)
      rw [advance, if_neg (not_not_intro hlater), if_pos hskip]
      exact ih
  | case4 here rest hdirectory hskip ih =>
      have hlater := (h.directory_iff here).2 (Decidable.not_not.1 hdirectory)
      rw [advance, if_neg (not_not_intro hlater), if_neg hskip, if_pos rfl]
      exact ih
  | case5 here name rest hdirectory hskip hup hwriting => cases hwriting
  | case6 here name rest hdirectory hskip hup hwriting error hsearch =>
      have hlater := (h.directory_iff here).2 (Decidable.not_not.1 hdirectory)
      rw [advance, if_neg (not_not_intro hlater), if_neg hskip, if_neg hup,
        if_neg hwriting, h.refuses, hsearch]
      exact .same _
  | case7 here name rest hdirectory hskip hup hwriting hsearch hnone hlast =>
      have hlater := (h.directory_iff here).2 (Decidable.not_not.1 hdirectory)
      rw [advance_target_name hlater hskip hup (h.refuses ▸ hsearch),
        List.isEmpty_iff.1 hlast]
      by_cases hplace : here ++ [name] = place
      · obtain ⟨new, executable, hfile⟩ := h.exists_file
        rw [hplace, hfile]
        exact .filled hplace.symm
      · rw [h.elsewhere _ hplace, hnone]
        exact .same _
  | case8 here name rest hdirectory hskip hup hwriting hsearch hnone hlast =>
      have hlater := (h.directory_iff here).2 (Decidable.not_not.1 hdirectory)
      rw [advance_target_name hlater hskip hup (h.refuses ▸ hsearch)]
      by_cases hplace : here ++ [name] = place
      · obtain ⟨new, executable, hfile⟩ := h.exists_file
        have hrest : rest ≠ [] :=
          fun hempty => hlast (List.isEmpty_iff.2 hempty)
        rw [hplace, hfile]
        simp only [h.advance_barred hrest]
        exact .barred
      · rw [h.elsewhere _ hplace, hnone]
        simp only [hlast]
        exact .same _
  | case9 here name rest hdirectory hskip hup hwriting hsearch target hfound
      hentry =>
      simp at hentry
  | case10 here name rest hdirectory hskip hup hwriting hsearch target hfound
      hentry =>
      have hlater := (h.directory_iff here).2 (Decidable.not_not.1 hdirectory)
      rw [advance_target_name hlater hskip hup (h.refuses ▸ hsearch),
        h.find?_eq_of_ne_file hfound fun _ _ => Node.noConfusion]
      exact .same _
  | case11 here name rest hdirectory hskip hup hwriting hsearch node hlink
      hfound ih =>
      have hlater := (h.directory_iff here).2 (Decidable.not_not.1 hdirectory)
      have hthere : ∃ later, after.find? (here ++ [name]) = some later ∧
          ∀ target, later ≠ .link target := by
        by_cases hplace : here ++ [name] = place
        · obtain ⟨new, executable, hfile⟩ := h.exists_file
          exact ⟨.file new executable, hplace ▸ hfile, by simp⟩
        · exact ⟨node, (h.elsewhere _ hplace).trans hfound, hlink⟩
      obtain ⟨later, hnode, hnotLink⟩ := hthere
      rw [advance_target_name hlater hskip hup (h.refuses ▸ hsearch), hnode]
      cases later with
      | link target => exact absurd rfl (hnotLink target)
      | _ => exact ih

/-- A walk ends as before, or at the file where nothing was, or before the file
that bars it. -/
theorem walks (h : Refiles place before after) (links : Nat) (here : Location)
    (names : List Text) :
    Diverts place (before.walk .target links here names)
      (after.walk .target links here names) := by
  induction links generalizing here names with
  | zero =>
      have hstretches := h.stretches here names
      rw [walk, walk]
      generalize before.advance .target here names = first at hstretches ⊢
      generalize after.advance .target here names = second at hstretches ⊢
      cases hstretches with
      | same => exact .same _
      | filled hplace => exact .filled hplace
      | barred => exact .barred
  | succ links ih =>
      have hstretches := h.stretches here names
      rw [walk, walk]
      generalize before.advance .target here names = first at hstretches ⊢
      generalize after.advance .target here names = second at hstretches ⊢
      cases hstretches with
      | filled hplace => exact .filled hplace
      | barred => exact .barred
      | same =>
          cases first with
          | done found => exact .same _
          | refused error => exact .same _
          | link directory target rest => exact ih _ _

end Refiles

end Volume

namespace Machine

/-- Whether a machine has come from another one by filing a text at one
place. -/
structure Refiles (place : Location) (before after : Machine) : Prop where
  directory : after.directory = before.directory
  volume : before.volume.Refiles place after.volume

/-- Whether the system tells what a file is that comes to a place where nothing
was, or says that nothing is there. -/
def TellsOfNew (machine : Machine) (place : Location) : Prop :=
  machine.volume.find? place = none →
    ∀ error, machine.volume.refuses (.examine place) = some error →
      error.isAbsence = true

/-- Whether a property of what is at the end of a path does not count the text
of a file, and a file that may not be run does not have it. -/
structure IgnoresFiling (holds : Node → Bool) : Prop where
  text : ∀ old new executable,
    holds (.file old executable) = holds (.file new executable)
  made : ∀ new, holds (.file new false) = false

/-- What a question about the end of a walk is answered. -/
def answer (machine : Machine) (holds : Node → Bool)
    (result : Except SystemError Place) : Except Refusal Bool :=
  match result.bind machine.nodeAt with
  | .ok (_, node) => .ok (holds node)
  | .error error => if error.isAbsence then .ok false
      else .error (.system error)

/-- A question about the end of a path is one about the end of a walk, if the
path can be walked. -/
theorem test_eq_answer (machine : Machine) (holds : Node → Bool) (path : Path) :
    machine.test holds path =
      if path.toText.contains '\x00' then .ok false
      else
        match machine.volume.refuses (.spell path.toText) with
        | some error => machine.answer holds (.error error)
        | none => machine.answer holds
            (machine.volume.walk .target Volume.linkLimit (machine.origin path)
              path.parts) := by
  unfold test examine locate
  by_cases hnul : path.toText.contains '\x00' = true
  · rw [if_pos hnul, if_pos hnul]
    rfl
  · rw [if_neg hnul, if_neg hnul]
    cases machine.volume.refuses (.spell path.toText) with
    | some error => rfl
    | none =>
        cases machine.volume.walk .target Volume.linkLimit (machine.origin path)
          path.parts with
        | error error => rfl
        | ok found =>
            have hplace : (Except.ok found : Except SystemError Place).mapError
                Refusal.system =
              .ok found := rfl
            simp only [hplace, answer, Except.bind, bind]
            cases machine.nodeAt found with
            | error error => rfl
            | ok located => rfl

namespace Refiles

variable {place : Location} {before after : Machine} {holds : Node → Bool}

theorem origin_eq (h : Refiles place before after) (path : Path) :
    after.origin path = before.origin path := by
  unfold origin
  rw [h.directory]

/-- What is told about a place, of a file as of anything else. -/
theorem answer_occupied (h : Refiles place before after)
    (hholds : IgnoresFiling holds) (location : Location) :
    after.answer holds (.ok (.occupied location)) =
      before.answer holds (.ok (.occupied location)) := by
  simp only [answer, Except.bind, nodeAt, h.volume.refuses]
  cases before.volume.refuses (.examine location) with
  | some error => rfl
  | none =>
      by_cases hplace : location = place
      · have hfile := h.volume.file
        rw [hplace]
        generalize before.volume.find? place = old at hfile ⊢
        generalize after.volume.find? place = new at hfile ⊢
        cases hfile with
        | text old new executable =>
            exact congrArg Except.ok (hholds.text new old executable)
        | made new => exact congrArg Except.ok (hholds.made new)
      · rw [h.volume.elsewhere location hplace]

/-- Of a file that has been made, no more is told than of nothing. -/
theorem answer_made (h : Refiles place before after)
    (hholds : IgnoresFiling holds) (htells : before.TellsOfNew place)
    (hnone : before.volume.find? place = none) :
    after.answer holds (.ok (.occupied place)) = .ok false := by
  simp only [answer, Except.bind, nodeAt, h.volume.refuses]
  cases hexamine : before.volume.refuses (.examine place) with
  | some error => exact if_pos (htells hnone error hexamine)
  | none =>
      have hfile := h.volume.file
      rw [hnone] at hfile
      generalize after.volume.find? place = new at hfile ⊢
      cases hfile with
      | made new => exact congrArg Except.ok (hholds.made new)

/-- No question that ignores filing is answered in another way. -/
theorem test_eq (h : Refiles place before after) (hholds : IgnoresFiling holds)
    (htells : before.TellsOfNew place) (path : Path) :
    after.test holds path = before.test holds path := by
  rw [test_eq_answer, test_eq_answer, h.origin_eq, h.volume.refuses]
  have hdiverts :=
    h.volume.walks Volume.linkLimit (before.origin path) path.parts
  have hvacant :=
    fun directory name => @Volume.find?_of_walk_vacant before.volume .target
    Volume.linkLimit (before.origin path) directory path.parts name
  generalize before.volume.walk .target Volume.linkLimit (before.origin path)
    path.parts = first
    at hdiverts hvacant ⊢
  generalize after.volume.walk .target Volume.linkLimit (before.origin path)
    path.parts = second
    at hdiverts ⊢
  have hanswer : after.answer holds second = before.answer holds first := by
    cases hdiverts with
    | same =>
        cases first with
        | error error => rfl
        | ok found =>
            cases found with
            | vacant directory name => rfl
            | occupied location => exact h.answer_occupied hholds location
    | @filled directory name hplace =>
        have hnone := hvacant directory name rfl
        rw [← hplace] at hnone
        rw [h.answer_made hholds htells hnone]
        rfl
    | barred => rfl
  rw [hanswer]
  rfl

theorem isDirectory_eq
    (h : Refiles place before after) (htells : before.TellsOfNew place)
    (path : Path) : after.isDirectory path = before.isDirectory path := by
  apply h.test_eq _ htells
  exact ⟨fun _ _ _ => rfl, fun _ => rfl⟩

theorem isExecutable_eq
    (h : Refiles place before after) (htells : before.TellsOfNew place)
    (path : Path) : after.isExecutable path = before.isExecutable path := by
  apply h.test_eq _ htells
  exact ⟨fun _ _ _ => rfl, fun _ => rfl⟩

theorem findIn_eq (h : Refiles place before after)
    (htells : before.TellsOfNew place) (name : Text) (directories : List Text) :
    after.findIn name directories = before.findIn name directories := by
  have habsolute : ∀ path, after.absolute path = before.absolute path := by
    intro path
    rw [absolute, absolute, h.directory]
  induction directories with
  | nil => rfl
  | cons directory rest ih =>
      rw [findIn, findIn, h.isExecutable_eq htells, habsolute, ih]

/-- The same executables are found. -/
theorem findExecutable_eq (h : Refiles place before after)
    (htells : before.TellsOfNew place) (name : Text) (directories : List Text) :
    after.findExecutable name directories =
      before.findExecutable name directories := by
  unfold findExecutable
  rw [h.findIn_eq htells]

end Refiles

section Opening

variable {machine after : Machine} {path : Path} {mode : WriteMode}
  {handle : Handle}

/-- Opening what is a file, or nothing yet, files a text there: the old one, or
none. -/
theorem refiles_of_openFile
    (h : machine.openFile path mode = .ok (handle, after))
    (hplain : machine.volume.find? handle.location = none ∨
      machine.volume.IsFile handle.location) :
    Refiles handle.location machine after := by
  obtain ⟨place, -, rfl, hopened⟩ := openFile_eq_ok h
  rcases openNode_eq_ok hopened
    with ⟨rfl, node, hnode, -⟩ | ⟨executable, hne, rfl, hfound⟩
  · rcases hplain with hnone | ⟨content, executable, hfile⟩
    · rw [hnode] at hnone
      cases hnone
    · refine ⟨rfl, rfl, ?_, fun _ _ => rfl⟩
      rw [hfile]
      exact .text content content executable
  · have hput := Volume.find?_put machine.volume hne (.file [] executable)
    refine ⟨rfl, rfl, ?_, fun other hother =>
      (hput other).trans (if_neg hother)⟩
    rw [hput, if_pos rfl]
    rcases hfound with ⟨hnone, rfl⟩ | ⟨-, content, hfile⟩
    · rw [hnone]
      exact .made []
    · rw [hfile]
      exact .text content [] executable

end Opening

end Machine

namespace Volume

/-- A name at the end of a way is there itself, if it leads to something. -/
theorem advance_entry (volume : Volume) (here : Location) (names : List Text) :
    volume.advance .entry here names = volume.advance .target here names ∨
      ∃ location,
        volume.advance .entry here names = .done (.occupied location) := by
  fun_induction volume.advance .target here names with
  | case1 here => exact Or.inl rfl
  | case2 here name rest hdirectory =>
      rw [advance, if_pos hdirectory]
      exact Or.inl rfl
  | case3 here name rest hdirectory hskip ih =>
      rw [advance, if_neg hdirectory, if_pos hskip]
      exact ih
  | case4 here rest hdirectory hskip ih =>
      rw [advance, if_neg hdirectory, if_neg hskip, if_pos rfl]
      exact ih
  | case5 here name rest hdirectory hskip hup hwriting => cases hwriting
  | case6 here name rest hdirectory hskip hup hwriting error hsearch =>
      simp [advance, hdirectory, hskip, hup, hsearch]
  | case7 here name rest hdirectory hskip hup hwriting hsearch hnone hlast =>
      simp [advance, hdirectory, hskip, hup, hsearch, hnone, hlast]
  | case8 here name rest hdirectory hskip hup hwriting hsearch hnone hlast =>
      simp [advance, hdirectory, hskip, hup, hsearch, hnone, hlast]
  | case9 here name rest hdirectory hskip hup hwriting hsearch target hfound
      hentry =>
      simp at hentry
  | case10 here name rest hdirectory hskip hup hwriting hsearch target hfound
      hentry =>
      by_cases hlast : rest.isEmpty = true
      · simp [advance, hdirectory, hskip, hup, hsearch, hfound, hlast]
      · simp [advance, hdirectory, hskip, hup, hsearch, hfound, hlast]
  | case11 here name rest hdirectory hskip hup hwriting hsearch node hlink
      hfound ih =>
      have hstep : volume.advance .entry here (name :: rest) =
          volume.advance .entry (here ++ [name]) rest := by
        cases node with
        | link target => exact (hlink target rfl).elim
        | _ => simp [advance, hdirectory, hskip, hup, hsearch, hfound]
      rw [hstep]
      exact ih

/-- What a path leads to is at its end itself, or a link is. -/
theorem walk_entry {volume : Volume} {links : Nat} {here location : Location}
    {names : List Text}
    (h : volume.walk .target links here names = .ok (.occupied location)) :
    ∃ found, volume.walk .entry links here names = .ok (.occupied found) := by
  induction links generalizing here names with
  | zero =>
      rcases volume.advance_entry here names with hsame | ⟨found, hfound⟩
      · rw [walk] at h ⊢
        rw [hsame]
        exact ⟨location, h⟩
      · exact ⟨found, by rw [walk, hfound]⟩
  | succ links ih =>
      rcases volume.advance_entry here names with hsame | ⟨found, hfound⟩
      · rw [walk] at h ⊢
        rw [hsame]
        generalize volume.advance .target here names = stretch at h ⊢
        cases stretch with
        | done place => exact ⟨location, h⟩
        | refused error => cases h
        | link directory target rest => exact ih h
      · exact ⟨found, by rw [walk, hfound]⟩

end Volume

namespace Machine

variable {machine : Machine} {path : Path}

/-- What a path leads to that is told to be a directory has an entry at the end
of the path. -/
theorem locate_entry_of_isDirectory (h : machine.isDirectory path = .ok true) :
    ∃ location, machine.locate .entry path = .ok (.occupied location) := by
  unfold isDirectory test at h
  cases hexamine : machine.examine path with
  | error refusal =>
      rw [hexamine] at h
      simp only at h
      split at h <;> cases h
  | ok found =>
      obtain ⟨htext, hspell, hwalk⟩ :=
        locate_eq_ok_iff.1 (leadsTo_of_examine hexamine).1
      obtain ⟨location, hentry⟩ := Volume.walk_entry hwalk
      exact ⟨location, locate_eq_ok_iff.2 ⟨htext, hspell, hentry⟩⟩

/-- Of a path that leads to a directory nothing has to be made. -/
theorem makeDirectories_of_isDirectory
    (h : machine.isDirectory path = .ok true) :
    machine.makeDirectories path = (.ok (), machine) := by
  obtain ⟨location, hlocate⟩ := locate_entry_of_isDirectory h
  have hmake :
      machine.makeDirectory path = .error (.system .alreadyExists) := by
    rw [makeDirectory, hlocate]
    rfl
  have hsettle : machine.settle path (.system .alreadyExists) = .ok () := by
    rw [settle, h]
    rfl
  unfold makeDirectories makeDirectoriesWithin
  simp only [hmake, hsettle]

end Machine

end LineShell
