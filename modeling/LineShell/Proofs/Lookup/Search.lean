import LineShell.Lookup
import LineShell.Proofs.Volume.Errors
import LineShell.Proofs.Volume.Listing

/-!
Two ways to executables: listing the directories of a search path, and asking
each of them for a name.

Where every directory is listed or is none, and the system tells what its
entries are, the listing has exactly the names that are found by asking
(`Browsable.mem_executablesStarting`, `exists_findExecutable`).
-/
namespace LineShell.Machine

/-- Whether a path is told to lead to a file that may be run. -/
def runs (machine : Machine) (path : Path) : Bool :=
  match machine.isExecutable path with
  | .ok answer => answer
  | .error _ => false

/-- Whether a directory of a search path has an executable with a name. -/
def offers (machine : Machine) (directory name : Text) : Bool :=
  machine.runs ((Path.ofText directory).join (Path.ofText name))

/-- Whether the system tells in every directory whether there is an executable
with a name; a text that is no name is looked up nowhere. -/
def TellsCommand (machine : Machine) (directories : List Text) (name : Text) :
    Prop :=
  isCommandName name = true →
    ∀ directory ∈ directories,
      machine.Tells ((Path.ofText directory).join (Path.ofText name))

/-- Whether a directory of a search path is listed, or there is no such
directory. -/
def Searchable (machine : Machine) (directory : Text) : Prop :=
  '\x00' ∉ directory ∧
    ((∃ names, machine.list (Path.ofText directory) = .ok names) ∨
    ¬ machine.EndsAtDirectory (Path.ofText directory))

/-- Whether the executables in the directories of a search path can be told. -/
structure Browsable (machine : Machine) (directories : List Text) : Prop where
  tree : machine.volume.IsTree
  searchable : ∀ directory ∈ directories, machine.Searchable directory
  tells : ∀ directory ∈ directories, ∀ names,
    machine.list (Path.ofText directory) = .ok names →
    ∀ name ∈ names,
      machine.Tells ((Path.ofText directory).join (Path.ofText name))

variable {machine : Machine} {path : Path} {name directory : Text}
  {names directories : List Text}

theorem Tells.isExecutable_eq (h : machine.Tells path) :
    machine.isExecutable path = .ok (machine.runs path) := by
  obtain ⟨answer, hanswer⟩ : ∃ answer, machine.isExecutable path = .ok answer :=
    h.exists_test _
  rw [runs, hanswer]

/-- Where the volume refuses nothing, the system tells what is at the end of
every path. -/
theorem tells_of_refuses_nothing
    (h : ∀ access, machine.volume.refuses access = none) (path : Path) :
    machine.Tells path := by
  intro refusal hexamine
  cases declines_of_examine hexamine with
  | nul => rfl
  | system hraises =>
      rcases hraises with habsence | ⟨access, hrefuses⟩
      · exact habsence
      · rw [h access] at hrefuses
        cases hrefuses

theorem isExecutable_of_runs (h : machine.runs path = true) :
    machine.isExecutable path = .ok true := by
  unfold runs at h
  split at h
  · rename_i hanswer
    rw [hanswer, h]
  · cases h

theorem join_ofText_name (hname : Path.isName name = true)
    (hslash : '/' ∉ name) :
    path.join (Path.ofText name) = ⟨path.root, path.parts ++ [name]⟩ := by
  have hhead : name.head? ≠ some '/' :=
    fun hhead => hslash (List.mem_of_head? hhead)
  rw [Path.join_of_relative (Path.isAbsolute_ofText hhead)]
  simp only [Path.ofText, Text.splitOn_of_not_mem hslash,
    List.filter_cons_of_pos hname, List.filter_nil]

theorem isCommandName_iff :
    isCommandName name = true ↔ name ≠ [] ∧ '\x00' ∉ name ∧ '/' ∉ name := by
  simp [isCommandName, and_assoc]

theorem isName_of_isCommandName (hname : isCommandName name = true)
    (hdot : name ≠ ['.']) :
    Path.isName name = true := by
  have hempty := (isCommandName_iff.1 hname).1
  simp [Path.isName, hempty, hdot]

theorem isFileName_iff :
    isFileName name = true ↔ isCommandName name = true ∧ name ≠ ['.'] ∧
      name ≠ Path.up := by
  rw [isCommandName_iff]
  simp only [isFileName, Path.isName, List.contains_eq_mem, Bool.and_eq_true,
    Bool.not_eq_true', Bool.or_eq_false_iff, decide_eq_false_iff_not]
  constructor
  · rintro ⟨⟨hempty, hdot⟩, ⟨hup, hslash⟩, hnul⟩
    exact ⟨⟨hempty, hnul, hslash⟩, hdot, hup⟩
  · rintro ⟨⟨hempty, hnul, hslash⟩, hdot, hup⟩
    exact ⟨⟨hempty, hdot⟩, ⟨hup, hslash⟩, hnul⟩

/-- A file at the end of a way whose last piece is the name of a command is an
entry of the directory to which the way before that name leads. -/
theorem exists_of_walk_name (htree : machine.volume.IsTree)
    (hname : isCommandName name = true) (hdot : name ≠ ['.'])
    {links : Nat} {start location : Location} {pieces : List Text} {node : Node}
    (hwalk : machine.volume.walk .target links start (pieces ++ [name]) = .ok
      (.occupied location)) (hfind : machine.volume.find? location = some node)
    (hfile : node.isFile = true) :
    ∃ here left,
      machine.volume.walk .target links start pieces = .ok (.occupied here) ∧
      machine.volume.find? here = some .directory ∧
      name ∈ machine.volume.names here ∧
      machine.volume.walk .target left here [name] =
        .ok (.occupied location) := by
  obtain ⟨here, left, hfront, hlast⟩ :=
    Volume.exists_of_walk_target_append hwalk
  refine ⟨here, left, hfront, Volume.find?_of_walk_target_name hlast, ?_, hlast⟩
  by_cases hup : name = Path.up
  · rw [hup] at hlast
    have hdirectory := htree.find?_of_walk_target_up hlast
    rw [hfind] at hdirectory
    cases hdirectory
    cases hfile
  · exact Volume.mem_names_of_walk_target_name
      (isFileName_iff.2 ⟨hname, hdot, hup⟩) hlast

/-- An executable that is found under a name is in the directory where it is
looked for. -/
theorem exists_of_runs_join (htree : machine.volume.IsTree)
    (hname : isCommandName name = true) (hdot : name ≠ ['.'])
    (h : machine.runs (path.join (Path.ofText name)) = true) :
    ∃ location, machine.volume.walk .target Volume.linkLimit
      (machine.origin path) path.parts =
      .ok (.occupied location) ∧
        machine.volume.find? location = some .directory ∧
        name ∈ machine.volume.names location := by
  obtain ⟨-, -, hslash⟩ := isCommandName_iff.1 hname
  obtain ⟨found, node, hexamine, hfile⟩ :=
    examine_of_isExecutable (isExecutable_of_runs h)
  obtain ⟨hwalk, hfind⟩ := walk_of_examine hexamine
  rw [join_ofText_name (isName_of_isCommandName hname hdot) hslash] at hwalk
  obtain ⟨here, -, hfront, hdirectory, hmem, -⟩ :=
    exists_of_walk_name htree hname hdot hwalk hfind hfile
  exact ⟨here, hfront, hdirectory, hmem⟩

/-- Of the names in a directory, the executables that start with a text. -/
theorem executablesAmong_eq_filter (start : Text)
    (htells : ∀ name ∈ names, machine.Tells (path.join (Path.ofText name))) :
    machine.executablesAmong start path names = .ok (names.filter fun name =>
      start.isPrefixOf name &&
        machine.runs (path.join (Path.ofText name))) := by
  induction names with
  | nil => rfl
  | cons first rest ih =>
      have hrest :=
        ih fun name hname => htells name (List.mem_cons_of_mem _ hname)
      have hfirst := (htells first List.mem_cons_self).isExecutable_eq
      rw [executablesAmong, hrest, hfirst, List.filter_cons]
      cases start.isPrefixOf first <;>
        cases machine.runs (path.join (Path.ofText first)) <;> rfl

/-- A listed directory has the executables that it is told to have. -/
theorem mem_and_offers_iff (htree : machine.volume.IsTree)
    (hlist : machine.list (Path.ofText directory) = .ok names) :
    name ∈ names ∧ machine.offers directory name = true ↔
      isCommandName name = true ∧ name ≠ ['.'] ∧
        machine.offers directory name = true := by
  obtain ⟨location, hwalk, rfl⟩ := names_of_list hlist
  constructor
  · rintro ⟨hname, hoffers⟩
    obtain ⟨hcommand, hdot, -⟩ :=
      isFileName_iff.1 (htree.isFileName_of_mem hname)
    exact ⟨hcommand, hdot, hoffers⟩
  · rintro ⟨hcommand, hdot, hoffers⟩
    obtain ⟨found, hfound, -, hname⟩ :=
      exists_of_runs_join htree hcommand hdot hoffers
    rw [hwalk] at hfound
    cases hfound
    exact ⟨hname, hoffers⟩

namespace Browsable

theorem of_cons (h : machine.Browsable (directory :: directories)) :
    machine.Browsable directories where
  tree := h.tree
  searchable :=
    fun other hother => h.searchable other (List.mem_cons_of_mem _ hother)
  tells := fun other hother => h.tells other (List.mem_cons_of_mem _ hother)

/-- Neither the order of the directories counts nor how often they occur. -/
theorem of_mem_iff (h : machine.Browsable directories) {others : List Text}
    (hothers : ∀ directory, directory ∈ others ↔ directory ∈ directories) :
    machine.Browsable others where
  tree := h.tree
  searchable := fun directory hdirectory =>
    h.searchable directory ((hothers directory).1 hdirectory)
  tells := fun directory hdirectory =>
    h.tells directory ((hothers directory).1 hdirectory)

/-- What is not listed has no executables. -/
theorem not_offers_of_list_eq_error (h : machine.Browsable directories)
    (hdirectory : directory ∈ directories) {refusal : Refusal}
    (hlist : machine.list (Path.ofText directory) = .error refusal)
    (hname : isCommandName name = true) (hdot : name ≠ ['.']) :
    ¬ machine.offers directory name = true := by
  intro hoffers
  obtain ⟨location, hwalk, hfind, -⟩ :=
    exists_of_runs_join h.tree hname hdot hoffers
  rcases (h.searchable directory hdirectory).2 with ⟨names, hnames⟩ | hnone
  · rw [hlist] at hnames
    cases hnames
  · exact hnone ⟨location, hwalk, hfind⟩

theorem system_of_list_eq_error (h : machine.Browsable directories)
    (hdirectory : directory ∈ directories) {refusal : Refusal}
    (hlist : machine.list (Path.ofText directory) = .error refusal) :
    ∃ error, refusal = .system error := by
  cases declines_of_list hlist with
  | nul htext =>
      rcases Path.mem_of_mem_toText_ofText htext with hnul | hslash | hdot
      · exact absurd hnul (h.searchable directory hdirectory).1
      · cases hslash
      · cases hdot
  | system hraises => exact ⟨_, rfl⟩

/-- Listing a directory finds the executables that are found by asking for their
names. -/
theorem executablesStarting_cons
    (h : machine.Browsable (directory :: directories)) {start : Text}
    {others : List Text}
    (hothers : machine.executablesStarting start directories = .ok others) :
    ∃ here, machine.executablesStarting start (directory :: directories) =
      .ok (here ++ others) ∧
      ∀ name, name ∈ here ↔ start <+: name ∧ isCommandName name = true ∧
        name ≠ ['.'] ∧
        machine.offers directory name = true := by
  cases hlist : machine.list (Path.ofText directory) with
  | error refusal =>
      obtain ⟨error, rfl⟩ := h.system_of_list_eq_error List.mem_cons_self hlist
      refine ⟨[], ?_, fun name => iff_of_false List.not_mem_nil ?_⟩
      · rw [executablesStarting, hlist, hothers]
        rfl
      · rintro ⟨-, hname, hdot, hoffers⟩
        exact h.not_offers_of_list_eq_error List.mem_cons_self hlist hname hdot
          hoffers
  | ok names =>
      have hamong :=
        executablesAmong_eq_filter start (h.tells directory List.mem_cons_self
        names hlist)
      refine ⟨names.filter fun name => start.isPrefixOf name &&
        machine.offers directory name, ?_, fun name => ?_⟩
      · simp only [executablesStarting, hlist, hothers, hamong]
        rfl
      · have hlisted : name ∈ names ∧ machine.offers directory name = true ↔
            isCommandName name = true ∧ name ≠ ['.'] ∧
              machine.offers directory name = true :=
          mem_and_offers_iff h.tree hlist
        rw [List.mem_filter, Bool.and_eq_true, List.isPrefixOf_iff_prefix,
          and_left_comm, hlisted]

/-- Listing the directories finds the executables that are found by asking for
their names. -/
theorem mem_executablesStarting (h : machine.Browsable directories)
    (start : Text) :
    ∃ found, machine.executablesStarting start directories = .ok found ∧
      ∀ name, name ∈ found ↔
      start <+: name ∧ isCommandName name = true ∧ name ≠ ['.'] ∧
        ∃ directory ∈ directories, machine.offers directory name = true := by
  induction directories with
  | nil => exact ⟨[], rfl, fun name => by simp⟩
  | cons directory rest ih =>
      obtain ⟨others, hothers, hmem⟩ := ih h.of_cons
      obtain ⟨here, hfound, hhere⟩ := h.executablesStarting_cons hothers
      refine ⟨here ++ others, hfound, fun name => ?_⟩
      simp only [List.mem_append, hhere, hmem, List.mem_cons, exists_eq_or_imp,
        and_or_left]

end Browsable

/-- Asking the directories for a name finds an executable if one of them has
it. -/
theorem exists_findIn (htells : ∀ directory ∈ directories,
      machine.Tells ((Path.ofText directory).join (Path.ofText name))) :
    ∃ found, machine.findIn name directories = .ok found ∧
      (found.isSome = true ↔
      ∃ directory ∈ directories, machine.offers directory name = true) := by
  induction directories with
  | nil => exact ⟨none, rfl, by simp⟩
  | cons directory rest ih =>
      have hfirst := (htells directory List.mem_cons_self).isExecutable_eq
      cases hoffers : machine.offers directory name with
      | true =>
          refine ⟨some (machine.absolute ((Path.ofText directory).join
            (Path.ofText name))), ?_, ?_⟩
          · rw [findIn, hfirst, show machine.runs _ = true from hoffers]
            rfl
          · exact iff_of_true rfl ⟨directory, List.mem_cons_self, hoffers⟩
      | false =>
          obtain ⟨found, hfound, hiff⟩ :=
            ih fun other hother => htells other (List.mem_cons_of_mem _ hother)
          refine ⟨found, ?_, ?_⟩
          · rw [findIn, hfirst, show machine.runs _ = false from hoffers]
            exact hfound
          · simp [hiff, hoffers]

theorem exists_findExecutable (h : machine.TellsCommand directories name) :
    ∃ found, machine.findExecutable name directories = .ok found ∧
      (found.isSome = true ↔
      isCommandName name = true ∧
        ∃ directory ∈ directories, machine.offers directory name = true) := by
  unfold findExecutable
  by_cases hname : isCommandName name = true
  · obtain ⟨found, hfound, hiff⟩ := exists_findIn (h hname)
    exact ⟨found, (if_pos hname).trans hfound,
      hiff.trans (and_iff_right hname).symm⟩
  · exact ⟨none, if_neg hname, iff_of_false Bool.false_ne_true fun hoffered =>
      hname hoffered.1⟩

end LineShell.Machine
