import LineShell.Proofs.Lookup.Agreement

/-!
The first executable with a name along a list of directories.

The look-up asks for joined paths.  What it comes to is said here in terms of
directories and of the entries in them, however a directory is spelled: empty
pieces and single dots in a spelling lead nowhere else (`Volume.walk_filter`).

Main statement: a name is found in the first directory that has an executable
entry of that name, and nothing after that directory counts
(`findExecutable_first`).  The one name that is looked up otherwise is a single
dot: joined to a path it is dropped, so that the path itself is asked for.
-/
namespace LineShell

theorem Path.isAbsolute_ofText_iff {text : Text} :
    (Path.ofText text).isAbsolute = true ↔ text.head? = some '/' := by
  constructor
  · intro habsolute
    by_contra hhead
    rw [isAbsolute_ofText hhead] at habsolute
    cases habsolute
  · intro hhead
    obtain ⟨rest, rfl⟩ := List.head?_eq_some_iff.1 hhead
    have hroot : ∀ count, rootOf (count + 1) ≠ .relative := by
      intro count
      unfold rootOf
      split <;> simp_all
    simp [isAbsolute, ofText, hroot]

/-- A stretch of a walk whose link leaves only names on the way. -/
def Stretch.tidied : Stretch → Stretch
  | .link directory target rest =>
      .link directory target (rest.filter Path.isName)
  | other => other

namespace Volume

/-- Whether the last piece of a way, if there is one, is a name. -/
def EndsWithName (pieces : List Text) : Prop :=
  ∀ last, pieces.getLast? = some last → Path.isName last = true

variable {volume : Volume} {pieces rest : List Text} {first name : Text}

theorem endsWithName_concat (hname : Path.isName name = true)
    (pieces : List Text) :
    EndsWithName (pieces ++ [name]) := by
  intro last hlast
  rw [List.getLast?_concat] at hlast
  cases hlast
  exact hname

namespace EndsWithName

theorem tail (h : EndsWithName (first :: rest)) : EndsWithName rest := by
  intro last hlast
  apply h
  rw [List.getLast?_cons, hlast]
  rfl

theorem append (h : EndsWithName rest) (hne : rest ≠ []) (pieces : List Text) :
    EndsWithName (pieces ++ rest) := by
  intro last hlast
  apply h
  rw [List.getLast?_append_of_ne_nil _ hne] at hlast
  exact hlast

theorem exists_filter (h : EndsWithName pieces) (hne : pieces ≠ []) :
    ∃ kept others, pieces.filter Path.isName = kept :: others := by
  apply List.exists_cons_of_ne_nil
  intro hfilter
  have hlast := List.getLast?_eq_some_getLast hne
  exact List.filter_eq_nil_iff.1 hfilter _ (List.getLast_mem hne) (h _ hlast)

theorem isEmpty_filter (h : EndsWithName pieces) :
    (pieces.filter Path.isName).isEmpty = pieces.isEmpty := by
  cases pieces with
  | nil => rfl
  | cons first rest =>
      obtain ⟨kept, others, hkept⟩ :=
        h.exists_filter (List.cons_ne_nil first rest)
      rw [hkept]
      rfl

/-- What is left of the way at a link ends as the way does. -/
theorem of_advance
    (h : EndsWithName pieces) {here directory : Location} {target : Text}
    (hstretch : volume.advance .target here pieces =
      .link directory target rest) :
    EndsWithName rest := by
  fun_induction volume.advance .target here pieces with
  | case3 here first others hdirectory hskip ih => exact ih h.tail hstretch
  | case4 here others hdirectory hskip ih => exact ih h.tail hstretch
  | case10 here first others hdirectory hskip hup hwriting hsearch link hfound
      hentry =>
      cases hstretch
      exact h.tail
  | case11 here first others hdirectory hskip hup hwriting hsearch node hlink
      hfound ih =>
      exact ih h.tail hstretch
  | _ => cases hstretch

end EndsWithName

theorem endsWithName_filter (pieces : List Text) :
    EndsWithName (pieces.filter Path.isName) := by
  intro last hlast
  exact (List.mem_filter.1 (List.mem_of_getLast? hlast)).2

theorem isName_of_not_skip (hskip : ¬ (name = [] || name = ['.']) = true) :
    Path.isName name = true := by
  simpa [Path.isName] using hskip

/-- Only the names on a way that ends with a name count. -/
theorem advance_filter (volume : Volume) (here : Location)
    (h : EndsWithName pieces) :
    volume.advance .target here (pieces.filter Path.isName) =
      (volume.advance .target here pieces).tidied := by
  fun_induction volume.advance .target here pieces with
  | case1 => rfl
  | case2 here first rest hdirectory =>
      obtain ⟨kept, others, hkept⟩ :=
        h.exists_filter (List.cons_ne_nil first rest)
      rw [hkept, advance, if_pos hdirectory]
      rfl
  | case3 here first rest hdirectory hskip ih =>
      have hnot : ¬ Path.isName first = true := by
        rw [Path.isName, hskip]
        exact Bool.false_ne_true
      rw [List.filter_cons_of_neg hnot]
      exact ih h.tail
  | case4 here rest hdirectory hskip ih =>
      rw [List.filter_cons_of_pos (isName_of_not_skip hskip), advance,
        if_neg hdirectory, if_neg hskip, if_pos rfl]
      exact ih h.tail
  | case5 here first rest hdirectory hskip hup hwriting => cases hwriting
  | case6 here first rest hdirectory hskip hup hwriting error hsearch =>
      rw [List.filter_cons_of_pos (isName_of_not_skip hskip), advance,
        if_neg hdirectory, if_neg hskip, if_neg hup, hsearch]
      rfl
  | case7 here first rest hdirectory hskip hup hwriting hsearch hnone hlast =>
      rw [List.filter_cons_of_pos (isName_of_not_skip hskip),
        advance_target_name (Decidable.not_not.1 hdirectory) hskip hup hsearch,
        hnone]
      simp only [h.tail.isEmpty_filter, hlast, if_true]
      rfl
  | case8 here first rest hdirectory hskip hup hwriting hsearch hnone hlast =>
      rw [List.filter_cons_of_pos (isName_of_not_skip hskip),
        advance_target_name (Decidable.not_not.1 hdirectory) hskip hup hsearch,
        hnone]
      simp only [h.tail.isEmpty_filter, hlast]
      rfl
  | case9 here first rest hdirectory hskip hup hwriting hsearch target hfound
      hentry =>
      simp at hentry
  | case10 here first rest hdirectory hskip hup hwriting hsearch target hfound
      hentry =>
      rw [List.filter_cons_of_pos (isName_of_not_skip hskip),
        advance_target_name (Decidable.not_not.1 hdirectory) hskip hup hsearch,
        hfound]
      rfl
  | case11 here first rest hdirectory hskip hup hwriting hsearch node hlink
      hfound ih =>
      rw [List.filter_cons_of_pos (isName_of_not_skip hskip),
        advance_target_name (Decidable.not_not.1 hdirectory) hskip hup hsearch,
        hfound]
      cases node with
      | link target => exact (hlink target rfl).elim
      | _ => exact ih h.tail

/-- Empty pieces and single dots on a way that ends with a name lead nowhere
else. -/
theorem walk_filter (volume : Volume) (links : Nat) (here : Location)
    (h : EndsWithName pieces) :
    volume.walk .target links here (pieces.filter Path.isName) =
      volume.walk .target links here pieces := by
  induction links generalizing here pieces with
  | zero =>
      rw [walk, walk, volume.advance_filter here h]
      cases volume.advance .target here pieces <;> rfl
  | succ links ih =>
      rw [walk, walk, volume.advance_filter here h]
      cases hstretch : volume.advance .target here pieces with
      | done place => rfl
      | refused error => rfl
      | link directory target rest =>
          simp only [Stretch.tidied]
          -- The target of the last link may well end with a slash; then nothing
          -- is left after it.
          by_cases hrest : rest = []
          · rw [hrest]
            rfl
          · have hends := h.of_advance hstretch
            obtain ⟨kept, others, hkept⟩ := hends.exists_filter hrest
            have hkeeps : rest.filter Path.isName ≠ [] := by
              rw [hkept]
              exact List.cons_ne_nil kept others
            rw [← ih _ ((endsWithName_filter rest).append hkeeps _),
              ← ih _ (hends.append hrest _)]
            simp only [List.filter_append, List.filter_filter, Bool.and_self]

end Volume

namespace Machine

/-- Whether a text names a directory, as it is spelled; the empty text names the
process directory. -/
def NamesDirectory (machine : Machine) (text : Text) (here : Location) : Prop :=
  machine.volume.walk .target Volume.linkLimit
      (if text.head? = some '/' then []
        else machine.directory) (Text.splitOn '/' text) =
    .ok (.occupied here) ∧
  machine.volume.find? here = some .directory

/-- Whether the system tells that a path leads to a regular file that may be
run. -/
def IsProgram (machine : Machine) (path : Path) : Prop :=
  ∃ location node, machine.examine path = .ok (location, node) ∧
    node.isFile = true ∧ node.isExecutable = true

def entry (directory name : Text) : Path :=
  ⟨(Path.ofText directory).root, (Path.ofText directory).parts ++ [name]⟩

/-- Whether a text names a directory with an entry of the given name that is,
links followed, a regular file that may be run, as the system tells. -/
def Contains (machine : Machine) (directory name : Text) : Prop :=
  ∃ here left location node, machine.NamesDirectory directory here ∧
    name ∈ machine.volume.names here ∧
    machine.volume.walk .target left here [name] = .ok (.occupied location) ∧
    machine.examine (entry directory name) = .ok (location, node) ∧
    node.isFile = true ∧ node.isExecutable = true

variable {machine : Machine} {path : Path} {name directory : Text}
  {before directories : List Text}

theorem runs_iff : machine.runs path = true ↔ machine.IsProgram path := by
  unfold runs isExecutable test IsProgram
  cases machine.examine path with
  | ok found =>
      simp only [Bool.and_eq_true]
      constructor
      · intro hfound
        exact ⟨found.1, found.2, rfl, hfound⟩
      · rintro ⟨location, node, hnode, hprogram⟩
        cases hnode
        exact hprogram
  | error refusal =>
      apply iff_of_false
      · cases habsence : refusal.isAbsence with
        | true => simp [habsence]
        | false => simp [habsence]
      · rintro ⟨location, node, hnode, -⟩
        cases hnode

/-- A directory is walked to as it is spelled, if a name follows. -/
theorem walk_entry (hname : Path.isName name = true) (links : Nat)
    (start : Location) :
    machine.volume.walk .target links start (entry directory name).parts =
      machine.volume.walk .target links start
        (Text.splitOn '/' directory ++ [name]) := by
  have hparts : (entry directory name).parts =
      (Text.splitOn '/' directory ++ [name]).filter Path.isName := by
    rw [List.filter_append, List.filter_cons_of_pos hname]
    rfl
  rw [hparts, Volume.walk_filter _ _ _ (Volume.endsWithName_concat hname _)]

theorem origin_entry (machine : Machine) (directory name : Text) :
    machine.origin (entry directory name) =
      if directory.head? = some '/' then [] else machine.directory := by
  have habsolute : (entry directory name).isAbsolute =
      (Path.ofText directory).isAbsolute := rfl
  simp only [origin, habsolute, Path.isAbsolute_ofText_iff]

/-- A path made absolute before a name is added to it or after. -/
theorem absolute_entry (machine : Machine) (directory name : Text) :
    machine.absolute (entry directory name) =
      ⟨(machine.absolute (Path.ofText directory)).root,
        (machine.absolute (Path.ofText directory)).parts ++ [name]⟩ := by
  have hroot : (entry directory name).isAbsolute =
      (Path.ofText directory).isAbsolute := rfl
  unfold absolute Path.join
  rw [hroot]
  split
  · rfl
  · rw [List.append_assoc]
    rfl

section Names

variable (hname : isCommandName name = true) (hdot : name ≠ ['.'])

include hname hdot

theorem join_eq_entry :
    (Path.ofText directory).join (Path.ofText name) = entry directory name :=
  join_ofText_name (isName_of_isCommandName hname hdot)
    (isCommandName_iff.1 hname).2.2

/-- A name that is found in a directory is that of an entry. -/
theorem offers_iff_contains (htree : machine.volume.IsTree) :
    machine.offers directory name = true ↔ machine.Contains directory name := by
  rw [offers, join_eq_entry hname hdot, runs_iff]
  constructor
  · rintro ⟨location, node, hexamine, hfile, hexecutable⟩
    obtain ⟨hwalk, hfind⟩ := walk_of_examine hexamine
    rw [walk_entry (isName_of_isCommandName hname hdot), origin_entry] at hwalk
    obtain ⟨here, left, hfront, hdirectory, hmem, hlast⟩ :=
      exists_of_walk_name htree hname hdot hwalk hfind hfile
    exact ⟨here, left, location, node, ⟨hfront, hdirectory⟩, hmem, hlast,
      hexamine, hfile, hexecutable⟩
  · rintro ⟨-, -, location, node, -, -, -, hexamine, hprogram⟩
    exact ⟨location, node, hexamine, hprogram⟩

end Names

/-- What a look-up along directories comes to: nothing if none of them has what
is looked for, and else what the first one has that does, whatever comes after
it. -/
theorem findIn_cases (htells : ∀ directory ∈ directories,
      machine.Tells ((Path.ofText directory).join (Path.ofText name))) :
    (machine.findIn name directories = .ok none ∧
      ∀ directory ∈ directories, ¬ machine.offers directory name = true) ∨
    ∃ before directory after, directories = before ++ directory :: after ∧
      (∀ earlier ∈ before, ¬ machine.offers earlier name = true) ∧
      machine.offers directory name = true ∧
      ∀ others, machine.findIn name (before ++ directory :: others) =
        .ok (some (machine.absolute ((Path.ofText directory).join
          (Path.ofText name)))) := by
  induction directories with
  | nil => exact Or.inl ⟨rfl, nofun⟩
  | cons first rest ih =>
      have hfirst := (htells first List.mem_cons_self).isExecutable_eq
      have hrest :=
        ih fun other hother => htells other (List.mem_cons_of_mem _ hother)
      by_cases hoffers : machine.offers first name = true
      · refine Or.inr ⟨[], first, rest, rfl, nofun, hoffers, fun others => ?_⟩
        rw [List.nil_append, findIn, hfirst,
          show machine.runs _ = true from hoffers]
        rfl
      · have hskip : ∀ others, machine.findIn name (first :: others) =
            machine.findIn name others := by
          intro others
          rw [findIn, hfirst,
            show machine.runs _ = false from Bool.eq_false_iff.2 hoffers]
          rfl
        rcases hrest with ⟨hnone, hnot⟩ | ⟨before, directory, after, rfl,
          hbefore, hfound, hstays⟩
        · refine Or.inl ⟨(hskip rest).trans hnone, ?_⟩
          exact List.forall_mem_cons.2 ⟨hoffers, hnot⟩
        · refine Or.inr ⟨first :: before, directory, after, rfl, ?_, hfound,
            fun others => ?_⟩
          · exact List.forall_mem_cons.2 ⟨hoffers, hbefore⟩
          · exact (hskip _).trans (hstays others)

/-- The executable with a name that is looked up at all, where `matching` says
which directories have one. -/
theorem exists_first (hname : isCommandName name = true)
    (htells : machine.TellsCommand directories name) {matching : Text → Prop}
    (hmatching : ∀ directory, machine.offers directory name = true ↔
      matching directory) :
    ∃ found, machine.findExecutable name directories = .ok found ∧
      (found = none ↔ ∀ directory ∈ directories, ¬ matching directory) ∧
      ∀ path, found = some path → ∃ before directory after,
        directories = before ++ directory :: after ∧
        (∀ earlier ∈ before, ¬ matching earlier) ∧ matching directory ∧
        path =
          machine.absolute ((Path.ofText directory).join (Path.ofText name)) ∧
        ∀ others, machine.findExecutable name (before ++ directory :: others) =
          .ok found := by
  have hlooked : ∀ others,
      machine.findExecutable name others = machine.findIn name others :=
    fun others => if_pos hname
  simp only [hlooked, ← hmatching]
  rcases findIn_cases (htells hname) with
    ⟨hnone, hnot⟩ | ⟨before, directory, after, rfl, hbefore, hfound, hstays⟩
  · exact ⟨none, hnone, iff_of_true rfl hnot, nofun⟩
  · refine ⟨_, hstays after, iff_of_false (Option.some_ne_none _) ?_, ?_⟩
    · intro hnot
      exact hnot directory (List.mem_append_right _ List.mem_cons_self) hfound
    · rintro path ⟨⟩
      exact ⟨before, directory, after, rfl, hbefore, hfound, rfl, hstays⟩

theorem findExecutable_of_no_name (hname : ¬ isCommandName name = true) :
    machine.findExecutable name directories = .ok none :=
  if_neg hname

/-- The look-up of a single dot asks for the paths themselves. -/
theorem join_ofText_dot (path : Path) :
    path.join (Path.ofText ['.']) = path := by
  have hdot : Path.ofText ['.'] = ⟨.relative, []⟩ := by decide
  rw [hdot, Path.join_of_relative rfl, List.append_nil]

/-- Where the system tells, the executable with a name is found in the first
directory that contains one, however the directories are spelled and whatever
comes after, and its path is that of the directory with the name at its end;
there is none exactly if no directory contains one or the text is no name.  But
a single dot is found if one of the paths leads to an executable, and the path
of that is the answer. -/
theorem findExecutable_first (machine : Machine)
    (directories : List Text) (name : Text) (htree : machine.volume.IsTree)
    (htells : machine.TellsCommand directories name) :
    (name ≠ ['.'] →
      ∃ found, machine.findExecutable name directories = .ok found ∧
      (found = none ↔ name = [] ∨ '/' ∈ name ∨ '\x00' ∈ name ∨
        ∀ directory ∈ directories, ¬ machine.Contains directory name) ∧
      ∀ path, found = some path →
        path.isAbsolute = true ∧ path.parts.getLast? = some name ∧
        ∃ before directory after, directories = before ++ directory :: after ∧
          (∀ earlier ∈ before, ¬ machine.Contains earlier name) ∧
          machine.Contains directory name ∧
          path.parent = machine.absolute (Path.ofText directory) ∧
          ∀ others, machine.findExecutable name
            (before ++ directory :: others) = .ok found) ∧
    (name = ['.'] →
      ∃ found, machine.findExecutable name directories = .ok found ∧
      (found = none ↔ ∀ directory ∈ directories,
        ¬ machine.IsProgram (Path.ofText directory)) ∧
      ∀ path, found = some path →
        path.isAbsolute = true ∧
        ∃ before directory after, directories = before ++ directory :: after ∧
          (∀ earlier ∈ before, ¬ machine.IsProgram (Path.ofText earlier)) ∧
          machine.IsProgram (Path.ofText directory) ∧
          path = machine.absolute (Path.ofText directory) ∧
          ∀ others, machine.findExecutable name
            (before ++ directory :: others) = .ok found) := by
  constructor
  · intro hdot
    by_cases hname : isCommandName name = true
    · obtain ⟨hempty, hnul, hslash⟩ := isCommandName_iff.1 hname
      obtain ⟨found, hfound, hnone, hfirst⟩ := exists_first hname htells
        fun directory => offers_iff_contains hname hdot htree
      refine ⟨found, hfound, ?_, ?_⟩
      · rw [hnone]
        simp only [hempty, hnul, hslash, false_or]
      · intro path hpath
        obtain ⟨before, directory, after, hsplit, hbefore, hcontains, rfl,
          hstays⟩ :=
          hfirst path hpath
        rw [join_eq_entry hname hdot, absolute_entry]
        refine ⟨machine.isAbsolute_absolute _, List.getLast?_concat, before,
          directory, after, hsplit, hbefore, hcontains, ?_, hstays⟩
        rw [Path.parent, List.dropLast_concat]
    · refine ⟨none, findExecutable_of_no_name hname, iff_of_true rfl ?_, nofun⟩
      rw [isCommandName_iff] at hname
      by_contra hnot
      simp only [not_or] at hnot
      exact hname ⟨hnot.1, hnot.2.2.1, hnot.2.1⟩
  · rintro rfl
    have hprogram : ∀ directory, machine.offers directory ['.'] = true ↔
        machine.IsProgram (Path.ofText directory) := by
      intro directory
      rw [offers, join_ofText_dot, runs_iff]
    obtain ⟨found, hfound, hnone, hfirst⟩ :=
      exists_first (by decide) htells hprogram
    refine ⟨found, hfound, hnone, ?_⟩
    intro path hpath
    obtain ⟨before, directory, after, hsplit, hbefore, hmatches, rfl, hstays⟩ :=
      hfirst path hpath
    rw [join_ofText_dot]
    exact ⟨machine.isAbsolute_absolute _, before, directory, after, hsplit,
      hbefore, hmatches, rfl, hstays⟩

/-- A program that two directories have, one that may not be run, and a single
dot on a search path with a program on it. -/
theorem findExecutable_first_cluttered :
    let machine := Shell.cluttered.machine
    let directories := Shell.cluttered.session.searchPath
    let program : Path := ⟨.single, ["bin".toList, "ls".toList]⟩
    machine.volume.IsTree ∧
      machine.TellsCommand directories "ls".toList ∧
      machine.findExecutable "ls".toList directories = .ok (some program) ∧
      (∃ directory ∈ directories, machine.Contains directory "ls".toList ∧
        machine.absolute (Path.ofText directory) = ⟨.single, ["bin".toList]⟩) ∧
      machine.TellsCommand directories "notes".toList ∧
      (∀ directory ∈ directories, ¬ machine.Contains directory "notes".toList) ∧
      machine.TellsCommand directories ['.'] ∧
      machine.findExecutable ['.'] directories = .ok (some program) ∧
      ∃ directory ∈ directories, machine.IsProgram (Path.ofText directory) ∧
        machine.absolute (Path.ofText directory) = program := by
  intro machine directories program
  have htree : machine.volume.IsTree := Shell.browsable_cluttered.tree
  have htells : ∀ name, machine.TellsCommand directories name :=
    fun _ _ _ _ => tells_of_refuses_nothing (fun _ => rfl) _
  have hls :
      machine.findExecutable "ls".toList directories = .ok (some program) := rfl
  have hnotes : machine.findExecutable "notes".toList directories = .ok none :=
    rfl
  have hdot : machine.findExecutable ['.'] directories = .ok (some program) :=
    rfl
  refine ⟨htree, htells _, hls, ?_, htells _, ?_, htells _, hdot, ?_⟩
  · obtain ⟨found, hfound, -, hfirst⟩ :=
      (findExecutable_first machine directories "ls".toList htree (htells _)).1
        (by decide)
    obtain rfl : some program = found := Except.ok.inj (hls.symm.trans hfound)
    obtain ⟨-, -, before, directory, after, hsplit, -, hcontains, hparent, -⟩ :=
      hfirst program rfl
    refine ⟨directory, ?_, hcontains, hparent.symm⟩
    rw [hsplit]
    exact List.mem_append_right before List.mem_cons_self
  · obtain ⟨found, hfound, hnone, -⟩ :=
      (findExecutable_first machine directories "notes".toList htree
        (htells _)).1 (by decide)
    obtain rfl : none = found := Except.ok.inj (hnotes.symm.trans hfound)
    rcases hnone.1 rfl with h | h | h | h
    · exact absurd h (by decide)
    · exact absurd h (by decide)
    · exact absurd h (by decide)
    · exact h
  · obtain ⟨found, hfound, -, hfirst⟩ :=
      (findExecutable_first machine directories ['.'] htree (htells _)).2 rfl
    obtain rfl : some program = found := Except.ok.inj (hdot.symm.trans hfound)
    obtain ⟨-, before, directory, after, hsplit, -, hprogram, hpath, -⟩ :=
      hfirst program rfl
    refine ⟨directory, ?_, hprogram, hpath.symm⟩
    rw [hsplit]
    exact List.mem_append_right before List.mem_cons_self

end Machine

end LineShell
