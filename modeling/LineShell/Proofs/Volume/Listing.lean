import LineShell.Proofs.Path.Joining
import LineShell.Proofs.Volume.Growth
import LineShell.Volume.Standard

/-!
Listing a directory, and looking one of its names up.

A volume stays a tree while things are stored in its directories (`IsTree.put`).
A directory lists exactly the names at which something is (`mem_names_iff`).  A
path with one more name at its end leads first to where the path before it leads
(`exists_of_walk_target_append`), so what is found under a name below a path is
listed there (`mem_names_of_walk_target_name`).
-/
namespace LineShell

def isFileName (name : Text) : Bool :=
  Path.isName name &&
    !(name = Path.up || name.contains '/' || name.contains '\x00')

namespace Stretch

/-- A stretch of a walk to what a path leads to, with one more name at its
end. -/
def extend (volume : Volume) (name : Text) : Stretch → Stretch
  | .done (.occupied location) => volume.advance .target location [name]
  | .done (.vacant _ _) => .refused .noEntry
  | .link directory target rest => .link directory target (rest ++ [name])
  | .refused error => .refused error

end Stretch

namespace Volume

/-- Whether the entries of a volume are a tree: they have names, and each is in
a directory. -/
structure IsTree (volume : Volume) : Prop where
  names : ∀ entry ∈ volume.entries, ∀ name ∈ entry.1, isFileName name = true
  parents :
    ∀ entry ∈ volume.entries, volume.find? entry.1.dropLast = some .directory

variable {volume : Volume} {location here : Location} {name : Text}

theorem find?_isSome_iff (hne : location ≠ []) :
    (volume.find? location).isSome = true ↔
      ∃ entry ∈ volume.entries, entry.1 = location := by
  cases location with
  | nil => exact absurd rfl hne
  | cons first rest =>
      rw [find?, List.lookup_isSome_iff]
      refine exists_congr fun entry => and_congr_right fun _ => ?_
      rw [beq_iff_eq, eq_comm]

/-- A directory lists the names at which something is. -/
theorem mem_names_iff :
    name ∈ volume.names location ↔
      (volume.find? (location ++ [name])).isSome = true := by
  rw [find?_isSome_iff (by simp), names, List.mem_filterMap]
  refine exists_congr fun entry => and_congr_right fun _ => ?_
  constructor
  · intro hlast
    split at hlast
    · rename_i hdirectory
      obtain ⟨front, hentry⟩ := List.getLast?_eq_some_iff.1 hlast
      rw [hentry, List.dropLast_concat] at hdirectory
      rw [hentry, hdirectory]
    · cases hlast
  · intro hentry
    rw [hentry, List.dropLast_concat, if_pos rfl, List.getLast?_concat]

theorem IsTree.isFileName_of_mem (h : volume.IsTree)
    (hname : name ∈ volume.names location) :
    isFileName name = true := by
  obtain ⟨entry, hentry, hlocation⟩ :=
    (find?_isSome_iff (by simp)).1 (mem_names_iff.1 hname)
  exact h.names entry hentry name (by simp [hlocation])

/-- What is in a tree is in a directory. -/
theorem IsTree.find?_dropLast (h : volume.IsTree)
    (hsome : (volume.find? location).isSome = true) :
    volume.find? location.dropLast = some .directory := by
  cases location with
  | nil => rfl
  | cons first rest =>
      obtain ⟨entry, hentry, hlocation⟩ := (find?_isSome_iff (by simp)).1 hsome
      rw [← hlocation]
      exact h.parents entry hentry

theorem IsTree.isFileName_of_find? (h : volume.IsTree)
    (hsome : (volume.find? location).isSome = true) (hname : name ∈ location) :
    isFileName name = true := by
  have hne : location ≠ [] := List.ne_nil_of_mem hname
  obtain ⟨entry, hentry, rfl⟩ := (find?_isSome_iff hne).1 hsome
  exact h.names entry hentry name hname

theorem mem_putEntry
    {node : Node} {entry : Location × Node} {entries : List (Location × Node)}
    (h : entry ∈ putEntry location node entries) :
    entry = (location, node) ∨ entry ∈ entries := by
  induction entries with
  | nil => exact Or.inl (List.mem_singleton.1 h)
  | cons first rest ih =>
      unfold putEntry at h
      split at h
      · exact (List.mem_cons.1 h).imp_right (List.mem_cons_of_mem _)
      · rcases List.mem_cons.1 h with rfl | h
        · exact Or.inr List.mem_cons_self
        · exact (ih h).imp_right (List.mem_cons_of_mem _)

/-- Storing something in a directory, or in the place of what it may stand for,
keeps a tree. -/
theorem IsTree.put
    (h : volume.IsTree) (hdirectory : volume.find? location = some .directory)
    (hname : isFileName name = true) {node : Node}
    (hstays : ∀ old, volume.find? (location ++ [name]) = some old →
      old.Stays node) :
    (volume.put (location ++ [name]) node).IsTree where
  names := by
    intro entry hentry other hother
    rcases mem_putEntry hentry with rfl | hentry
    · rcases List.mem_append.1 hother with hother | hother
      · exact h.isFileName_of_find? (by rw [hdirectory]; rfl) hother
      · rw [List.mem_singleton.1 hother]
        exact hname
    · exact h.names entry hentry other hother
  parents := by
    intro entry hentry
    have hgrows := Grows.put volume (location ++ [name]) (by simp) node hstays
    rcases mem_putEntry hentry with rfl | hentry
    · rw [List.dropLast_concat]
      exact hgrows.find?_directory hdirectory
    · exact hgrows.find?_directory (h.parents entry hentry)

/-- One more name at the end of a path changes only how a stretch along it
ends. -/
theorem advance_target_append (volume : Volume) (here : Location)
    (names : List Text) (name : Text) :
    volume.advance .target here (names ++ [name]) =
      (volume.advance .target here names).extend volume name := by
  fun_induction volume.advance .target here names with
  | case1 here => rfl
  | case2 here first rest hdirectory =>
      rw [List.cons_append, advance, if_pos hdirectory]
      rfl
  | case3 here first rest hdirectory hskip ih =>
      rw [List.cons_append, advance, if_neg hdirectory, if_pos hskip]
      exact ih
  | case4 here rest hdirectory hskip ih =>
      rw [List.cons_append, advance, if_neg hdirectory, if_neg hskip,
        if_pos rfl]
      exact ih
  | case5 here first rest hdirectory hskip hup hwriting => cases hwriting
  | case6 here first rest hdirectory hskip hup hwriting error hsearch =>
      rw [List.cons_append, advance, if_neg hdirectory, if_neg hskip,
        if_neg hup, hsearch]
      rfl
  | case7 here first rest hdirectory hskip hup hwriting hsearch hnone hlast =>
      rw [List.cons_append, advance_target_name (Decidable.not_not.1 hdirectory)
        hskip hup hsearch, hnone]
      simp [Stretch.extend]
  | case8 here first rest hdirectory hskip hup hwriting hsearch hnone hlast =>
      rw [List.cons_append, advance_target_name (Decidable.not_not.1 hdirectory)
        hskip hup hsearch, hnone]
      simp [Stretch.extend]
  | case9 here first rest hdirectory hskip hup hwriting hsearch target hfound
      hentry =>
      simp at hentry
  | case10 here first rest hdirectory hskip hup hwriting hsearch target hfound
      hentry =>
      rw [List.cons_append, advance_target_name (Decidable.not_not.1 hdirectory)
        hskip hup hsearch, hfound]
      rfl
  | case11 here first rest hdirectory hskip hup hwriting hsearch node hlink
      hfound ih =>
      rw [List.cons_append, advance_target_name (Decidable.not_not.1 hdirectory)
        hskip hup hsearch, hfound]
      cases node with
      | link target => exact (hlink target rfl).elim
      | _ => exact ih

/-- A path with one more name at its end leads first to where the path before it
leads. -/
theorem exists_of_walk_target_append
    {links : Nat} {names : List Text} {place : Place}
    (h : volume.walk .target links here (names ++ [name]) = .ok place) :
    ∃ directory left,
      volume.walk .target links here names = .ok (.occupied directory) ∧
      volume.walk .target left directory [name] = .ok place := by
  fun_induction volume.walk .target links here names with
  | case1 links here names found hstretch =>
      rw [walk, advance_target_append, hstretch] at h
      cases found with
      | occupied location =>
          refine ⟨location, links, rfl, ?_⟩
          rw [walk]
          exact h
      | vacant directory missing => cases h
  | case2 links here names error hstretch =>
      rw [walk, advance_target_append, hstretch] at h
      cases h
  | case3 here names directory target rest hstretch =>
      rw [walk, advance_target_append, hstretch] at h
      cases h
  | case4 here names directory target rest hstretch links ih =>
      rw [walk, advance_target_append, hstretch] at h
      refine ih ?_
      rw [List.append_assoc]
      exact h

theorem find?_of_walk_target_name {links : Nat} {place : Place}
    (h : volume.walk .target links here [name] = .ok place) :
    volume.find? here = some .directory := by
  by_cases hdirectory : volume.find? here = some .directory
  · exact hdirectory
  · rw [walk, advance, if_pos hdirectory] at h
    cases h

/-- The name at the end of a path to something is in the directory that the path
before it leads to. -/
theorem mem_names_of_walk_target_name
    {links : Nat} (hname : isFileName name = true)
    (h : volume.walk .target links here [name] = .ok (.occupied location)) :
    name ∈ volume.names here := by
  have hdirectory := find?_of_walk_target_name h
  have hskip : ¬ (name = [] || name = ['.']) = true := by
    intro hskip
    simp [isFileName, Path.isName, hskip] at hname
  have hup : name ≠ Path.up := by
    rintro rfl
    cases hname
  rw [mem_names_iff]
  cases hfound : volume.find? (here ++ [name]) with
  | some node => rfl
  | none =>
      cases hsearch : volume.refuses (.search (here ++ [name])) with
      | some error =>
          rw [walk, advance, if_neg (not_not_intro hdirectory), if_neg hskip,
            if_neg hup, hsearch]
            at h
          cases h
      | none =>
          rw [walk, advance_target_name hdirectory hskip hup hsearch, hfound]
            at h
          cases h

/-- The way up from a place in a tree leads to a directory. -/
theorem IsTree.find?_of_walk_target_up (htree : volume.IsTree) {links : Nat}
    (h : volume.walk .target links here [Path.up] = .ok (.occupied location)) :
    volume.find? location = some .directory := by
  have hdirectory := find?_of_walk_target_name h
  rw [walk, advance, if_neg (not_not_intro hdirectory), if_neg (by decide),
    if_pos rfl] at h
  cases h
  exact htree.find?_dropLast (by rw [hdirectory]; rfl)

end Volume

namespace Machine

/-- Whether the system tells what is at the end of a path, or that nothing is
there. -/
def Tells (machine : Machine) (path : Path) : Prop :=
  ∀ refusal, machine.examine path = .error refusal → refusal.isAbsence = true

/-- Whether the names of a path lead to a directory, whatever the system tells
about it. -/
def EndsAtDirectory (machine : Machine) (path : Path) : Prop :=
  ∃ location, machine.volume.walk .target Volume.linkLimit (machine.origin path)
    path.parts =
    .ok (.occupied location) ∧ machine.volume.find? location = some .directory

variable {machine : Machine} {path : Path} {location : Location} {node : Node}
  {name : Text} {names : List Text}

theorem Tells.exists_test (h : machine.Tells path) (holds : Node → Bool) :
    ∃ answer, machine.test holds path = .ok answer := by
  unfold test
  cases hexamine : machine.examine path with
  | ok found => exact ⟨holds found.2, rfl⟩
  | error refusal => exact ⟨false, if_pos (h refusal hexamine)⟩

/-- What can be examined is where its path leads. -/
theorem leadsTo_of_examine (h : machine.examine path = .ok (location, node)) :
    machine.LeadsTo path location ∧
    machine.volume.find? location = some node := by
  unfold examine at h
  cases hlocate : machine.locate .target path with
  | error refusal =>
      rw [hlocate] at h
      cases h
  | ok place =>
      simp only [hlocate, bind, Except.bind] at h
      cases place with
      | vacant directory missing => cases h
      | occupied found =>
          simp only [nodeAt] at h
          cases hrefuses : machine.volume.refuses (.examine found) with
          | some error =>
              rw [hrefuses] at h
              cases h
          | none =>
              simp only [hrefuses] at h
              cases hfind : machine.volume.find? found with
              | none =>
                  rw [hfind] at h
                  cases h
              | some other =>
                  rw [hfind] at h
                  cases h
                  exact ⟨hlocate, hfind⟩

theorem walk_of_examine (h : machine.examine path = .ok (location, node)) :
    machine.volume.walk .target Volume.linkLimit (machine.origin path)
      path.parts =
      .ok (.occupied location) ∧ machine.volume.find? location = some node := by
  obtain ⟨hleads, hfind⟩ := leadsTo_of_examine h
  exact ⟨(locate_eq_ok_iff.1 hleads).2.2, hfind⟩

theorem examine_of_isExecutable (h : machine.isExecutable path = .ok true) :
    ∃ location node, machine.examine path = .ok (location, node) ∧
      node.isFile = true := by
  unfold isExecutable test at h
  cases hexamine : machine.examine path with
  | error refusal =>
      rw [hexamine] at h
      simp only at h
      split at h <;> cases h
  | ok found =>
      simp only [hexamine, Except.ok.injEq, Bool.and_eq_true] at h
      exact ⟨found.1, found.2, rfl, h.1⟩

theorem names_of_list (h : machine.list path = .ok names) :
    ∃ location, machine.volume.walk .target Volume.linkLimit
      (machine.origin path) path.parts =
      .ok (.occupied location) ∧ names = machine.volume.names location := by
  unfold list at h
  cases hexamine : machine.examine path with
  | error refusal =>
      rw [hexamine] at h
      cases h
  | ok found =>
      obtain ⟨hwalk, -⟩ := walk_of_examine hexamine
      simp only [hexamine, bind, Except.bind] at h
      split at h
      · cases hrefuses : machine.volume.refuses (.list found.1) with
        | some error =>
            rw [hrefuses] at h
            cases h
        | none =>
            rw [hrefuses] at h
            cases h
            exact ⟨found.1, hwalk, rfl⟩
      · cases h

end Machine

end LineShell
