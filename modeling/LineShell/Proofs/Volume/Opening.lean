import LineShell.Execution
import LineShell.Proofs.Volume.Growth

/-!
What opening the targets of redirections does to a volume, also when one of them
cannot be opened.

Main statement: only the targets that were opened and missing directories above
those that were tried are touched, and no target holds a text that it did not
hold before (`openTargets_touches`).
-/
namespace LineShell

namespace Path

def IsAbove (above path : Path) : Prop :=
  above.root = path.root ∧ ∃ rest, rest ≠ [] ∧ path.parts = above.parts ++ rest

/-- Whether another path, with a name at its end, is on the way to a path: that
path itself, or that of a directory above it. -/
def HasOnWay (path other : Path) : Prop :=
  other.root = path.root ∧ other.parts <+: path.parts ∧ other.parts ≠ []

theorem HasOnWay.of_parent {path other : Path}
    (h : path.parent.HasOnWay other) :
    path.HasOnWay other :=
  ⟨h.1, h.2.1.trans (List.dropLast_prefix _), h.2.2⟩

theorem HasOnWay.isAbove {path other : Path} (h : path.parent.HasOnWay other) :
    other.IsAbove path := by
  obtain ⟨hroot, ⟨rest, hrest⟩, hparts⟩ := h
  have hne : path.parts ≠ [] := by
    intro hempty
    simp only [parent, hempty, List.dropLast_nil, List.append_eq_nil_iff]
      at hrest
    exact hparts hrest.1
  refine ⟨hroot, rest ++ [path.parts.getLast hne], by simp, ?_⟩
  rw [← List.append_assoc, hrest]
  exact (List.dropLast_concat_getLast hne).symm

end Path

def Redirection.path (cwd : Path) (redirection : Redirection) : Path :=
  cwd.join (Path.ofText redirection.target)

/-- What may have become of a place while some directories were to be made and
some files were opened; the paths lead to the place in the machine after
that. -/
inductive Touch (made : Path → Prop) (opened : Path → WriteMode → Prop)
    (after : Machine) (location : Location) :
    Option Node → Option Node → Prop where
  | kept (found : Option Node) : Touch made opened after location found found
  | made {path : Path} (hmade : made path)
      (hleads : after.LeadsTo path location) :
      Touch made opened after location none (some .directory)
  | created {path : Path} {mode : WriteMode} (hopened : opened path mode)
      (hleads : after.LeadsTo path location) :
      Touch made opened after location none (some (.file [] false))
  | emptied {path : Path} (hopened : opened path .truncate)
      (hleads : after.LeadsTo path location)
      (content : Text) (executable : Bool) :
      Touch made opened after location (some (.file content executable))
        (some (.file [] executable))

namespace Touch

variable {made : Path → Prop} {opened : Path → WriteMode → Prop}
  {middle after : Machine} {location : Location}
  {first second third : Option Node}

theorem mono {made' : Path → Prop} {opened' : Path → WriteMode → Prop}
    (h : Touch made opened after location first second)
    (hmade : ∀ path, made path → made' path)
    (hopened : ∀ path mode, opened path mode → opened' path mode) :
    Touch made' opened' after location first second := by
  cases h with
  | kept => exact .kept _
  | made h hleads => exact .made (hmade _ h) hleads
  | created h hleads => exact .created (hopened _ _ h) hleads
  | emptied h hleads content executable =>
      exact .emptied (hopened _ _ h) hleads content executable

theorem trans (h : Touch made opened middle location first second)
    (hgrows : middle.Grows after)
    (hnext : Touch made opened after location second third) :
    Touch made opened after location first third := by
  cases h with
  | kept => exact hnext
  | made h hleads =>
      cases hnext with
      | kept => exact .made h (hgrows.leadsTo hleads)
  | created h hleads =>
      cases hnext with
      | kept => exact .created h (hgrows.leadsTo hleads)
      | emptied => exact .created h (hgrows.leadsTo hleads)
  | emptied h hleads content executable =>
      cases hnext with
      | kept => exact .emptied h (hgrows.leadsTo hleads) content executable
      | emptied => exact .emptied h (hgrows.leadsTo hleads) content executable

end Touch

namespace Machine

/-- Whether no more than the given directories was made and no more than the
given files opened. -/
structure Touches (made : Path → Prop) (opened : Path → WriteMode → Prop)
    (before after : Machine) :
    Prop where
  grows : before.Grows after
  touch : ∀ location,
    Touch made opened after location (before.volume.find? location)
      (after.volume.find? location)

namespace Touches

variable {made : Path → Prop} {opened : Path → WriteMode → Prop}
  {before middle after : Machine}

theorem refl (machine : Machine) : Touches made opened machine machine :=
  ⟨.refl machine, fun _ => .kept _⟩

theorem trans (h : Touches made opened before middle)
    (hnext : Touches made opened middle after) :
    Touches made opened before after :=
  ⟨h.grows.trans hnext.grows, fun location =>
    (h.touch location).trans hnext.grows
    (hnext.touch location)⟩

theorem mono {made' : Path → Prop}
    {opened' : Path → WriteMode → Prop} (h : Touches made opened before after)
    (hmade : ∀ path, made path → made' path)
    (hopened : ∀ path mode, opened path mode → opened' path mode) :
    Touches made' opened' before after :=
  ⟨h.grows, fun location => (h.touch location).mono hmade hopened⟩

/-- Storing a node where a path leads touches that place only. -/
theorem put {machine : Machine} {aim : Aim} {path : Path} {place : Place}
    (hlocate : machine.locate aim path = .ok place)
    (hne : fileLocation place ≠ [])
    (hplace : aim = .entry → ∃ directory name, place = .vacant directory name)
    {node : Node}
    (hlink : ∀ target, node ≠ .link target)
    (hstays : ∀ old, machine.volume.find? (fileLocation place) = some old →
      old.Stays node)
    (htouch : ∀ after : Machine, after.LeadsTo path (fileLocation place) →
      Touch made opened after (fileLocation place)
        (machine.volume.find? (fileLocation place))
        (some node)) :
    Touches made opened machine
      { machine with
        volume := machine.volume.put (fileLocation place) node } := by
  have hgrows : machine.Grows
      { machine with volume := machine.volume.put (fileLocation place) node } :=
    ⟨rfl, .put _ _ hne node hstays⟩
  have hfound := Volume.find?_put machine.volume hne node
  refine ⟨hgrows, fun other => ?_⟩
  rw [hfound]
  by_cases heq : other = fileLocation place
  · subst heq
    rw [if_pos rfl]
    refine htouch _ (hgrows.leadsTo_of_locate hlocate ?_)
    cases place with
    | occupied location =>
        refine ⟨fun haim => ?_, rfl⟩
        obtain ⟨directory, name, hvacant⟩ := hplace haim
        cases hvacant
    | vacant directory name =>
        exact ⟨rfl, node, (hfound _).trans (if_pos rfl), hlink⟩
  · rw [if_neg heq]
    exact .kept _

end Touches

variable {opened : Path → WriteMode → Prop} {machine after : Machine}

/-- Making a directory at the end of a path touches no more than the way to
it. -/
theorem makeDirectory_touches {path : Path}
    (h : machine.makeDirectory path = .ok after) :
    Touches path.HasOnWay opened machine after := by
  unfold makeDirectory at h
  cases hlocate : machine.locate .entry path with
  | error refusal => simp [hlocate, bind, Except.bind] at h
  | ok place =>
      cases place with
      | occupied location => simp [hlocate, bind, Except.bind] at h
      | vacant directory name =>
          simp only [hlocate, bind, Except.bind] at h
          split at h
          · cases h
          · cases h
            have hnone := find?_of_locate_vacant hlocate
            have hparts : path.parts ≠ [] := by
              intro hparts
              obtain ⟨-, -, hwalk⟩ := locate_eq_ok_iff.1 hlocate
              rw [hparts] at hwalk
              simp [Volume.walk, Volume.advance] at hwalk
            refine .put hlocate (by simp [fileLocation]) (fun _ =>
              ⟨directory, name, rfl⟩)
              (by simp) (by simp [fileLocation, hnone]) fun made hleads => ?_
            simp only [fileLocation, hnone]
            exact .made ⟨rfl, List.prefix_refl _, hparts⟩ hleads

theorem makeOneDirectory_touches (machine : Machine) (path : Path) :
    Touches path.HasOnWay opened machine (machine.makeOneDirectory path).2 := by
  fun_cases makeOneDirectory machine path with
  | case1 made hmake => exact makeDirectory_touches hmake
  | case2 => exact .refl machine
  | case3 => exact .refl machine

/-- Making directories up to a path touches no more than the way to it. -/
theorem makeDirectoriesWithin_touches (depth : Nat) (machine : Machine)
    (path : Path) :
    Touches path.HasOnWay opened machine
      (makeDirectoriesWithin depth machine path).2 := by
  fun_induction makeDirectoriesWithin depth machine path with
  | case1 depth path made hmake => exact makeDirectory_touches hmake
  | case2 => exact .refl _
  | case3 => exact .refl _
  | case4 path hmake hparent depth made hmade ih =>
      rw [hmade] at ih
      exact (ih.mono (fun _ => .of_parent) fun _ _ h => h).trans
        (makeOneDirectory_touches made path)
  | case5 path hmake hparent depth refusal made hmade ih =>
      rw [hmade] at ih
      exact ih.mono (fun _ => .of_parent) fun _ _ h => h
  | case6 => exact .refl _

/-- A file that was opened is at the place that its path leads to. -/
theorem openFile_eq_ok {path : Path} {mode : WriteMode} {handle : Handle}
    (h : machine.openFile path mode = .ok (handle, after)) :
    ∃ place, machine.locate .writing path = .ok place ∧
      handle = ⟨fileLocation place, mode, 0⟩ ∧
      machine.openNode (fileLocation place) mode
        (machine.volume.find? (fileLocation place)) =
        .ok after := by
  unfold openFile at h
  cases hlocate : machine.locate .writing path with
  | error refusal => simp [hlocate, bind, Except.bind] at h
  | ok place =>
      simp only [hlocate, bind, Except.bind, openPlace] at h
      split at h
      · cases h
      · split at h
        · cases h
        · rename_i opened hopened
          cases h
          exact ⟨place, rfl, rfl, hopened⟩

/-- What can be opened: a device or a file that is kept, and a missing file or
one that is emptied. -/
theorem openNode_eq_ok {location : Location} {mode : WriteMode}
    (h : machine.openNode location mode (machine.volume.find? location) =
      .ok after) :
    (after = machine ∧ ∃ node, machine.volume.find? location = some node ∧
      (node = .sink ∨ ∃ content executable, node = .file content executable)) ∨
    ∃ executable, location ≠ [] ∧
      after = { machine with
        volume := machine.volume.put location (.file [] executable) } ∧
      (machine.volume.find? location = none ∧ executable = false ∨
        mode = .truncate ∧
          ∃ content, machine.volume.find? location =
            some (.file content executable)) := by
  have hne : machine.volume.find? location ≠ some .directory →
      location ≠ [] := by
    rintro hfound rfl
    exact hfound rfl
  generalize machine.volume.find? location = found at h hne ⊢
  fun_cases openNode machine location mode found with
  | case1 => cases h
  | case2 => cases h
  | case3 => cases h
  | case4 =>
      cases h
      exact Or.inl ⟨rfl, _, rfl, Or.inl rfl⟩
  | case5 content executable =>
      cases h
      exact Or.inl ⟨rfl, _, rfl, Or.inr ⟨content, executable, rfl⟩⟩
  | case6 content executable =>
      cases h
      exact Or.inr ⟨executable, hne (by simp), rfl, Or.inr ⟨rfl, content, rfl⟩⟩
  | case7 =>
      cases h
      exact Or.inr ⟨false, hne (by simp), rfl, Or.inl ⟨rfl, rfl⟩⟩

/-- Opening a file touches no more than what its path leads to. -/
theorem openFile_touches {made : Path → Prop} {path : Path} {mode : WriteMode}
    {handle : Handle} (h : machine.openFile path mode = .ok (handle, after)) :
    Touches made (fun other given => other = path ∧
      given = mode) machine after := by
  obtain ⟨place, hlocate, -, hopened⟩ := openFile_eq_ok h
  rcases openNode_eq_ok hopened with ⟨rfl, -⟩ | ⟨executable, hne, rfl, hfound⟩
  · exact .refl _
  · refine .put hlocate hne (by simp) (by simp) ?_ fun made hleads => ?_
    · intro old hold
      rcases hfound with ⟨hnone, -⟩ | ⟨-, content, hcontent⟩
      · rw [hnone] at hold
        cases hold
      · rw [hcontent] at hold
        cases hold
        exact .file content [] executable
    · rcases hfound with ⟨hnone, rfl⟩ | ⟨rfl, content, hcontent⟩
      · rw [hnone]
        exact .created ⟨rfl, rfl⟩ hleads
      · rw [hcontent]
        exact .emptied ⟨rfl, rfl⟩ hleads content executable

/-- The directories above the targets of redirections. -/
def aboveTargets (cwd : Path) (redirections : List Redirection) (path : Path) :
    Prop :=
  ∃ redirection ∈ redirections, path.IsAbove (redirection.path cwd)

/-- The targets of redirections, each with the mode in which it is opened. -/
def targets (cwd : Path) (redirections : List Redirection) (path : Path)
    (mode : WriteMode) : Prop :=
  ∃ redirection ∈ redirections, path = redirection.path cwd ∧
    mode = redirection.mode

theorem Touches.mono_targets {before : Machine} {cwd : Path}
    {opened tried opened' tried' : List Redirection}
    (h : Touches (aboveTargets cwd tried) (targets cwd opened) before after)
    (htried : tried ⊆ tried') (hopened : opened ⊆ opened') :
    Touches (aboveTargets cwd tried') (targets cwd opened') before after := by
  refine h.mono ?_ ?_
  · rintro path ⟨redirection, hmem, habove⟩
    exact ⟨redirection, htried hmem, habove⟩
  · rintro path mode ⟨redirection, hmem, htarget⟩
    exact ⟨redirection, hopened hmem, htarget⟩

theorem makeParents_touches (opened : Path → WriteMode → Prop)
    (machine : Machine) (cwd : Path) (redirection : Redirection) :
    Touches (aboveTargets cwd [redirection]) opened machine
      (machine.makeDirectories (redirection.path cwd).parent).2 := by
  refine (makeDirectoriesWithin_touches _ machine _).mono (fun path h => ?_)
    fun _ _ h => h
  exact ⟨redirection, List.mem_singleton_self _, h.isAbove⟩

theorem openTarget_eq_ok
    {cwd : Path} {redirection : Redirection} {handle : Handle}
    (h : machine.openTarget cwd redirection = (.ok handle, after)) :
    ∃ made,
      machine.makeDirectories (redirection.path cwd).parent = (.ok (), made) ∧
      made.openFile (redirection.path cwd) redirection.mode =
        .ok (handle, after) := by
  simp only [openTarget] at h
  split at h
  · cases h
  · rename_i made hparents
    split at h
    · rename_i hopened
      cases h
      exact ⟨made, hparents, hopened⟩
    · cases h

theorem openTarget_eq_error
    {cwd : Path} {redirection : Redirection} {refusal : Refusal}
    (h : machine.openTarget cwd redirection = (.error refusal, after)) :
    (machine.makeDirectories (redirection.path cwd).parent).2 = after := by
  simp only [openTarget] at h
  rw [Redirection.path]
  split at h
  · rename_i hparents
    cases h
    rw [hparents]
  · rename_i hparents
    split at h
    · cases h
    · cases h
      rw [hparents]

/-- Opening a target touches no more than it and the directories above it. -/
theorem openTarget_touches
    {cwd : Path} {redirection : Redirection} {handle : Handle}
    (h : machine.openTarget cwd redirection = (.ok handle, after)) :
    Touches (aboveTargets cwd [redirection]) (targets cwd [redirection]) machine
      after := by
  obtain ⟨made, hparents, hopened⟩ := openTarget_eq_ok h
  have hmade :=
    makeParents_touches (targets cwd [redirection]) machine cwd redirection
  rw [hparents] at hmade
  refine hmade.trans
    ((openFile_touches hopened).mono (fun _ h => h) fun path mode h => ?_)
  exact ⟨redirection, List.mem_singleton_self _, h⟩

/-- A target that cannot be opened is not touched itself. -/
theorem openTarget_touches_of_error (opened : Path → WriteMode → Prop)
    {cwd : Path} {redirection : Redirection} {refusal : Refusal}
    (h : machine.openTarget cwd redirection = (.error refusal, after)) :
    Touches (aboveTargets cwd [redirection]) opened machine after := by
  rw [← openTarget_eq_error h]
  exact makeParents_touches opened machine cwd redirection

end Machine

namespace Redirection

/-- How far the targets of redirections were opened and how many were tried: all
of them, or those up to the first that could not be opened. -/
inductive Progress (redirections : List Redirection) :
    List Redirection → List Redirection → Except Failure Streams → Prop where
  | all (streams : Streams) :
      Progress redirections redirections redirections (.ok streams)
  | upTo {opened rest : List Redirection} {failed : Redirection}
      (refusal : Refusal)
      (h : redirections = opened ++ failed :: rest) :
      Progress redirections opened (opened ++ [failed])
        (.error (.ofTarget failed.target refusal))

theorem Progress.cons {redirections opened tried : List Redirection}
    {result : Except Failure Streams}
    (h : Progress redirections opened tried result)
    (redirection : Redirection) :
    Progress (redirection :: redirections) (redirection :: opened)
      (redirection :: tried)
      result := by
  cases h with
  | all streams => exact .all streams
  | upTo refusal h => exact .upTo refusal (by rw [h]; rfl)

end Redirection

namespace Machine

variable {machine after : Machine}

/-- Opening the targets of redirections touches no more than those that were
opened and the directories above those that were tried. -/
theorem openTargets_touches (machine : Machine) (cwd : Path) (streams : Streams)
    (redirections : List Redirection) :
    ∃ opened tried, Redirection.Progress redirections opened tried
        (machine.openTargets cwd streams redirections).1 ∧
      Touches (aboveTargets cwd tried) (targets cwd opened) machine
        (machine.openTargets cwd streams redirections).2 := by
  fun_induction machine.openTargets cwd streams redirections with
  | case1 => exact ⟨[], [], .all _, .refl _⟩
  | case2 machine streams redirection rest handle opened hopened ih =>
      obtain ⟨others, tried, hprogress, htouches⟩ := ih
      refine ⟨redirection :: others, redirection :: tried,
        hprogress.cons redirection, ?_⟩
      have hfirst : Touches (aboveTargets cwd (redirection :: tried))
          (targets cwd (redirection :: others)) machine opened :=
        (openTarget_touches hopened).mono_targets (by simp) (by simp)
      exact hfirst.trans
        (htouches.mono_targets (List.subset_cons_self redirection tried)
        (List.subset_cons_self redirection others))
  | case3 machine streams redirection rest refusal made hmade =>
      exact ⟨[], [redirection], @Redirection.Progress.upTo _ [] rest _ refusal
        rfl, openTarget_touches_of_error _ hmade⟩

/-- Whether a handle is that of a file or a device in this machine. -/
def IsOpen (machine : Machine) (handle : Handle) : Prop :=
  ∃ node, machine.volume.find? handle.location = some node ∧
    (node = .sink ∨ ∃ content executable, node = .file content executable)

theorem Grows.isOpen {before : Machine} (h : before.Grows after)
    {handle : Handle} (hopen : before.IsOpen handle) : after.IsOpen handle := by
  obtain ⟨node, hnode, hkind⟩ := hopen
  obtain ⟨later, hlater, hstays⟩ := h.volume.keeps _ node hnode
  refine ⟨later, hlater, ?_⟩
  cases hstays with
  | same => exact hkind
  | file old new executable => exact Or.inr ⟨new, executable, rfl⟩

/-- A write through an open handle fails only where the volume refuses it. -/
theorem IsOpen.write_eq_error_iff {handle : Handle} (h : machine.IsOpen handle)
    {text : Text} {error : SystemError} :
    machine.write handle text = .error error ↔
      text ≠ [] ∧
        machine.volume.refuses (.write handle.location) = some error := by
  obtain ⟨node, hnode, hkind⟩ := h
  cases text with
  | nil => simp [write]
  | cons c rest =>
      have hwrite : machine.write handle (c :: rest) = .error error ↔
          machine.volume.refuses (.write handle.location) = some error := by
        unfold write
        rw [if_neg (by simp)]
        cases machine.volume.refuses (.write handle.location) with
        | some refused => simp
        | none =>
            rcases hkind with rfl | ⟨content, executable, rfl⟩
            · simp [hnode]
            · simp [hnode]
      simp [hwrite]

theorem openFile_isOpen {path : Path} {mode : WriteMode}
    {handle : Handle} (h : machine.openFile path mode = .ok (handle, after)) :
    after.IsOpen handle := by
  obtain ⟨place, -, rfl, hopened⟩ := openFile_eq_ok h
  rcases openNode_eq_ok hopened with ⟨rfl, hfound⟩ | ⟨executable, hne, rfl, -⟩
  · exact hfound
  · exact ⟨_, (Volume.find?_put _ hne _ _).trans (if_pos rfl),
      Or.inr ⟨[], executable, rfl⟩⟩

theorem openTarget_isOpen {cwd : Path}
    {redirection : Redirection} {handle : Handle}
    (h : machine.openTarget cwd redirection = (.ok handle, after)) :
    after.IsOpen handle := by
  obtain ⟨made, -, hopened⟩ := openTarget_eq_ok h
  exact openFile_isOpen hopened

/-- Whether the files that the streams of a command go to are open. -/
def AreOpen (machine : Machine) (streams : Streams) : Prop :=
  ∀ handle, streams.output = some handle ∨ streams.errors = some handle →
    machine.IsOpen handle

theorem areOpen_none (machine : Machine) : machine.AreOpen .none := by
  rintro handle (h | h) <;> cases h

theorem AreOpen.set {streams : Streams} (h : machine.AreOpen streams)
    {handle : Handle} (hopen : machine.IsOpen handle) (stream : Stream) :
    machine.AreOpen (streams.set stream handle) := by
  intro other hother
  cases stream with
  | output =>
      rcases hother with hother | hother
      · cases hother
        exact hopen
      · exact h other (Or.inr hother)
  | errors =>
      rcases hother with hother | hother
      · exact h other (Or.inl hother)
      · cases hother
        exact hopen

/-- All files that were opened are open in the end. -/
theorem openTargets_areOpen {cwd : Path} {streams opened : Streams}
    {redirections : List Redirection}
    (h : machine.openTargets cwd streams redirections = (.ok opened, after))
    (hopen : machine.AreOpen streams) : after.AreOpen opened := by
  fun_induction machine.openTargets cwd streams redirections with
  | case1 =>
      cases h
      exact hopen
  | case2 machine streams redirection rest handle made hmade ih =>
      have hgrows := (openTarget_touches hmade).grows
      refine ih h (.set (fun other hother => ?_) (openTarget_isOpen hmade) _)
      exact hgrows.isOpen (hopen other hother)
  | case3 => cases h

end Machine

end LineShell
