import LineShell.Proofs.Volume.Opening

/-!
What the files of a volume hold after targets of redirections have been opened
and a text has been written to one of them.

Main statements: a target that is opened to be emptied is empty, and any other
place keeps its text (`content_of_openTargets`); the output goes to the file of
a redirection of that stream (`output_of_openTargets`); what is written comes
after what the file holds then (`write_appends`).
-/
namespace LineShell

/-- The text of what is at a place, which only a file has. -/
def Node.contentOf : Option Node → Text
  | some (.file content _) => content
  | _ => []

namespace Volume

def content (volume : Volume) (location : Location) : Text :=
  Node.contentOf (volume.find? location)

def IsFile (volume : Volume) (location : Location) : Prop :=
  ∃ content executable, volume.find? location = some (.file content executable)

instance (volume : Volume) (location : Location) :
    Decidable (volume.IsFile location) :=
  match h : volume.find? location with
  | some (.file content executable) => isTrue ⟨content, executable, h⟩
  | some .directory | some (.link _) | some .sink | some .interpreter | none =>
    isFalse (by simp [IsFile, h])

theorem content_of_find?
    {volume : Volume} {location : Location} {content : Text} {executable : Bool}
    (h : volume.find? location = some (.file content executable)) :
    volume.content location = content := by
  rw [Volume.content, h]
  rfl

theorem Grows.isFile {before after : Volume} (h : before.Grows after)
    {location : Location} (hfile : before.IsFile location) :
    after.IsFile location := by
  obtain ⟨content, executable, hfound⟩ := hfile
  obtain ⟨later, hlater, hstays⟩ := h.keeps location _ hfound
  cases hstays with
  | same => exact ⟨content, executable, hlater⟩
  | file old new executable => exact ⟨new, executable, hlater⟩

end Volume

namespace Touch

variable {made : Path → Prop} {opened : Path → WriteMode → Prop}
  {after : Machine} {location : Location} {first second : Option Node}

/-- A place keeps its text unless it is emptied. -/
theorem contentOf_cases (h : Touch made opened after location first second) :
    Node.contentOf second = Node.contentOf first ∨
      Node.contentOf second = [] ∧ ∃ path, opened path .truncate ∧
        after.LeadsTo path location := by
  cases h with
  | kept => exact Or.inl rfl
  | made => exact Or.inl rfl
  | created => exact Or.inl rfl
  | @emptied path hopened hleads => exact Or.inr ⟨rfl, path, hopened, hleads⟩

end Touch

namespace Machine

variable {machine before after : Machine} {path : Path} {location : Location}

instance (machine : Machine) (path : Path) (location : Location) :
    Decidable (machine.LeadsTo path location) :=
  match h : machine.locate .target path with
  | .ok (.occupied found) =>
      decidable_of_iff (found = location) (by simp [LeadsTo, h])
  | .ok (.vacant _ _) => isFalse (by simp [LeadsTo, h])
  | .error _ => isFalse (by simp [LeadsTo, h])

/-- A path leads to one place at most. -/
theorem LeadsTo.unique {other : Location} (h : machine.LeadsTo path location)
    (hother : machine.LeadsTo path other) : location = other := by
  rw [LeadsTo, h] at hother
  cases hother
  rfl

/-- The path of a file that was opened leads to it. -/
theorem leadsTo_of_openFile {mode : WriteMode} {handle : Handle}
    (h : machine.openFile path mode = .ok (handle, after)) :
    after.LeadsTo path handle.location ∧
    handle = ⟨handle.location, mode, 0⟩ := by
  obtain ⟨place, hlocate, rfl, hopened⟩ := openFile_eq_ok h
  have hgrows := (@openFile_touches _ _ (fun _ => True) _ _ _ h).grows
  refine ⟨hgrows.leadsTo_of_locate hlocate ?_, rfl⟩
  cases place with
  | occupied found => exact ⟨by decide, rfl⟩
  | vacant directory name =>
      have hnone := find?_of_locate_vacant hlocate
      have hfound :
          machine.volume.find? (fileLocation (.vacant directory name)) = none :=
        hnone
      rw [hfound] at hopened
      cases hopened
      exact ⟨rfl, _, (Volume.find?_put _ (by simp [fileLocation]) _ _).trans
        (if_pos rfl), by simp⟩

/-- What was opened to be emptied is empty. -/
theorem content_of_openFile_truncate {handle : Handle}
    (h : machine.openFile path .truncate = .ok (handle, after)) :
    after.volume.content handle.location = [] := by
  obtain ⟨place, -, rfl, hopened⟩ := openFile_eq_ok h
  have hput : ∀ executable,
      machine.volume.find? (fileLocation place) ≠ some .directory →
      (machine.volume.put (fileLocation place) (.file [] executable)).content
        (fileLocation place) = [] := by
    intro executable hfound
    have hne : fileLocation place ≠ [] :=
      fun hroot => hfound (by rw [hroot]; rfl)
    exact Volume.content_of_find?
      ((Volume.find?_put _ hne _ _).trans (if_pos rfl))
  cases hfound : machine.volume.find? (fileLocation place) with
  | none =>
      rw [hfound] at hopened
      cases hopened
      exact hput false (by simp [hfound])
  | some node =>
      rw [hfound] at hopened
      cases node with
      | directory => cases hopened
      | interpreter => cases hopened
      | link target => cases hopened
      | sink =>
          cases hopened
          rw [Volume.content, hfound]
          rfl
      | file content executable =>
          cases hopened
          exact hput executable (by simp [hfound])

/-- Whether a place is as it was, or a directory has been made there to which a
path of the given kind leads. -/
def Spares (made : Path → Prop) (before after : Machine) (location : Location) :
    Prop :=
  after.volume.find? location = before.volume.find? location ∨
    before.volume.find? location = none ∧
    after.volume.find? location = some .directory ∧
      ∃ path, made path ∧ after.LeadsTo path location

namespace Spares

variable {made : Path → Prop} {middle : Machine}

theorem mono {made' : Path → Prop} (h : Spares made before after location)
    (hmade : ∀ path, made path → made' path) :
    Spares made' before after location := by
  rcases h with hsame | ⟨hnone, hdirectory, path, hpath, hleads⟩
  · exact Or.inl hsame
  · exact Or.inr ⟨hnone, hdirectory, path, hmade path hpath, hleads⟩

theorem trans (h : Spares made before middle location)
    (hgrows : middle.Grows after) (hnext : Spares made middle after location) :
    Spares made before after location := by
  rcases h with hsame | ⟨hnone, hdirectory, path, hpath, hleads⟩
  · rw [Spares, ← hsame]
    exact hnext
  · exact Or.inr ⟨hnone, hgrows.volume.find?_directory hdirectory, path, hpath,
      hgrows.leadsTo hleads⟩

end Spares

/-- A place to which nothing that was opened leads is spared. -/
theorem Touches.spares {made : Path → Prop} {opened : Path → WriteMode → Prop}
    (h : Touches made opened before after)
    (hnot : ∀ path mode, opened path mode → ¬ after.LeadsTo path location) :
    Spares made before after location := by
  have htouch := h.touch location
  unfold Spares
  generalize before.volume.find? location = first at htouch ⊢
  generalize after.volume.find? location = second at htouch ⊢
  cases htouch with
  | kept => exact Or.inl rfl
  | @made path hmade hleads => exact Or.inr ⟨rfl, rfl, path, hmade, hleads⟩
  | created hopened hleads => exact absurd hleads (hnot _ _ hopened)
  | emptied hopened hleads => exact absurd hleads (hnot _ _ hopened)

variable {cwd : Path} {streams opened : Streams}
  {redirections : List Redirection}

theorem touches_of_openTargets
    (h : machine.openTargets cwd streams redirections = (.ok opened, after)) :
    Touches (aboveTargets cwd redirections) (targets cwd redirections) machine
      after := by
  obtain ⟨_, _, hprogress, htouches⟩ :=
    machine.openTargets_touches cwd streams redirections
  rw [h] at hprogress htouches
  cases hprogress
  exact htouches

/-- What is empty stays so while targets are opened. -/
theorem content_of_openTargets_nil
    (h : machine.openTargets cwd streams redirections = (.ok opened, after))
    (hempty : machine.volume.content location = []) :
    after.volume.content location = [] := by
  rcases ((touches_of_openTargets h).touch location).contentOf_cases
    with hsame | ⟨hnil, -⟩
  · exact hsame.trans hempty
  · exact hnil

theorem content_of_openTargets_truncate
    (h : machine.openTargets cwd streams redirections = (.ok opened, after))
    {redirection : Redirection} (hmem : redirection ∈ redirections)
    (hmode : redirection.mode = .truncate)
    (hleads : after.LeadsTo (redirection.path cwd) location) :
    after.volume.content location = [] := by
  fun_induction machine.openTargets cwd streams redirections with
  | case1 => cases hmem
  | case2 machine streams first rest handle made hmade ih =>
      rcases List.mem_cons.1 hmem with rfl | hmem
      · obtain ⟨parents, -, hopened⟩ := openTarget_eq_ok hmade
        have hthere := (touches_of_openTargets h).grows.leadsTo
            (leadsTo_of_openFile hopened).1
        obtain rfl := hleads.unique hthere
        -- The targets that are opened after it write nothing, so it stays
        -- empty.
        rw [hmode] at hopened
        exact content_of_openTargets_nil h
          (content_of_openFile_truncate hopened)
      · exact ih h hmem
  | case3 => cases h

/-- A target that is opened to be emptied is empty then, and any other place
keeps its text. -/
theorem content_of_openTargets
    (h : machine.openTargets cwd streams redirections = (.ok opened, after))
    (location : Location) :
    after.volume.content location = machine.volume.content location ∨
      after.volume.content location = [] ∧ ∃ redirection ∈ redirections,
        redirection.mode = .truncate ∧
          after.LeadsTo (redirection.path cwd) location := by
  rcases ((touches_of_openTargets h).touch location).contentOf_cases with
    hsame | ⟨hnil, path, ⟨redirection, hmem, rfl, hmode⟩, hleads⟩
  · exact Or.inl hsame
  · exact Or.inr ⟨hnil, redirection, hmem, hmode.symm, hleads⟩

/-- The output goes to the start of a file of a redirection of that stream, if
there is any. -/
theorem output_of_openTargets
    (h : machine.openTargets cwd streams redirections = (.ok opened, after)) :
    (opened.output = streams.output ∧
      ∀ redirection ∈ redirections, redirection.stream ≠ .output) ∨
    ∃ redirection ∈ redirections, redirection.stream = .output ∧
      ∃ location, opened.output = some ⟨location, redirection.mode, 0⟩ ∧
        after.LeadsTo (redirection.path cwd) location := by
  fun_induction machine.openTargets cwd streams redirections with
  | case1 =>
      cases h
      exact Or.inl ⟨rfl, by simp⟩
  | case2 machine streams first rest handle made hmade ih =>
      rcases ih h with ⟨hkept, hnot⟩ | ⟨redirection, hmem, hfound⟩
      · by_cases hstream : first.stream = .output
        · obtain ⟨parents, -, hopened⟩ := openTarget_eq_ok hmade
          obtain ⟨hleads, hhandle⟩ := leadsTo_of_openFile hopened
          have hset :
              (streams.set first.stream handle).output = some handle := by
            rw [hstream]
            rfl
          refine Or.inr ⟨first, List.mem_cons_self, hstream, handle.location,
            ?_, ?_⟩
          · rw [hkept, hset, ← hhandle]
          · exact (touches_of_openTargets h).grows.leadsTo hleads
        · have hset :
              (streams.set first.stream handle).output = streams.output := by
            cases hfirst : first.stream with
            | output => exact absurd hfirst hstream
            | errors => rfl
          refine Or.inl ⟨hkept.trans hset, fun redirection hmem => ?_⟩
          rcases List.mem_cons.1 hmem with rfl | hmem
          · exact hstream
          · exact hnot redirection hmem
      · exact Or.inr ⟨redirection, List.mem_cons_of_mem _ hmem, hfound⟩
  | case3 => cases h

/-- Whether a text has come to stand at the end of the given files, and all else
is as before. -/
structure Appends (filled : Location → Prop) (text : Text)
    (before after : Machine) : Prop where
  grows : before.Grows after
  file : ∀ location, filled location → ∃ content executable,
    before.volume.find? location = some (.file content executable) ∧
      after.volume.find? location = some (.file (content ++ text) executable)
  frame : ∀ location, ¬ filled location →
    after.volume.find? location = before.volume.find? location

namespace Appends

variable {filled : Location → Prop} {text : Text}

theorem refl (machine : Machine) (hnone : ∀ location, ¬ filled location) :
    Appends filled text machine machine :=
  ⟨.refl machine, fun location hfilled => absurd hfilled (hnone location),
    fun _ _ => rfl⟩

theorem content_of_filled (h : Appends filled text before after)
    (hfilled : filled location) :
    after.volume.content location = before.volume.content location ++ text := by
  obtain ⟨content, executable, hbefore, hafter⟩ := h.file location hfilled
  rw [Volume.content_of_find? hbefore, Volume.content_of_find? hafter]

theorem content_of_not_filled (h : Appends filled text before after)
    (hfilled : ¬ filled location) :
    after.volume.content location = before.volume.content location := by
  rw [Volume.content, Volume.content, h.frame location hfilled]

theorem isFile_iff (h : Appends filled text before after) :
    after.volume.IsFile location ↔ before.volume.IsFile location := by
  refine ⟨fun ⟨content, executable, hfound⟩ => ?_, h.grows.volume.isFile⟩
  by_cases hfilled : filled location
  · obtain ⟨old, executable, hbefore, -⟩ := h.file location hfilled
    exact ⟨old, executable, hbefore⟩
  · exact ⟨content, executable, (h.frame location hfilled).symm.trans hfound⟩

end Appends

/-- A file takes a text if the volume does not refuse it. -/
theorem write_of_isFile {text : Text} (hfile : machine.volume.IsFile location)
    (htakes : text ≠ [] → machine.volume.refuses (.write location) = none)
    (mode : WriteMode) (position : Nat) :
    ∃ moved after,
      machine.write ⟨location, mode, position⟩ text = .ok (moved, after) := by
  obtain ⟨content, executable, hfound⟩ := hfile
  have hopen : machine.IsOpen ⟨location, mode, position⟩ :=
    ⟨_, hfound, Or.inr ⟨content, executable, rfl⟩⟩
  cases hwrite : machine.write ⟨location, mode, position⟩ text with
  | error error =>
      obtain ⟨hne, hrefuses⟩ := hopen.write_eq_error_iff.1 hwrite
      rw [htakes hne] at hrefuses
      cases hrefuses
  | ok written => exact ⟨written.1, written.2, rfl⟩

/-- A text that is written to a file stands after what the file holds, if the
file was opened to be appended to, or emptied and not written to yet. -/
theorem write_appends {handle moved : Handle}
    {text : Text} (h : machine.write handle text = .ok (moved, after))
    (hfile : machine.volume.IsFile handle.location)
    (hstart : handle.position = 0)
    (hempty : handle.mode = .truncate →
      machine.volume.content handle.location = []) :
    Appends (fun location => location = handle.location) text machine
      after := by
  obtain ⟨content, executable, hfound⟩ := hfile
  have hcontent := Volume.content_of_find? hfound
  have hwritten : written handle text content = content ++ text := by
    unfold written
    cases hmode : handle.mode with
    | append => rfl
    | truncate =>
        have hnil : content = [] := hcontent.symm.trans (hempty hmode)
        rw [hnil, hstart]
        exact Text.writeOver_nil text
  have hne : handle.location ≠ [] := by
    intro hroot
    rw [hroot] at hfound
    cases hfound
  unfold write at h
  split at h
  · rename_i htext
    cases h
    refine ⟨.refl machine, ?_, fun _ _ => rfl⟩
    rintro _ rfl
    refine ⟨content, executable, hfound, ?_⟩
    rw [List.isEmpty_iff.1 htext, List.append_nil]
    exact hfound
  · split at h
    · cases h
    · simp only [hfound, hwritten] at h
      cases h
      have hput :=
        Volume.find?_put machine.volume hne (.file (content ++ text) executable)
      refine ⟨⟨rfl, .put _ _ hne _ fun old hold => ?_⟩, ?_,
        fun location hother => ?_⟩
      · rw [hfound] at hold
        cases hold
        exact .file content (content ++ text) executable
      · rintro _ rfl
        exact ⟨content, executable, hfound, (hput _).trans (if_pos rfl)⟩
      · exact (hput _).trans (if_neg hother)

end Machine

end LineShell
