import LineShell.Volume.Walk

/-!
Growth of a volume: nothing is taken away, and only the text of a file changes.

What a walk has come to stays where it is while the volume grows.  Where a walk
ends at a vacant place and something is stored there, the same path leads to it
afterwards.
-/
namespace LineShell

namespace Node

/-- Whether one node may come to stand where another one stood. -/
inductive Stays : Node → Node → Prop where
  | same (node : Node) : Stays node node
  | file (old new : Text) (executable : Bool) :
      Stays (.file old executable) (.file new executable)

namespace Stays

theorem trans {first second third : Node} (h : first.Stays second)
    (hnext : second.Stays third) :
    first.Stays third := by
  cases h with
  | same => exact hnext
  | file old new executable =>
      cases hnext with
      | same => exact .file old new executable
      | file _ last => exact .file old last executable

theorem eq_directory_iff {first second : Node} (h : first.Stays second) :
    second = .directory ↔ first = .directory := by
  cases h <;> simp

theorem eq_link_iff {first second : Node} (h : first.Stays second)
    (target : Text) :
    second = .link target ↔ first = .link target := by
  cases h <;> simp

end Stays

end Node

namespace Volume

/-- Whether a volume has grown into another one. -/
structure Grows (before after : Volume) : Prop where
  refuses : after.refuses = before.refuses
  keeps : ∀ location node, before.find? location = some node →
    ∃ later, after.find? location = some later ∧ node.Stays later

variable {before middle after : Volume}

namespace Grows

theorem refl (volume : Volume) : volume.Grows volume :=
  ⟨rfl, fun _ node h => ⟨node, h, .same node⟩⟩

theorem trans (h : before.Grows middle) (hnext : middle.Grows after) :
    before.Grows after := by
  refine ⟨hnext.refuses.trans h.refuses, fun location node hnode => ?_⟩
  obtain ⟨kept, hkept, hstays⟩ := h.keeps location node hnode
  obtain ⟨later, hlater, hstaysLater⟩ := hnext.keeps location kept hkept
  exact ⟨later, hlater, hstays.trans hstaysLater⟩

/-- Storing a node where there is none, or one that may stand there, lets a
volume grow. -/
theorem put
    (volume : Volume) (location : Location) (hne : location ≠ []) (node : Node)
    (hstays : ∀ old, volume.find? location = some old → old.Stays node) :
    volume.Grows (volume.put location node) := by
  refine ⟨rfl, fun other old hold => ?_⟩
  rw [find?_put volume hne]
  by_cases heq : other = location
  · subst heq
    exact ⟨node, if_pos rfl, hstays old hold⟩
  · exact ⟨old, (if_neg heq).trans hold, .same old⟩

theorem find?_directory (h : before.Grows after) {location : Location}
    (hfound : before.find? location = some .directory) :
    after.find? location = some .directory := by
  obtain ⟨later, hlater, hstays⟩ := h.keeps location _ hfound
  rw [hlater, hstays.eq_directory_iff.2 rfl]

theorem find?_link (h : before.Grows after) {location : Location}
    {target : Text} (hfound : before.find? location = some (.link target)) :
    after.find? location = some (.link target) := by
  obtain ⟨later, hlater, hstays⟩ := h.keeps location _ hfound
  rw [hlater, (hstays.eq_link_iff target).2 rfl]

end Grows

/-- Whether the end of a walk to an aim has become, or stayed, a place that
something other than a link is at. -/
def IsFilled (after : Volume) (aim : Aim) (location : Location) : Place → Prop
  | .occupied found => aim ≠ .entry ∧ location = found
  | .vacant directory name =>
      location = directory ++ [name] ∧
        ∃ node, after.find? location = some node ∧ ∀ target, node ≠ .link target

/-- What a stretch of a walk says about the same stretch in a volume that has
grown, where the walk is to what the path leads to. -/
def Foresees (after : Volume) (aim : Aim) (later : Stretch) : Stretch → Prop
  | .refused _ => True
  | .link directory target rest => later = .link directory target rest
  | .done place => ∀ location, after.IsFilled aim location place →
      later = .done (.occupied location)

/-- One name of a walk to what a path leads to. -/
theorem advance_target_name {volume : Volume} {here : Location} {name : Text}
    {rest : List Text} (hdirectory : volume.find? here = some .directory)
    (hname : ¬ (name = [] || name = ['.']) = true) (hup : name ≠ Path.up)
    (hsearch : volume.refuses (.search (here ++ [name])) = none) :
    volume.advance .target here (name :: rest) =
      match volume.find? (here ++ [name]) with
      | none => if rest.isEmpty then .done (.vacant here name)
          else .refused .noEntry
      | some (.link target) => .link here target rest
      | some _ => volume.advance .target (here ++ [name]) rest := by
  have hwriting : (decide (Aim.target = .writing) && !rest.isEmpty &&
      rest.all List.isEmpty) =
      false := rfl
  rw [advance, if_neg (not_not_intro hdirectory), if_neg hname, if_neg hup,
    hwriting, hsearch]
  cases volume.find? (here ++ [name]) with
  | none => rfl
  | some node =>
      cases node with
      | link target =>
          have hentry : (rest.isEmpty && decide (Aim.target = .entry)) =
              false := Bool.and_false _
          simp only [hentry]
          rfl
      | _ => rfl

theorem Grows.foresees_advance (h : before.Grows after) (aim : Aim)
    (here : Location) (names : List Text) :
    after.Foresees aim (after.advance .target here names)
      (before.advance aim here names) := by
  fun_induction before.advance aim here names with
  | case1 here =>
      intro location hfilled
      rw [hfilled.2]
      rfl
  | case2 => trivial
  | case3 here name rest hdirectory hskip ih =>
      have hlater := h.find?_directory (Decidable.not_not.1 hdirectory)
      rw [advance, if_neg (not_not_intro hlater), if_pos hskip]
      exact ih
  | case4 here rest hdirectory hskip ih =>
      have hlater := h.find?_directory (Decidable.not_not.1 hdirectory)
      rw [advance, if_neg (not_not_intro hlater), if_neg hskip, if_pos rfl]
      exact ih
  | case5 => trivial
  | case6 => trivial
  | case7 here name rest hdirectory hskip hup hwriting hsearch hnone hlast =>
      rintro location ⟨rfl, node, hnode, hlink⟩
      have hlater := h.find?_directory (Decidable.not_not.1 hdirectory)
      rw [advance_target_name hlater hskip hup (h.refuses ▸ hsearch), hnode,
        List.isEmpty_iff.1 hlast]
      cases node with
      | link target => exact absurd rfl (hlink target)
      | _ => rfl
  | case8 => trivial
  | case9 here name rest hdirectory hskip hup hwriting hsearch target hfound
      hentry =>
      intro location hfilled
      exact absurd (of_decide_eq_true (Bool.and_eq_true_iff.1 hentry).2)
        hfilled.1
  | case10 here name rest hdirectory hskip hup hwriting hsearch target hfound
      hentry =>
      have hlater := h.find?_directory (Decidable.not_not.1 hdirectory)
      show after.advance .target here (name :: rest) = .link here target rest
      rw [advance_target_name hlater hskip hup (h.refuses ▸ hsearch),
        h.find?_link hfound]
  | case11 here name rest hdirectory hskip hup hwriting hsearch node hlink
      hfound ih =>
      have hlater := h.find?_directory (Decidable.not_not.1 hdirectory)
      obtain ⟨later, hnode, hstays⟩ := h.keeps _ node hfound
      rw [advance_target_name hlater hskip hup (h.refuses ▸ hsearch), hnode]
      cases later with
      | link target =>
          exact (hlink target ((hstays.eq_link_iff target).1 rfl)).elim
      | _ => exact ih

/-- After growth a path leads to where a walk along it ended, if something is
there by then. -/
theorem Grows.walk_target (h : before.Grows after) {aim : Aim} {links : Nat}
    {here location : Location} {names : List Text} {place : Place}
    (hwalk : before.walk aim links here names = .ok place)
    (hfilled : after.IsFilled aim location place) :
    after.walk .target links here names = .ok (.occupied location) := by
  fun_induction before.walk aim links here names with
  | case1 links here names found hstretch =>
      obtain rfl := Except.ok.inj hwalk
      have hlater := h.foresees_advance aim here names
      rw [hstretch] at hlater
      rw [walk, hlater location hfilled]
  | case2 => cases hwalk
  | case3 => cases hwalk
  | case4 here names directory target rest hstretch links ih =>
      have hlater := h.foresees_advance aim here names
      rw [hstretch] at hlater
      rw [walk, hlater]
      exact ih hwalk

/-- Nothing is at a vacant place. -/
theorem find?_of_advance_vacant {volume : Volume}
    {aim : Aim} {here directory : Location} {names : List Text} {name : Text}
    (h : volume.advance aim here names = .done (.vacant directory name)) :
    volume.find? (directory ++ [name]) = none := by
  fun_induction volume.advance aim here names with
  | case3 here first rest hdirectory hskip ih => exact ih h
  | case4 here rest hdirectory hskip ih => exact ih h
  | case7 here first rest hdirectory hskip hup hwriting hsearch hnone hlast =>
      cases h
      exact hnone
  | case11 here first rest hdirectory hskip hup hwriting hsearch node hlink
      hfound ih => exact ih h
  | _ => cases h

theorem find?_of_walk_vacant {volume : Volume} {aim : Aim} {links : Nat}
    {here directory : Location} {names : List Text} {name : Text}
    (h : volume.walk aim links here names = .ok (.vacant directory name)) :
    volume.find? (directory ++ [name]) = none := by
  fun_induction volume.walk aim links here names with
  | case1 links here names place hstretch =>
      cases h
      exact find?_of_advance_vacant hstretch
  | case2 => cases h
  | case3 => cases h
  | case4 here names link target rest hstretch links ih => exact ih h

end Volume

namespace Machine

/-- Whether a path leads to a place at which something is. -/
def LeadsTo (machine : Machine) (path : Path) (location : Location) : Prop :=
  machine.locate .target path = .ok (.occupied location)

/-- Whether a machine differs from another one by growth of its volume at
most. -/
structure Grows (before after : Machine) : Prop where
  directory : after.directory = before.directory
  volume : before.volume.Grows after.volume

variable {before middle after : Machine}

theorem locate_eq_ok_iff {machine : Machine} {aim : Aim} {path : Path}
    {place : Place} :
    machine.locate aim path = .ok place ↔
      path.toText.contains '\x00' = false ∧
        machine.volume.refuses (.spell path.toText) = none ∧
        machine.volume.walk aim Volume.linkLimit (machine.origin path)
          path.parts = .ok place := by
  unfold locate
  split
  · simp_all
  · split
    · simp_all
    · rename_i htext _ hspell
      rw [Bool.not_eq_true] at htext
      cases machine.volume.walk aim Volume.linkLimit (machine.origin path)
        path.parts with
      | error error =>
          constructor
          · intro h
            cases h
          · rintro ⟨-, -, h⟩
            cases h
      | ok found =>
          constructor
          · intro h
            cases h
            exact ⟨htext, hspell, rfl⟩
          · rintro ⟨-, -, h⟩
            cases h
            rfl

/-- Nothing is at the vacant place to which a path leads. -/
theorem find?_of_locate_vacant {machine : Machine} {aim : Aim} {path : Path}
    {directory : Location} {name : Text}
    (h : machine.locate aim path = .ok (.vacant directory name)) :
    machine.volume.find? (directory ++ [name]) = none :=
  Volume.find?_of_walk_vacant (locate_eq_ok_iff.1 h).2.2

namespace Grows

theorem refl (machine : Machine) : machine.Grows machine := ⟨rfl, .refl _⟩

theorem trans (h : before.Grows middle) (hnext : middle.Grows after) :
    before.Grows after :=
  ⟨hnext.directory.trans h.directory, h.volume.trans hnext.volume⟩

/-- After growth a path leads to where it ended, if something is there by
then. -/
theorem leadsTo_of_locate
    (h : before.Grows after) {aim : Aim} {path : Path} {place : Place}
    {location : Location} (hlocate : before.locate aim path = .ok place)
    (hfilled : after.volume.IsFilled aim location place) :
    after.LeadsTo path location := by
  obtain ⟨htext, hspell, hwalk⟩ := locate_eq_ok_iff.1 hlocate
  have horigin : after.origin path = before.origin path := by
    unfold origin
    rw [h.directory]
  refine locate_eq_ok_iff.2 ⟨htext, ?_, ?_⟩
  · rw [h.volume.refuses]
    exact hspell
  · rw [horigin]
    exact h.volume.walk_target hwalk hfilled

/-- A path goes on leading to the same place. -/
theorem leadsTo (h : before.Grows after) {path : Path} {location : Location}
    (hleads : before.LeadsTo path location) : after.LeadsTo path location :=
  h.leadsTo_of_locate hleads ⟨by decide, rfl⟩

end Grows

end Machine

end LineShell
