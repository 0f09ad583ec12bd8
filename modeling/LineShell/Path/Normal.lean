import LineShell.Path

/-!
The normal form of a path: every `..` folded into the name before it, without
looking at any file.

Main statements: the normal form of a proper path is normal (`isNormal_normal`),
and a normal path is its own normal form (`normal_of_isNormal`).
-/
namespace LineShell.Path

/-- Adds a name to a normal list of names, of which the last comes first: `..`
takes the last name away, and where there is none it is kept in a relative path
and dropped below a root. -/
def climb (absolute : Bool) (parts : List Text) (part : Text) : List Text :=
  if part = up then
    match parts with
    | [] => if absolute then [] else [up]
    | last :: rest => if last = up then up :: last :: rest else rest
  else
    part :: parts

/-- The path with every `..` folded into the name before it. -/
def normal (path : Path) : Path :=
  ⟨path.root, (path.parts.foldl (climb path.isAbsolute) []).reverse⟩

/-- A path in normal form: a proper path in which `..` stands at most in a row
at the start, and nowhere below a root. -/
def IsNormal (path : Path) : Prop :=
  path.IsProper ∧
    ∃ ups names, path.parts = List.replicate ups up ++ names ∧ up ∉ names ∧
      (path.isAbsolute = true → ups = 0)

@[simp] theorem normal_root (path : Path) : path.normal.root = path.root := rfl

@[simp] theorem normal_isAbsolute (path : Path) :
    path.normal.isAbsolute = path.isAbsolute := rfl

/-- A stack of names as `climb` keeps it: names above a row of `..`, which is
empty below a root. -/
def IsStack (absolute : Bool) (parts : List Text) : Prop :=
  ∃ names ups, parts = names ++ List.replicate ups up ∧ up ∉ names ∧
    (absolute = true → ups = 0)

theorem isStack_climb
    {absolute : Bool} {parts : List Text} (h : IsStack absolute parts)
    (part : Text) : IsStack absolute (climb absolute parts part) := by
  obtain ⟨names, ups, rfl, hnames, hups⟩ := h
  unfold climb
  by_cases hpart : part = up
  · rw [if_pos hpart]
    cases names with
    | nil =>
      cases ups with
      | zero =>
        cases absolute with
        | true => exact ⟨[], 0, rfl, by simp, fun _ => rfl⟩
        | false => exact ⟨[], 1, rfl, by simp, by simp⟩
      | succ ups =>
        have hrelative : absolute ≠ true := fun heq => by simpa using hups heq
        refine ⟨[], ups + 2, ?_, by simp, fun heq => absurd heq hrelative⟩
        simp [List.replicate_succ]
    | cons name rest =>
      simp only [List.mem_cons, not_or] at hnames
      refine ⟨rest, ups, ?_, hnames.2, hups⟩
      simp [Ne.symm hnames.1]
  · rw [if_neg hpart]
    refine ⟨part :: names, ups, rfl, ?_, hups⟩
    simp [hnames, Ne.symm hpart]

theorem isStack_foldl {absolute : Bool}
    (parts : List Text) {stack : List Text} (h : IsStack absolute stack) :
    IsStack absolute (parts.foldl (climb absolute) stack) := by
  induction parts generalizing stack with
  | nil => exact h
  | cons part rest ih => exact ih (isStack_climb h part)

theorem mem_foldl_climb {absolute : Bool} {parts stack : List Text}
    {part : Text} (h : part ∈ parts.foldl (climb absolute) stack) :
    part = up ∨ part ∈ parts ∨ part ∈ stack := by
  induction parts generalizing stack with
  | nil => exact Or.inr (Or.inr h)
  | cons first rest ih =>
    rcases ih h with hup | hrest | hstack
    · exact Or.inl hup
    · exact Or.inr (Or.inl (List.mem_cons_of_mem _ hrest))
    · unfold climb at hstack
      grind

/-- The normal form of a proper path is normal. -/
theorem isNormal_normal {path : Path} (h : path.IsProper) :
    path.normal.IsNormal := by
  constructor
  · intro part hpart
    rcases mem_foldl_climb (List.mem_reverse.1 hpart) with rfl | hmem | hnil
    · decide
    · exact h part hmem
    · exact absurd hnil List.not_mem_nil
  · obtain ⟨names, ups, heq, hnames, hups⟩ :=
      @isStack_foldl path.isAbsolute path.parts [] ⟨[], 0,
        rfl, by simp, fun _ => rfl⟩
    exact ⟨ups,
      names.reverse, by simp [normal, heq], by simpa using hnames, hups⟩

theorem foldl_climb_names
    {absolute : Bool} {names : List Text} (h : up ∉ names) (stack : List Text) :
    names.foldl (climb absolute) stack = names.reverse ++ stack := by
  induction names generalizing stack with
  | nil => rfl
  | cons name rest ih =>
    simp only [List.mem_cons, not_or] at h
    simp [climb, Ne.symm h.1, ih h.2]

theorem foldl_climb_ups (ups count : Nat) :
    (List.replicate ups up).foldl (climb false) (List.replicate count up) =
      List.replicate (ups + count) up := by
  induction ups generalizing count with
  | zero => simp
  | succ ups ih =>
    have hstep : climb false (List.replicate count up) up =
        List.replicate (count + 1) up := by
      cases count <;> simp [climb, List.replicate_succ]
    rw [List.replicate_succ, List.foldl_cons, hstep, ih]
    congr 1
    omega

/-- A normal path is its own normal form. -/
theorem normal_of_isNormal {path : Path} (h : path.IsNormal) :
    path.normal = path := by
  obtain ⟨root, parts⟩ := path
  obtain ⟨-, ups, names, hparts, hnames, habsolute⟩ := h
  simp only at hparts habsolute
  have hups :
      (List.replicate ups up).foldl (climb (isAbsolute ⟨root, parts⟩)) [] =
      List.replicate ups up := by
    cases hroot : isAbsolute ⟨root, parts⟩ with
    | true => simp [habsolute hroot]
    | false => simpa using foldl_climb_ups ups 0
  simp only [normal, mk.injEq, true_and]
  rw [hparts] at hups ⊢
  rw [List.foldl_append, hups, foldl_climb_names hnames]
  simp

example : (ofText "//a/../../b".toList).normal.toText = "//b".toList := by
    decide
example : (ofText "a/../../b".toList).normal.toText = "../b".toList := by decide

end LineShell.Path
