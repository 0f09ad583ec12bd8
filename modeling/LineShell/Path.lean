import LineShell.Text

/-!
Paths as text: a root and a list of names.

A text is read as a path by cutting it at slashes and dropping empty pieces and
single dots.  One slash at the start, or three and more, is the root; exactly
two are a root of their own.  Every text spells a proper path
(`isProper_ofText`), and a proper path is read back from what it is written as
(`ofText_toText`).
-/
namespace LineShell

inductive Root where
  | relative
  | single
  | double
  deriving DecidableEq, Repr

/-- A root and the names below it. -/
structure Path where
  root : Root
  parts : List Text
  deriving DecidableEq, Repr

namespace Path

/-- The name that stands for the directory above. -/
def up : Text := ['.', '.']

/-- Whether a piece between slashes is a name: neither empty nor a single
dot. -/
def isName (piece : Text) : Bool := !(piece = [] || piece = ['.'])

/-- The root that a number of leading slashes stands for. -/
def rootOf : Nat → Root
  | 0 => .relative
  | 2 => .double
  | _ => .single

def ofText (text : Text) : Path :=
  ⟨rootOf (text.takeWhile (· = '/')).length,
    (Text.splitOn '/' text).filter isName⟩

def rootText : Root → Text
  | .relative => []
  | .single => ['/']
  | .double => ['/', '/']

/-- How a path is written; the path without root and names is a single dot. -/
def toText (path : Path) : Text :=
  match path with
  | ⟨.relative, []⟩ => ['.']
  | ⟨root, parts⟩ => rootText root ++ Text.joinWith ['/'] parts

def isAbsolute (path : Path) : Bool := path.root ≠ .relative

/-- The path of `below` seen from `path`: `below` itself if it starts at a
root. -/
def join (path below : Path) : Path :=
  if below.isAbsolute then below else ⟨path.root, path.parts ++ below.parts⟩

def parent (path : Path) : Path := ⟨path.root, path.parts.dropLast⟩

/-- A path whose names are names: not empty, no single dots, and without
slashes. -/
def IsProper (path : Path) : Prop :=
  ∀ part ∈ path.parts, isName part = true ∧ '/' ∉ part

@[simp] theorem join_of_isAbsolute {path below : Path}
    (h : below.isAbsolute = true) :
    path.join below = below := by
  simp [join, h]

/-- Joining to an absolute path gives an absolute path. -/
theorem isAbsolute_join {path below : Path} (h : path.isAbsolute = true) :
    (path.join below).isAbsolute = true := by
  unfold join
  split
  · assumption
  · exact h

/-- A text spells a proper path. -/
theorem isProper_ofText (text : Text) : (ofText text).IsProper := fun _ h =>
  ⟨(List.mem_filter.1 h).2, Text.not_mem_of_mem_splitOn (List.mem_filter.1 h).1⟩

theorem IsProper.join {path below : Path} (h : path.IsProper)
    (hbelow : below.IsProper) :
    (path.join below).IsProper := by
  unfold Path.join
  split
  · exact hbelow
  · intro part hpart
    rcases List.mem_append.1 hpart with hpart | hpart
    · exact h part hpart
    · exact hbelow part hpart

/-- Writing a proper path and reading it gives the path back. -/
theorem ofText_toText {path : Path} (h : path.IsProper) :
    ofText path.toText = path := by
  obtain ⟨root, parts⟩ := path
  have hsplit :
      (Text.splitOn '/' (Text.joinWith ['/'] parts)).filter isName = parts := by
    cases parts with
    | nil => rfl
    | cons part rest =>
      rw [Text.splitOn_joinWith (by simp) fun part hpart => (h part hpart).2]
      exact List.filter_eq_self.2 fun part hpart => (h part hpart).1
  have hstart : (Text.joinWith ['/'] parts).takeWhile (· = '/') = [] := by
    cases parts with
    | nil => rfl
    | cons part rest =>
      have hpart := h part List.mem_cons_self
      cases part with
      | nil => simp [isName] at hpart
      | cons c others =>
        have hc : c ≠ '/' := fun heq => hpart.2 (by simp [heq])
        cases rest <;> simp [Text.joinWith, hc]
  cases root with
  | relative =>
    cases parts with
    | nil => rfl
    | cons part rest => simp [toText, rootText, ofText, hsplit, hstart, rootOf]
  | single => simp [toText, rootText, ofText, hsplit, hstart, rootOf, isName]
  | double => simp [toText, rootText, ofText, hsplit, hstart, rootOf, isName]

example : (ofText "a//b/./".toList).toText = "a/b".toList := by decide
example : (ofText "///x".toList).toText = "/x".toList := by decide

end Path

end LineShell
