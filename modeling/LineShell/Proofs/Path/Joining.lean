import LineShell.Path.Normal
import LineShell.Proofs.Text.Pieces

/-!
Joining paths, as text and as lists of names.

A text before a slash spells the path that the text after it is joined to
(`ofText_append`), and joining commutes with normal forms: only the normal form
of the path in front counts (`normal_join_normal`).
-/
namespace LineShell

namespace Path

/-- The path that leads to the directory that is so many levels above. -/
def ups (count : Nat) : Path := ⟨.relative, List.replicate count up⟩

theorem join_of_relative {below : Path} (h : below.isAbsolute = false)
    (path : Path) :
    path.join below = ⟨path.root, path.parts ++ below.parts⟩ := by
  rw [join, h, if_neg Bool.false_ne_true]

theorem join_assoc (first second third : Path) :
    (first.join second).join third = first.join (second.join third) := by
  cases hthird : third.isAbsolute with
  | true =>
      rw [join_of_isAbsolute hthird, join_of_isAbsolute hthird,
        join_of_isAbsolute hthird]
  | false =>
      cases hsecond : second.isAbsolute with
      | true => rw [join_of_isAbsolute hsecond,
          join_of_isAbsolute (isAbsolute_join hsecond)]
      | false =>
          have hjoined : (second.join third).isAbsolute = false := by
            rw [join_of_relative hthird]
            exact hsecond
          rw [join_of_relative hthird, join_of_relative hsecond,
            join_of_relative hjoined, join_of_relative hthird]
          simp only [List.append_assoc]

/-- Slashes at the start of a text that holds something else are not followed by
more. -/
theorem takeWhile_slash_append {first : Text} (hfirst : ∃ c ∈ first, c ≠ '/')
    (rest : Text) :
    (first ++ rest).takeWhile (· = '/') = first.takeWhile (· = '/') := by
  rw [List.takeWhile_append, if_neg]
  intro hlength
  obtain ⟨c, hc, hne⟩ := hfirst
  have hall :=
    (List.takeWhile_prefix fun c => decide (c = '/')).eq_of_length hlength
  have hslashes :=
    List.all_takeWhile (p := fun c => decide (c = '/')) (l := first)
  rw [hall] at hslashes
  exact hne (by simpa using List.all_eq_true.1 hslashes c hc)

theorem isAbsolute_ofText {text : Text} (h : text.head? ≠ some '/') :
    (ofText text).isAbsolute = false := by
  cases text with
  | nil => rfl
  | cons c rest =>
      have hc : c ≠ '/' := by simpa using h
      simp [ofText, isAbsolute, hc, rootOf]

theorem parts_ofText_append (first rest : Text) :
    (ofText (first ++ '/' :: rest)).parts =
      (ofText first).parts ++ (ofText rest).parts := by
  simp only [ofText, Text.splitOn_append_separator, List.filter_append]

/-- Before a slash stands the path that what comes after it is joined to. -/
theorem ofText_append {first rest : Text} (hfirst : ∃ c ∈ first, c ≠ '/')
    (hrest : rest.head? ≠ some '/') :
    ofText (first ++ '/' :: rest) = (ofText first).join (ofText rest) := by
  rw [join_of_relative (isAbsolute_ofText hrest), ← parts_ofText_append]
  simp only [ofText, takeWhile_slash_append hfirst]

/-- Without the slashes at its start a text spells the same names below no
root. -/
theorem ofText_dropWhile_slash (text : Text) :
    ofText (text.dropWhile (· = '/')) = ⟨.relative, (ofText text).parts⟩ := by
  induction text with
  | nil => rfl
  | cons c rest ih =>
      by_cases hc : c = '/'
      · subst hc
        have hparts : (ofText ('/' :: rest)).parts = (ofText rest).parts := by
          simp [ofText, isName]
        rw [List.dropWhile_cons_of_pos (by simp), ih, hparts]
      · rw [List.dropWhile_cons_of_neg (by simpa using hc)]
        simp [ofText, hc, rootOf]

/-- A stack of names is what adding its names in order makes of no names. -/
theorem foldl_climb_reverse {absolute : Bool} {stack : List Text}
    (h : IsStack absolute stack) :
    stack.reverse.foldl (climb absolute) [] = stack := by
  obtain ⟨names, count, rfl, hnames, hcount⟩ := h
  have hups : (List.replicate count up).foldl (climb absolute) [] =
      List.replicate count up := by
    cases absolute with
    | true => simp [hcount rfl]
    | false => exact foldl_climb_ups count 0
  rw [List.reverse_append, List.reverse_replicate, List.foldl_append, hups,
    foldl_climb_names (by simpa using hnames), List.reverse_reverse]

theorem isStack_names (path : Path) :
    IsStack path.isAbsolute path.normal.parts.reverse := by
  rw [normal, List.reverse_reverse]
  exact isStack_foldl path.parts ⟨[], 0, rfl, by simp, fun _ => rfl⟩

theorem normal_normal (path : Path) : path.normal.normal = path.normal := by
  have hstack := foldl_climb_reverse path.isStack_names
  rw [List.reverse_reverse] at hstack
  calc path.normal.normal
      = ⟨path.root,
        (path.normal.parts.foldl (climb path.isAbsolute) []).reverse⟩ := rfl
    _ = ⟨path.root, path.normal.parts⟩ := by rw [hstack, List.reverse_reverse]
    _ = path.normal := rfl

/-- The names of a relative path are added to the normal form of the path that
it is joined to. -/
theorem normal_join {below : Path} (h : below.isAbsolute = false)
    (path : Path) :
    (path.join below).normal =
      ⟨path.root, (below.parts.foldl (climb path.isAbsolute)
        path.normal.parts.reverse).reverse⟩ := by
  have hparts :
      path.normal.parts.reverse = path.parts.foldl (climb path.isAbsolute) [] :=
    List.reverse_reverse _
  rw [join_of_relative h, hparts, ← List.foldl_append]
  rfl

/-- Only the normal form counts of a path that another one is joined to. -/
theorem normal_join_normal (path below : Path) :
    (path.normal.join below).normal = (path.join below).normal := by
  cases hbelow : below.isAbsolute with
  | true => rw [join_of_isAbsolute hbelow, join_of_isAbsolute hbelow]
  | false => rw [normal_join hbelow, normal_join hbelow, normal_normal,
      normal_root, normal_isAbsolute]

/-- No `..` is left below a root. -/
theorem up_not_mem_normal {path : Path} (h : path.isAbsolute = true) :
    up ∉ path.normal.parts := by
  obtain ⟨names, count, hparts, hnames, hcount⟩ := path.isStack_names
  intro hup
  rw [← List.mem_reverse, hparts, hcount h] at hup
  exact hnames (by simpa using hup)

/-- Names other than `..` are added to a normal form as they are. -/
theorem normal_join_names (path : Path) {names : List Text} (h : up ∉ names) :
    (path.join ⟨.relative, names⟩).normal =
      ⟨path.root, path.normal.parts ++ names⟩ := by
  rw [normal_join rfl, foldl_climb_names h, List.reverse_append,
    List.reverse_reverse, List.reverse_reverse]

theorem foldl_climb_up {stack : List Text} (h : up ∉ stack) (count : Nat) :
    (List.replicate count up).foldl (climb true) stack = stack.drop count := by
  induction count generalizing stack with
  | zero => rfl
  | succ count ih =>
      rw [List.replicate_succ, List.foldl_cons]
      cases stack with
      | nil =>
          have hnil := @ih [] List.not_mem_nil
          simpa [climb] using hnil
      | cons last rest =>
          simp only [List.mem_cons, not_or] at h
          have hstep : climb true (last :: rest) up = rest := by
              simp [climb, Ne.symm h.1]
          rw [hstep, ih h.2, List.drop_succ_cons]

/-- Going up from an absolute path takes away names from its end, as long as
there are any. -/
theorem normal_join_ups {path : Path} (h : path.isAbsolute = true)
    (count : Nat) :
    (path.join (ups count)).normal =
      ⟨path.root,
        path.normal.parts.take (path.normal.parts.length - count)⟩ := by
  have hup : up ∉ path.normal.parts.reverse := by
    rw [List.mem_reverse]
    exact up_not_mem_normal h
  rw [normal_join rfl, h]
  rw [ups, foldl_climb_up hup, List.reverse_drop, List.length_reverse,
    List.reverse_reverse]

theorem eq_of_mem_rootText {root : Root} {c : Char} (h : c ∈ rootText root) :
    c = '/' := by
  cases root with
  | relative => cases h
  | single => exact List.mem_singleton.1 h
  | double => simpa [rootText] using h

/-- A path as it is written holds the characters of its text, slashes and
dots. -/
theorem mem_of_mem_toText_ofText {c : Char} {text : Text}
    (h : c ∈ (ofText text).toText) :
    c ∈ text ∨ c = '/' ∨ c = '.' := by
  have hparts : c ∈ Text.joinWith ['/'] (ofText text).parts →
      c ∈ text ∨ c = '/' ∨ c = '.' := by
    intro hjoined
    rcases Text.mem_joinWith hjoined with hslash | ⟨part, hpart, hc⟩
    · exact Or.inr (Or.inl (List.mem_singleton.1 hslash))
    · exact Or.inl (Text.mem_of_mem_splitOn (List.mem_filter.1 hpart).1 hc)
  unfold toText at h
  split at h
  · exact Or.inr (Or.inr (List.mem_singleton.1 h))
  · rename_i root parts hpath
    rw [hpath] at hparts
    rcases List.mem_append.1 h with hroot | hjoined
    · exact Or.inr (Or.inl (eq_of_mem_rootText hroot))
    · exact hparts hjoined

end Path

end LineShell
