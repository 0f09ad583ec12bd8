import LineShell.Proofs.Path.Joining
import LineShell.Session

/-!
Changing the directory in stages.

Main statement: going to a directory and from there onward leads to the same
directory as going there at once, a text with a slash between the two stages
(`target?_stages`).
-/
namespace LineShell

theorem Text.trimStart_eq_nil_iff {text : Text} :
    Text.trimStart text = [] ↔ Text.allBlank text = true := by
  refine ⟨fun h => ?_, Text.trimStart_of_allBlank⟩
  induction text with
  | nil => rfl
  | cons c rest ih =>
      cases hc : Text.isBlank c with
      | false =>
          rw [Text.trimStart, List.dropWhile_cons_of_neg (by simp [hc])] at h
          cases h
      | true =>
          rw [Text.trimStart, List.dropWhile_cons_of_pos hc] at h
          rw [Text.allBlank, List.all_cons, hc]
          exact ih h

theorem Text.trimStart_ne_nil {text : Text} (h : Text.allBlank text = false) :
    Text.trimStart text ≠ [] := by
  intro hnil
  rw [Text.trimStart_eq_nil_iff.1 hnil] at h
  cases h

theorem Text.trimStart_append {first : Text} (h : Text.allBlank first = false)
    (rest : Text) :
    Text.trimStart (first ++ rest) = Text.trimStart first ++ rest := by
  have hne := Text.trimStart_ne_nil h
  rw [Text.trimStart, List.dropWhile_append,
    if_neg (by simpa [Text.trimStart] using hne)]
  rfl

namespace Session

/-- Whether a character parts the names of an argument of `cd`. -/
def isSlash (c : Char) : Bool := c = '/' || c = '\\'

/-- Whether an argument of `cd` says more than that the home directory or the
root is meant. -/
structure IsFirstStage (argument : Text) : Prop where
  notBlank : Text.allBlank argument = false
  notRoot : ∃ c ∈ argument, isSlash c = false

/-- Whether an argument of `cd` leads on from the current directory: it starts
at no root and, after blanks, not at the home directory. -/
structure IsNextStage (argument : Text) : Prop where
  notBlank : Text.allBlank argument = false
  notRoot : ∀ c ∈ argument.head?, isSlash c = false
  notHome : ∀ rest, Text.trimStart argument = '~' :: rest →
    ∃ c ∈ rest.head?, isSlash c = false

/-- The path that an argument of `cd` means, before it is seen from the current
directory. -/
def meant? (session : Session) (argument : Text) : Option Path :=
  match belowHome? argument with
  | some below => session.home?.map fun home => home.join (Path.ofText below)
  | none => some (Path.ofText (withSlashes argument))

variable {session : Session} {first next : Text}

theorem target?_eq_map (session : Session) (argument : Text) :
    session.target? argument =
      (session.meant? argument).map fun path =>
        (session.cwd.join path).normal := rfl

@[simp] theorem withSlashes_cons (c : Char) (rest : Text) :
    withSlashes (c :: rest) =
      (if c = '\\' then '/' else c) :: withSlashes rest := rfl

theorem withSlashes_append (first rest : Text) :
    withSlashes (first ++ '/' :: rest) =
      withSlashes first ++ '/' :: withSlashes rest :=
  List.map_append

theorem ne_slash_of_isSlash {c : Char} (h : isSlash c = false) :
    (if c = '\\' then '/' else c) = c ∧ c ≠ '/' := by
  simp only [isSlash, Bool.or_eq_false_iff, decide_eq_false_iff_not] at h
  exact ⟨if_neg h.2, h.1⟩

theorem IsFirstStage.exists_ne (h : IsFirstStage first) :
    ∃ c ∈ withSlashes first, c ≠ '/' := by
  obtain ⟨c, hc, hslash⟩ := h.notRoot
  obtain ⟨hsame, hne⟩ := ne_slash_of_isSlash hslash
  exact ⟨c, List.mem_map.2 ⟨c, hc, hsame⟩, hne⟩

theorem IsNextStage.head?_ne (h : IsNextStage next) :
    (withSlashes next).head? ≠ some '/' := by
  cases next with
  | nil => simp [withSlashes]
  | cons c rest =>
      obtain ⟨hsame, hne⟩ := ne_slash_of_isSlash (h.notRoot c rfl)
      rw [withSlashes_cons, hsame]
      simpa using hne

/-- What leads on from the current directory starts at no home directory. -/
theorem IsNextStage.belowHome?_eq_none (h : IsNextStage next) :
    belowHome? next = none := by
  have hne := Text.trimStart_ne_nil h.notBlank
  have hhome := h.notHome
  unfold belowHome?
  cases htrimmed : Text.trimStart next with
  | nil => exact absurd htrimmed hne
  | cons c rest =>
      rw [htrimmed] at hhome
      by_cases hc : c = '~'
      · subst hc
        obtain ⟨d, hd, hslash⟩ := hhome rest rfl
        obtain ⟨hsame, hnotSlash⟩ := ne_slash_of_isSlash hslash
        cases rest with
        | nil => cases hd
        | cons e others =>
            obtain rfl : e = d := Option.some.inj hd
            simp [hsame, hnotSlash]
      · by_cases hback : c = '\\'
        · simp [hback]
        · simp [hback, hc]

/-- What leads on from the current directory is read as a path. -/
theorem IsNextStage.meant?_eq (h : IsNextStage next) (session : Session) :
    session.meant? next = some (Path.ofText (withSlashes next)) := by
  rw [meant?, h.belowHome?_eq_none]

/-- The path below the home directory that a text with slashes spells, if it
starts with a tilde that nothing parts from the first slash. -/
def belowTilde? (shown : Text) : Option Path :=
  if shown.takeWhile (· ≠ '/') = ['~'] then
    some ⟨.relative, (Path.ofText (shown.drop 1)).parts⟩
  else
    none

theorem belowHome?_eq {argument : Text} (h : Text.allBlank argument = false) :
    (belowHome? argument).map Path.ofText =
      belowTilde? (withSlashes (Text.trimStart argument)) := by
  have hne : withSlashes (Text.trimStart argument) ≠ [] := by
    simpa [withSlashes, Text.replace] using Text.trimStart_ne_nil h
  unfold belowHome? belowTilde?
  generalize withSlashes (Text.trimStart argument) = shown at hne
  cases shown with
  | nil => exact absurd rfl hne
  | cons c rest =>
      by_cases hc : c = '~'
      · subst hc
        cases rest with
        | nil => rfl
        | cons d others =>
            by_cases hd : d = '/'
            · subst hd
              have hdrop := Path.ofText_dropWhile_slash ('/' :: others)
              rw [List.dropWhile_cons_of_pos (by simp)] at hdrop
              simp [hdrop]
            · simp [hd]
      · by_cases hslash : c = '/' <;> simp [hc, hslash]

theorem belowTilde?_append {shown onward : Text} (hne : shown ≠ [])
    (honward : onward.head? ≠ some '/') :
    belowTilde? (shown ++ '/' :: onward) =
      (belowTilde? shown).map (·.join (Path.ofText onward)) := by
  have hstart : (shown ++ '/' :: onward).takeWhile (· ≠ '/') =
      shown.takeWhile (· ≠ '/') := by
    rw [List.takeWhile_append]
    split
    · rename_i hlength
      rw [(List.takeWhile_prefix _).eq_of_length hlength]
      simp
    · rfl
  have hdrop :
      (shown ++ '/' :: onward).drop 1 = shown.drop 1 ++ '/' :: onward :=
    List.drop_append_of_le_length (List.length_pos_iff.2 hne)
  rw [belowTilde?, belowTilde?, hstart, hdrop, Path.parts_ofText_append]
  split
  · rw [Option.map_some, Path.join_of_relative (Path.isAbsolute_ofText honward)]
  · rfl

/-- What is below the home directory is the path below it, and what leads on is
joined to that. -/
theorem belowHome?_append (hfirst : IsFirstStage first)
    (hnext : IsNextStage next) :
    (belowHome? (first ++ '/' :: next)).map Path.ofText =
      ((belowHome? first).map Path.ofText).map
        (·.join (Path.ofText (withSlashes next))) := by
  have hboth : Text.allBlank (first ++ '/' :: next) = false := by
    rw [Text.allBlank, List.all_append, Bool.and_eq_false_iff]
    exact Or.inl hfirst.notBlank
  have hne : withSlashes (Text.trimStart first) ≠ [] := by
    simpa [withSlashes, Text.replace]
      using Text.trimStart_ne_nil hfirst.notBlank
  rw [belowHome?_eq hboth, belowHome?_eq hfirst.notBlank, Text.trimStart_append
    hfirst.notBlank, withSlashes_append, belowTilde?_append hne hnext.head?_ne]

/-- What an argument of two stages means is what the second means, seen from
what the first does. -/
theorem meant?_append (hfirst : IsFirstStage first) (hnext : IsNextStage next)
    (session : Session) :
    session.meant? (first ++ '/' :: next) =
      (session.meant? first).map (·.join (Path.ofText (withSlashes next))) := by
  have hbelow := belowHome?_append hfirst hnext
  unfold meant?
  cases hshort : belowHome? first with
  | none =>
      rw [hshort, Option.map_none, Option.map_none, Option.map_eq_none_iff]
        at hbelow
      rw [hbelow, withSlashes_append,
        Path.ofText_append hfirst.exists_ne hnext.head?_ne]
      rfl
  | some below =>
      rw [hshort, Option.map_some, Option.map_some, Option.map_eq_some_iff]
        at hbelow
      obtain ⟨longer, hlonger, htext⟩ := hbelow
      simp only [hlonger, htext, Option.map_map]
      cases session.home? with
      | none => rfl
      | some home => exact congrArg some (Path.join_assoc _ _ _).symm

/-- The second of two stages has the target that both have at once. -/
theorem target?_append (hfirst : IsFirstStage first) (hnext : IsNextStage next)
    (session : Session) :
    session.target? (first ++ '/' :: next) =
      (session.target? first).bind fun path =>
        { session with cwd := path }.target? next := by
  rw [target?_eq_map, target?_eq_map, meant?_append hfirst hnext]
  cases session.meant? first with
  | none => rfl
  | some path =>
      have hstage : ∀ cwd : Path, { session with cwd := cwd }.target? next =
          some (cwd.join (Path.ofText (withSlashes next))).normal := by
        intro cwd
        rw [target?_eq_map, hnext.meant?_eq, Option.map_some]
      simp only [Option.map_some, Option.bind_some, hstage,
        Path.normal_join_normal, Path.join_assoc]

/-- After the tilde one slash counts as much as many. -/
theorem meant?_below_home {blanks rest : Text} {slash : Char}
    (hblanks : Text.allBlank blanks = true) (hslash : isSlash slash = true)
    (session : Session) :
    session.meant? (blanks ++ '~' :: slash :: rest) =
      (session.meant? ['~']).map (·.join ⟨.relative,
        (Path.ofText (withSlashes rest)).parts⟩) := by
  have htrimmed : Text.trimStart (blanks ++ '~' :: slash :: rest) =
      '~' :: slash :: rest := by
    have htilde : Text.isBlank '~' = false := by decide
    rw [Text.trimStart,
      List.dropWhile_append_of_pos (by simpa [Text.allBlank] using hblanks),
      List.dropWhile_cons_of_neg (by simp [htilde])]
  have hshown :
      withSlashes ('~' :: slash :: rest) = '~' :: '/' :: withSlashes rest := by
    rcases (by simpa [isSlash] using hslash : slash = '/' ∨ slash = '\\')
      with rfl | rfl
    · rfl
    · rfl
  have hbelow : belowHome? (blanks ++ '~' :: slash :: rest) =
      some ((withSlashes rest).dropWhile (· = '/')) := by
    rw [belowHome?, htrimmed, hshown]
    rfl
  have htilde : belowHome? ['~'] = some [] := by decide
  simp only [meant?, hbelow, htilde, Option.map_map,
    Path.ofText_dropWhile_slash]
  refine congrArg (fun join => session.home?.map join) (funext fun home => ?_)
  change home.join _ = (home.join (Path.ofText [])).join _
  rw [Path.join_assoc]
  rfl

/-- From the home directory names other than `..` lead further down. -/
theorem target?_below_home {blanks rest : Text} {slash : Char}
    (hblanks : Text.allBlank blanks = true) (hslash : isSlash slash = true)
    (hrest : Path.up ∉ (Path.ofText (withSlashes rest)).parts)
    (session : Session) :
    session.target? (blanks ++ '~' :: slash :: rest) =
      (session.target? ['~']).map fun home =>
        ⟨home.root, home.parts ++ (Path.ofText (withSlashes rest)).parts⟩ := by
  rw [target?_eq_map, target?_eq_map, meant?_below_home hblanks hslash,
    Option.map_map, Option.map_map]
  refine congrArg (fun target => (session.meant? ['~']).map target)
    (funext fun home => ?_)
  simp only [Function.comp_apply, ← Path.join_assoc,
    Path.normal_join_names _ hrest, Path.normal_root]

theorem mem_joinWith_ups {count : Nat}
    {c : Char} (h : c ∈ Text.joinWith ['/'] (List.replicate count Path.up)) :
    c = '.' ∨ c = '/' := by
  rcases Text.mem_joinWith h with hslash | ⟨name, hname, hc⟩
  · exact Or.inr (List.mem_singleton.1 hslash)
  · rw [List.eq_of_mem_replicate hname] at hc
    left
    simpa [Path.up] using hc

/-- A way up is written with dots and slashes, and starts with a dot. -/
theorem toText_ups (count : Nat) :
    (Path.ups count).toText.head? = some '.' ∧
      ∀ c ∈ (Path.ups count).toText, c = '.' ∨ c = '/' := by
  cases count with
  | zero =>
      refine ⟨rfl, fun c hc => ?_⟩
      left
      simpa [Path.ups, Path.toText] using hc
  | succ count =>
      refine ⟨?_, fun c hc => mem_joinWith_ups hc⟩
      cases count with
      | zero => rfl
      | succ count => rfl

theorem isNextStage_ups (count : Nat) :
    IsNextStage (Path.ups count).toText := by
  obtain ⟨hhead, -⟩ := toText_ups count
  cases htext : (Path.ups count).toText with
  | nil =>
      rw [htext] at hhead
      cases hhead
  | cons c rest =>
      rw [htext] at hhead
      obtain rfl : c = '.' := Option.some.inj hhead
      refine ⟨rfl, ?_, ?_⟩
      · intro c hc
        obtain rfl : '.' = c := Option.some.inj hc
        rfl
      · intro others htrimmed
        cases htrimmed

/-- Going up from a normal directory takes away names from its end, as long as
there are any. -/
theorem target?_ups {path : Path} (habsolute : path.isAbsolute = true)
    (hnormal : path.normal = path) (session : Session) (count : Nat) :
    { session with cwd := path }.target? (Path.ups count).toText =
      some ⟨path.root, path.parts.take (path.parts.length - count)⟩ := by
  have htext :
      withSlashes (Path.ups count).toText = (Path.ups count).toText := by
    refine List.map_congr_left (fun c hc => ?_) |>.trans (List.map_id _)
    rcases (toText_ups count).2 c hc with rfl | rfl
    · rfl
    · rfl
  have hproper : (Path.ups count).IsProper := by
    intro part hpart
    obtain rfl := List.eq_of_mem_replicate hpart
    decide
  rw [target?_eq_map, (isNextStage_ups count).meant?_eq, Option.map_some, htext,
    Path.ofText_toText hproper, Path.normal_join_ups habsolute, hnormal]

/-- From an absolute directory, whatever the home directory is: an argument of
two stages leads to where the second stage leads from the target of the first;
from a target `..` leads up by a name at a time and never above the root; and
however many slashes come after the tilde, without `..` the target is below the
home directory. -/
theorem target?_stages (session : Session)
    (habsolute : session.cwd.isAbsolute = true) :
    (∀ first next, IsFirstStage first → IsNextStage next →
      session.target? (first ++ '/' :: next) =
        (session.target? first).bind fun path =>
          { session with cwd := path }.target? next) ∧
    (∀ argument path, session.target? argument = some path →
      path.isAbsolute = true ∧ Path.up ∉ path.parts ∧
      ∀ count, { session with cwd := path }.target? (Path.ups count).toText =
        some ⟨path.root, path.parts.take (path.parts.length - count)⟩) ∧
    ∀ blanks slash rest, Text.allBlank blanks = true → isSlash slash = true →
      Path.up ∉ (Path.ofText (withSlashes rest)).parts →
      session.target? (blanks ++ '~' :: slash :: rest) =
        (session.target? ['~']).map fun home =>
          ⟨home.root,
            home.parts ++ (Path.ofText (withSlashes rest)).parts⟩ := by
  refine ⟨?_, ?_, ?_⟩
  · intro first next hfirst hnext
    exact target?_append hfirst hnext session
  · intro argument path htarget
    have hpath := isAbsolute_of_target? habsolute htarget
    rw [target?_eq_map] at htarget
    obtain ⟨raw, -, rfl⟩ := Option.map_eq_some_iff.1 htarget
    exact ⟨hpath, Path.up_not_mem_normal hpath,
      target?_ups hpath (Path.normal_normal _) session⟩
  · intro blanks slash rest hblanks hslash hrest
    exact target?_below_home hblanks hslash hrest session

/-- Below a home directory that is itself seen from the current directory: down
and up again, and on from there; three steps up from the root; and a tilde with
slashes of both kinds. -/
theorem target?_stages_relative_home :
    let session : Session :=
      ⟨⟨.double, ["srv".toList]⟩, [], [("HOME".toList, "h/../x".toList)]⟩
    let first : Text := " ~\\a/..".toList
    let next : Text := "..//b".toList
    session.cwd.isAbsolute = true ∧ IsFirstStage first ∧ IsNextStage next ∧
      session.target? first = some ⟨.double, ["srv".toList, "x".toList]⟩ ∧
      { session with cwd := ⟨.double, ["srv".toList, "x".toList]⟩ }.target?
        next =
        session.target? " ~\\a/../..//b".toList ∧
      { session with cwd := ⟨.double, ["srv".toList, "x".toList]⟩ }.target?
        "../../..".toList =
        some ⟨.double, []⟩ ∧
      session.target? "~/\\//a".toList =
        some ⟨.double, ["srv".toList, "x".toList, "a".toList]⟩ := by
  intro session first next
  have hfirst : IsFirstStage first := ⟨rfl, '~', by decide, rfl⟩
  have hdot : ∀ c ∈ next.head?, isSlash c = false := by
    intro c hc
    obtain rfl : '.' = c := Option.some.inj hc
    decide
  have hnext : IsNextStage next := ⟨rfl, hdot, fun rest hrest => by cases hrest⟩
  have htarget : session.target? first =
      some ⟨.double, ["srv".toList, "x".toList]⟩ := by decide
  have hhome : session.target? ['~'] =
      some ⟨.double, ["srv".toList, "x".toList]⟩ := by decide
  obtain ⟨hstages, hups, hbelow⟩ := target?_stages session rfl
  have htwo := hstages first next hfirst hnext
  obtain ⟨-, -, hroot⟩ := hups first _ htarget
  have hslashes := hbelow [] '/' "\\//a".toList rfl rfl (by decide)
  rw [htarget, Option.bind_some] at htwo
  rw [hhome] at hslashes
  exact ⟨rfl, hfirst, hnext, htarget, htwo.symm, hroot 3, hslashes⟩

end Session

end LineShell
