import LineShell.Token

/-!
A line as a list of pieces: a text between single quotes, a text between double
quotes, a character after a backslash, or a bare character.  A piece remembers
how it is written, so that the pieces of a line spell the line.

Main statements: a line is cut into pieces exactly when whole pieces spell it
(`cut_eq_ok_iff`), and otherwise it ends inside a piece, which the error names
(`cut_eq_error_iff`).
-/
namespace LineShell.Token

/-- The characters that a backslash between double quotes makes literal. -/
def Escapable (c : Char) : Prop := c = '"' ∨ c = '$' ∨ c = '\\' ∨ c = '`'

instance : DecidablePred Escapable := fun c =>
  inferInstanceAs (Decidable (c = '"' ∨ c = '$' ∨ c = '\\' ∨ c = '`'))

/-- A character between double quotes, as it is or after a backslash that is
dropped. -/
inductive QuotedChar where
  | plain (c : Char)
  | escaped (c : Char)
  deriving DecidableEq, Repr

namespace QuotedChar

def char : QuotedChar → Char
  | .plain c => c
  | .escaped c => c

def written : List QuotedChar → Text
  | [] => []
  | .plain c :: rest => c :: written rest
  | .escaped c :: rest => '\\' :: c :: written rest

/-- Whether the written characters before `next` are read as these: no quote
stands as it is, a backslash stands as it is only where it is not special, and
it is dropped only where it is. -/
def Fit (next : Option Char) : List QuotedChar → Prop
  | [] => True
  | .plain c :: rest =>
    c ≠ '"' ∧ (c = '\\' → ∀ c ∈ (written rest).head?.or next, ¬ Escapable c) ∧
      Fit next rest
  | .escaped c :: rest => Escapable c ∧ Fit next rest

/-- What stands before the next double quote that is not escaped, and the text
after that quote. -/
def read? : Text → Option (List QuotedChar × Text)
  | [] => none
  | '"' :: rest => some ([], rest)
  | '\\' :: c :: rest =>
    if Escapable c then
      (read? rest).map fun found => (.escaped c :: found.1, found.2)
    else
      (read? (c :: rest)).map fun found => (.plain '\\' :: found.1, found.2)
  | c :: rest => (read? rest).map fun found => (.plain c :: found.1, found.2)

theorem read?_escaped {c : Char} (h : Escapable c) (rest : Text) :
    read? ('\\' :: c :: rest) =
      (read? rest).map fun found => (.escaped c :: found.1, found.2) := by
  simp [read?, h]

theorem read?_plain {c : Char} {rest : Text} (hquote : c ≠ '"')
    (hspecial : c = '\\' → ∀ next ∈ rest.head?, ¬ Escapable next) :
    read? (c :: rest) = (read? rest).map fun found =>
      (.plain c :: found.1, found.2) := by
  by_cases hc : c = '\\'
  · subst hc
    cases rest with
    | nil => simp [read?]
    | cons next more =>
        have hnext : ¬ Escapable next := hspecial rfl next rfl
        simp [read?, hnext]
  · rw [read?]
    · exact hquote
    · exact fun _ _ heq => absurd heq hc

theorem not_escapable_of_no_next {text : Text}
    (h : ∀ c rest, text = c :: rest → False) :
    ∀ next ∈ text.head?, ¬ Escapable next := by
  intro next hnext
  obtain ⟨rest, hrest⟩ := List.head?_eq_some_iff.1 hnext
  exact (h next rest hrest).elim

/-- Reading passes over characters that fit before what follows them. -/
theorem read?_written (after : Text) {parts : List QuotedChar}
    (h : Fit after.head? parts) :
    read? (written parts ++ after) =
      (read? after).map fun found => (parts ++ found.1, found.2) := by
  induction parts with
  | nil => simp [written]
  | cons part rest ih =>
      cases part with
      | plain c =>
          obtain ⟨hquote, hspecial, hrest⟩ := h
          rw [← List.head?_append] at hspecial
          rw [written, List.cons_append, read?_plain hquote hspecial, ih hrest]
          simp [Function.comp_def]
      | escaped c =>
          obtain ⟨hc, hrest⟩ := h
          rw [written, List.cons_append, List.cons_append, read?_escaped hc,
            ih hrest]
          simp [Function.comp_def]

theorem fit_of_read? {text after : Text} {parts : List QuotedChar}
    (h : read? text = some (parts, after)) :
    Fit (some '"') parts ∧ text = written parts ++ '"' :: after := by
  fun_induction read? text generalizing parts with
  | case1 => simp at h
  | case2 rest =>
      simp only [Option.some.injEq, Prod.mk.injEq] at h
      obtain ⟨rfl, rfl⟩ := h
      exact ⟨trivial, rfl⟩
  | case3 c rest hc ih =>
      obtain ⟨⟨found, left⟩, hread, heq⟩ := Option.map_eq_some_iff.1 h
      obtain ⟨rfl, rfl⟩ := Prod.mk.inj heq
      obtain ⟨hfit, rfl⟩ := ih hread
      exact ⟨⟨hc, hfit⟩, rfl⟩
  | case4 c rest hc ih =>
      obtain ⟨⟨found, left⟩, hread, heq⟩ := Option.map_eq_some_iff.1 h
      obtain ⟨rfl, rfl⟩ := Prod.mk.inj heq
      obtain ⟨hfit, hrest⟩ := ih hread
      have hhead := congrArg List.head? hrest
      rw [List.head?_append, List.head?_cons, List.head?_cons] at hhead
      refine ⟨⟨by decide, fun _ next hnext => ?_, hfit⟩, by
        rw [written, hrest]; rfl⟩
      rw [← hhead] at hnext
      cases hnext
      exact hc
  | case5 c rest hquote hspecial ih =>
      obtain ⟨⟨found, left⟩, hread, heq⟩ := Option.map_eq_some_iff.1 h
      obtain ⟨rfl, rfl⟩ := Prod.mk.inj heq
      obtain ⟨hfit, rfl⟩ := ih hread
      refine ⟨⟨hquote, fun hc => ?_, hfit⟩, rfl⟩
      have hnext := not_escapable_of_no_next (hspecial · · hc)
      rwa [List.head?_append] at hnext

/-- Reading succeeds exactly on what can be written before a closing quote. -/
theorem read?_eq_some_iff {text after : Text} {parts : List QuotedChar} :
    read? text = some (parts, after) ↔
      Fit (some '"') parts ∧ text = written parts ++ '"' :: after := by
  refine ⟨fit_of_read?, ?_⟩
  rintro ⟨hfit, rfl⟩
  rw [read?_written ('"' :: after) hfit]
  simp [read?]

/-- Reading fails exactly on what can be written between quotes up to the end of
a line. -/
theorem read?_eq_none_iff {text : Text} :
    read? text = none ↔ ∃ parts, Fit none parts ∧ text = written parts := by
  constructor
  · intro h
    fun_induction read? text with
    | case1 => exact ⟨[], trivial, rfl⟩
    | case2 rest => simp at h
    | case3 c rest hc ih =>
        obtain ⟨parts, hfit, rfl⟩ := ih (Option.map_eq_none_iff.1 h)
        exact ⟨.escaped c :: parts, ⟨hc, hfit⟩, rfl⟩
    | case4 c rest hc ih =>
        obtain ⟨parts, hfit, hrest⟩ := ih (Option.map_eq_none_iff.1 h)
        refine ⟨.plain '\\' :: parts, ⟨by decide, fun _ next hnext => ?_, hfit⟩,
          ?_⟩
        · rw [Option.or_none, ← hrest] at hnext
          cases hnext
          exact hc
        · rw [written, hrest]
    | case5 c rest hquote hspecial ih =>
        obtain ⟨parts, hfit, rfl⟩ := ih (Option.map_eq_none_iff.1 h)
        refine ⟨.plain c :: parts, ⟨hquote, fun hc => ?_, hfit⟩, rfl⟩
        rw [Option.or_none]
        exact not_escapable_of_no_next (hspecial · · hc)
  · rintro ⟨parts, hfit, rfl⟩
    have hread := read?_written [] hfit
    rw [List.append_nil] at hread
    rw [hread]
    rfl

end QuotedChar

/-- A piece of a line. -/
inductive Piece where
  | single (content : Text)
  | double (parts : List QuotedChar)
  | escaped (c : Char)
  | bare (c : Char)
  deriving DecidableEq, Repr

namespace Piece

/-- What a piece adds to a word. -/
def content : Piece → Text
  | .single content => content
  | .double parts => parts.map QuotedChar.char
  | .escaped c => [c]
  | .bare c => [c]

def written : Piece → Text
  | .single content => '\'' :: content ++ ['\'']
  | .double parts => '"' :: QuotedChar.written parts ++ ['"']
  | .escaped c => ['\\', c]
  | .bare c => [c]

/-- Whether a piece ends where it is written to end. -/
def IsWhole : Piece → Prop
  | .single content => '\'' ∉ content
  | .double parts => QuotedChar.Fit (some '"') parts
  | .escaped _ => True
  | .bare c => c ≠ '\'' ∧ c ≠ '"' ∧ c ≠ '\\'

/-- A text that begins with a piece and ends before the piece does, with what is
missing. -/
inductive EndsInside : LineError → Text → Prop
  | single {content : Text} (h : '\'' ∉ content) :
      EndsInside .openSingleQuote ('\'' :: content)
  | double {parts : List QuotedChar} (h : QuotedChar.Fit none parts) :
      EndsInside .openDoubleQuote ('"' :: QuotedChar.written parts)
  | escaped : EndsInside .openEscape ['\\']

/-- What stands before the next single quote, and the text after it. -/
def readSingle? : Text → Option (Text × Text)
  | [] => none
  | c :: rest =>
    if c = '\'' then some ([], rest)
    else (readSingle? rest).map fun found => (c :: found.1, found.2)

/-- The first piece of a text that begins with `c`, and the text after the
piece. -/
def first (c : Char) (rest : Text) : Except LineError (Piece × Text) :=
  if c = '\'' then
    match readSingle? rest with
    | some (content, after) => .ok (.single content, after)
    | none => .error .openSingleQuote
  else if c = '"' then
    match QuotedChar.read? rest with
    | some (parts, after) => .ok (.double parts, after)
    | none => .error .openDoubleQuote
  else if c = '\\' then
    match rest with
    | next :: after => .ok (.escaped next, after)
    | [] => .error .openEscape
  else
    .ok (.bare c, rest)

theorem readSingle?_append {content : Text} (h : '\'' ∉ content)
    (after : Text) :
    readSingle? (content ++ '\'' :: after) = some (content, after) := by
  induction content with
  | nil => simp [readSingle?]
  | cons c rest ih =>
      simp only [List.mem_cons, not_or] at h
      simp [readSingle?, Ne.symm h.1, ih h.2]

theorem append_of_readSingle? {text content after : Text}
    (h : readSingle? text = some (content, after)) :
    '\'' ∉ content ∧ text = content ++ '\'' :: after := by
  induction text generalizing content with
  | nil => simp [readSingle?] at h
  | cons c rest ih =>
      by_cases hc : c = '\''
      · simp only [readSingle?, hc, if_true, Option.some.injEq, Prod.mk.injEq]
          at h
        obtain ⟨rfl, rfl⟩ := h
        exact ⟨List.not_mem_nil, by rw [hc]; rfl⟩
      · simp only [readSingle?, hc, if_false] at h
        obtain ⟨⟨found, left⟩, hread, heq⟩ := Option.map_eq_some_iff.1 h
        obtain ⟨rfl, rfl⟩ := Prod.mk.inj heq
        obtain ⟨hmem, rfl⟩ := ih hread
        exact ⟨by simp [hmem, Ne.symm hc], rfl⟩

theorem readSingle?_eq_none_iff {text : Text} :
    readSingle? text = none ↔ '\'' ∉ text := by
  induction text with
  | nil => simp [readSingle?]
  | cons c rest ih =>
      by_cases hc : c = '\''
      · simp [readSingle?, hc]
      · simp [readSingle?, hc, ih, Ne.symm hc]

/-- What is taken off a text is a whole piece, and where nothing is, the text
ends inside one. -/
theorem first_spec (c : Char) (rest : Text) :
    match first c rest with
    | .ok (piece, after) => piece.IsWhole ∧ c :: rest = piece.written ++ after
    | .error error => EndsInside error (c :: rest) := by
  fun_cases first c rest with
  | case1 _ hc content after hread =>
      obtain ⟨hmem, rfl⟩ := append_of_readSingle? hread
      subst hc
      exact ⟨hmem, by simp [written]⟩
  | case2 _ hc hread =>
      subst hc
      exact .single (readSingle?_eq_none_iff.1 hread)
  | case3 _ hsingle hc parts after hread =>
      obtain ⟨hfit, rfl⟩ := QuotedChar.read?_eq_some_iff.1 hread
      subst hc
      exact ⟨hfit, by simp [written]⟩
  | case4 _ hsingle hc hread =>
      obtain ⟨parts, hfit, rfl⟩ := QuotedChar.read?_eq_none_iff.1 hread
      subst hc
      exact .double hfit
  | case5 hsingle hdouble hc next after =>
      subst hc
      exact ⟨trivial, rfl⟩
  | case6 hsingle hdouble hc =>
      subst hc
      exact .escaped
  | case7 _ hsingle hdouble hescape => exact ⟨⟨hsingle, hdouble, hescape⟩, rfl⟩

/-- Of a text that begins with a whole piece, that piece is taken off. -/
theorem first_written {piece : Piece} (h : piece.IsWhole) (after : Text) :
    ∃ c rest, piece.written ++ after = c :: rest ∧
      first c rest = .ok (piece, after) := by
  cases piece with
  | single content =>
      refine ⟨'\'', content ++ '\'' :: after, by simp [written], ?_⟩
      simp [first, readSingle?_append h after]
  | double parts =>
      refine ⟨'"',
        QuotedChar.written parts ++ '"' :: after, by simp [written], ?_⟩
      simp [first, QuotedChar.read?_eq_some_iff.2 ⟨h, rfl⟩]
  | escaped c => exact ⟨'\\', c :: after, rfl, rfl⟩
  | bare c => exact ⟨c, after, rfl, by simp [first, h.1, h.2.1, h.2.2]⟩

theorem first_of_endsInside {c : Char} {rest : Text} {error : LineError}
    (h : EndsInside error (c :: rest)) : first c rest = .error error := by
  cases h with
  | single hmem => simp [first, readSingle?_eq_none_iff.2 hmem]
  | double hfit => simp [first, QuotedChar.read?_eq_none_iff.2 ⟨_, hfit, rfl⟩]
  | escaped => rfl

theorem length_written_pos (piece : Piece) : 0 < piece.written.length := by
  cases piece <;> simp [written]

/-- The pieces of a line, from the left. -/
def cut : Text → Except LineError (List Piece)
  | [] => .ok []
  | c :: rest =>
    match _h : first c rest with
    | .error error => .error error
    | .ok (piece, after) => (cut after).map (piece :: ·)
termination_by line => line.length
decreasing_by
  have hspec := first_spec c rest
  rw [_h] at hspec
  have hpos := piece.length_written_pos
  rw [hspec.2, List.length_append]
  omega

def spelled (pieces : List Piece) : Text := pieces.flatMap written

@[simp] theorem spelled_nil : spelled [] = [] := rfl

@[simp] theorem spelled_cons (piece : Piece) (pieces : List Piece) :
    spelled (piece :: pieces) = piece.written ++ spelled pieces := rfl

theorem cut_written {piece : Piece} (h : piece.IsWhole) (after : Text) :
    cut (piece.written ++ after) = (cut after).map (piece :: ·) := by
  obtain ⟨c, rest, htext, hfirst⟩ := first_written h after
  rw [htext, cut]
  split
  · rename_i error heq
    rw [hfirst] at heq
    cases heq
  · rename_i found left heq
    rw [hfirst] at heq
    cases heq
    rfl

theorem cut_of_endsInside {error : LineError} {tail : Text}
    (h : EndsInside error tail) :
    cut tail = .error error := by
  have hne : tail ≠ [] := by cases h <;> simp
  obtain ⟨c, rest, rfl⟩ := List.exists_cons_of_ne_nil hne
  rw [cut]
  split
  · rename_i found heq
    rw [first_of_endsInside h] at heq
    cases heq
    rfl
  · rename_i found left heq
    rw [first_of_endsInside h] at heq
    cases heq

theorem cut_spelled {pieces : List Piece} (h : ∀ piece ∈ pieces, piece.IsWhole)
    (tail : Text) :
    cut (spelled pieces ++ tail) = (cut tail).map (pieces ++ ·) := by
  induction pieces with
  | nil => cases hcut : cut tail <;> simp [hcut, Except.map]
  | cons piece rest ih =>
      have hpiece := h piece List.mem_cons_self
      have hrest :=
        ih fun other hother => h other (List.mem_cons_of_mem piece hother)
      rw [spelled_cons, List.append_assoc, cut_written hpiece, hrest]
      cases hcut : cut tail <;> rfl

/-- A line is cut into whole pieces that spell it, or up to the piece inside
which it ends. -/
theorem cut_spec (line : Text) :
    match cut line with
    | .ok pieces => (∀ piece ∈ pieces, piece.IsWhole) ∧ spelled pieces = line
    | .error error => ∃ pieces tail, (∀ piece ∈ pieces, piece.IsWhole) ∧
        line = spelled pieces ++ tail ∧ EndsInside error tail := by
  fun_induction cut line with
  | case1 => exact ⟨fun _ h => absurd h List.not_mem_nil, rfl⟩
  | case2 c rest error hfirst =>
      have hspec := first_spec c rest
      rw [hfirst] at hspec
      exact ⟨[], c :: rest, fun _ h => absurd h List.not_mem_nil, rfl, hspec⟩
  | case3 c rest piece after hfirst ih =>
      have hspec := first_spec c rest
      rw [hfirst] at hspec
      obtain ⟨hpiece, htext⟩ := hspec
      cases hcut : cut after with
      | ok pieces =>
          rw [hcut] at ih
          refine ⟨?_, by rw [spelled_cons, ih.2, htext]⟩
          simpa [hpiece] using ih.1
      | error error =>
          rw [hcut] at ih
          obtain ⟨pieces, tail, hwhole, rfl, hinside⟩ := ih
          refine ⟨piece :: pieces, tail, ?_, by simpa using htext, hinside⟩
          simpa [hpiece] using hwhole

/-- The pieces of a line are the whole pieces that spell it. -/
theorem cut_eq_ok_iff {line : Text} {pieces : List Piece} :
    cut line = .ok pieces ↔
      (∀ piece ∈ pieces, piece.IsWhole) ∧ spelled pieces = line := by
  constructor
  · intro h
    have hspec := cut_spec line
    rwa [h] at hspec
  · rintro ⟨hwhole, rfl⟩
    have hcut := cut_spelled hwhole []
    rw [List.append_nil] at hcut
    rw [hcut, cut]
    simp [Except.map]

/-- A line that cannot be cut ends inside a piece after some whole ones. -/
theorem cut_eq_error_iff {line : Text} {error : LineError} :
    cut line = .error error ↔ ∃ pieces tail, (∀ piece ∈ pieces, piece.IsWhole) ∧
      line = spelled pieces ++ tail ∧ EndsInside error tail := by
  constructor
  · intro h
    have hspec := cut_spec line
    rwa [h] at hspec
  · rintro ⟨pieces, tail, hwhole, rfl, hinside⟩
    rw [cut_spelled hwhole, cut_of_endsInside hinside]
    rfl

end Piece

end LineShell.Token
