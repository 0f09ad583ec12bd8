import Mathlib.Data.List.MinMax
import LineShell.Proofs.Token.Piece
import LineShell.Token.Lexer

/-!
Reading a line in two phases: cutting it into pieces, and grouping the pieces
into words and redirection operators.

Main statement: the reader, which goes through the line once with a state of its
own, gives what the two phases give (`ofLine_two_phase`).  The induction is over
the pieces.  Between two pieces the reader stands outside quotes, and what it
holds then is the word in progress and the tokens so far.
-/
namespace LineShell

namespace Operator

/-- Trying the widths from the greatest one finds the longest operator. -/
theorem findSome?_width_eq_argmax (fits : Operator → Bool) :
    ([3, 2, 1].findSome? fun width =>
      all.find? fun operator => operator.width = width && fits operator) =
      (all.filter fits).argmax width := by
  have hwidths : width ⟨some .output, .append⟩ = 3 ∧
      width ⟨some .errors, .append⟩ = 3 ∧
      width ⟨none, .append⟩ = 2 ∧ width ⟨some .output, .truncate⟩ = 2 ∧
      width ⟨some .errors, .truncate⟩ = 2 ∧
      width ⟨none, .truncate⟩ = 1 := by decide
  simp only [all, List.filter, List.find?, List.findSome?]
  -- What is left asks only which of the six operators fit.
  generalize fits ⟨some .output, .append⟩ = outputAppend
  generalize fits ⟨some .errors, .append⟩ = errorsAppend
  generalize fits ⟨none, .append⟩ = append
  generalize fits ⟨some .output, .truncate⟩ = outputTruncate
  generalize fits ⟨some .errors, .truncate⟩ = errorsTruncate
  generalize fits ⟨none, .truncate⟩ = truncate
  revert outputAppend errorsAppend append outputTruncate errorsTruncate truncate
  decide

/-- The operator at the start of a text is the longest one that the text begins
with. -/
theorem atStart?_eq_argmax (wordStart : Bool) (text : Text) :
    atStart? wordStart text =
      (all.filter fun operator => operator.text.isPrefixOf text &&
        (wordStart || operator.descriptor.isNone)).argmax width := by
  rw [← findSome?_width_eq_argmax]
  unfold atStart? longest?
  congr 1
  funext width
  congr 1
  funext operator
  by_cases hwidth : operator.width = width
  · subst hwidth
    have hstarts : decide (operator.text = text.take operator.width) =
        operator.text.isPrefixOf text := by
      rw [Bool.eq_iff_iff, decide_eq_true_iff, List.isPrefixOf_iff_prefix,
        List.prefix_iff_eq_take]
      rfl
    rw [hstarts, decide_eq_true rfl, Bool.true_and, Bool.true_and]
  · simp [hwidth]

/-- All characters of an operator but the first are angle brackets, and the
first is neither a quote nor a space. -/
theorem text_eq_cons (operator : Operator) :
    ∃ c count, operator.text = c :: List.replicate count '>' ∧
      (c ≠ '\'' ∧ c ≠ '"' ∧ c ≠ '\\') ∧ c ≠ ' ' ∧ (count = 0 → c = '>') ∧
      count + 1 = operator.width := by
  rcases operator with ⟨_ | _ | _, _ | _⟩
  · exact ⟨'>', 0, by decide⟩
  · exact ⟨'>', 1, by decide⟩
  · exact ⟨'1', 1, by decide⟩
  · exact ⟨'1', 2, by decide⟩
  · exact ⟨'2', 1, by decide⟩
  · exact ⟨'2', 2, by decide⟩

/-- No operator starts with a quote or a backslash. -/
theorem atStart?_eq_none_of_quote
    {c : Char} (hc : c = '\'' ∨ c = '"' ∨ c = '\\') (wordStart : Bool)
    (rest : Text) : atStart? wordStart (c :: rest) = none := by
  rw [atStart?_eq_argmax, List.argmax_eq_none, List.filter_eq_nil_iff]
  intro operator _ hfits
  obtain ⟨first, count, htext, ⟨hsingle, hdouble, hescape⟩, -⟩ :=
    operator.text_eq_cons
  rw [Bool.and_eq_true, List.isPrefixOf_iff_prefix, htext,
    List.cons_prefix_cons] at hfits
  obtain ⟨⟨rfl, -⟩, -⟩ := hfits
  rcases hc with hc | hc | hc
  · exact hsingle hc
  · exact hdouble hc
  · exact hescape hc

end Operator

namespace Token.Piece

/-- The longest operator that bare pieces spell here.  One that names its stream
counts at the start of a word only. -/
def leading? (wordStart : Bool) (pieces : List Piece) : Option Operator :=
  (Operator.all.filter fun operator =>
    (operator.text.map bare).isPrefixOf pieces &&
    (wordStart || operator.descriptor.isNone)).argmax Operator.width

/-- A word that ends, unless it has no character. -/
def ended (word : Text) : List Token :=
  if word = [] then [] else [Token.word word]

/-- The tokens that pieces make after the characters of a word in progress. -/
def group (word : Text) (pieces : List Piece) : List Token :=
  match pieces with
  | [] => ended word
  | piece :: rest =>
    match leading? word.isEmpty (piece :: rest) with
    | some operator =>
      ended word ++ Token.redirect operator ::
        group [] ((piece :: rest).drop operator.width)
    | none =>
      if piece = .bare ' ' then ended word ++ group [] rest
      else group (word ++ piece.content) rest
termination_by pieces.length
decreasing_by
  · have := operator.width_pos
    simp only [List.length_drop, List.length_cons]
    omega
  · simp
  · simp

theorem cons_prefix_spelled_iff {c : Char} {text tail : Text} {piece : Piece}
    {pieces : List Piece} (hc : c ≠ '\'' ∧ c ≠ '"' ∧ c ≠ '\\') :
    c :: text <+: spelled (piece :: pieces) ++ tail ↔
      piece = .bare c ∧ text <+: spelled pieces ++ tail := by
  cases piece <;> simp [written, hc, eq_comm]

theorem replicate_prefix_spelled_iff {tail : Text}
    (htail : tail.head? ≠ some '>') (pieces : List Piece) (count : Nat) :
    List.replicate count '>' <+: spelled pieces ++ tail ↔
      List.replicate count (bare '>') <+: pieces := by
  induction count generalizing pieces with
  | zero => simp
  | succ count ih =>
      cases pieces with
      | nil =>
          cases tail with
          | nil => simp [List.replicate_succ]
          | cons c rest =>
              have hc : ¬ '>' = c := fun heq => htail (by rw [← heq]; rfl)
              simp [List.replicate_succ, hc]
      | cons piece rest =>
          rw [List.replicate_succ, List.replicate_succ, cons_prefix_spelled_iff
            (by decide), ih rest, List.cons_prefix_cons, eq_comm]

/-- The reader and the second phase see the same operator, as no piece that is
quoted or escaped is written with the characters of one. -/
theorem atStart?_spelled {tail : Text} (htail : tail.head? ≠ some '>')
    (wordStart : Bool) (piece : Piece) (pieces : List Piece) :
    Operator.atStart? wordStart (spelled (piece :: pieces) ++ tail) =
      leading? wordStart (piece :: pieces) := by
  have hstarts : ∀ operator : Operator,
      operator.text.isPrefixOf (spelled (piece :: pieces) ++ tail) =
        (operator.text.map bare).isPrefixOf (piece :: pieces) := by
    intro operator
    obtain ⟨c, count, htext, hquote, -⟩ := operator.text_eq_cons
    rw [Bool.eq_iff_iff, List.isPrefixOf_iff_prefix, List.isPrefixOf_iff_prefix,
      htext, cons_prefix_spelled_iff hquote, replicate_prefix_spelled_iff htail,
      List.map_cons, List.map_replicate, List.cons_prefix_cons, eq_comm]
  simp only [Operator.atStart?_eq_argmax, leading?, hstarts]

/-- The words for a text that ends inside the piece that it begins with. -/
def openWords : Text → Option Text
  | '\'' :: _ => some "unterminated single quote".toList
  | '"' :: _ => some "unterminated double quote".toList
  | '\\' :: _ => some "unexpected end of line after backslash".toList
  | _ => none

theorem EndsInside.detail? {error : LineError} {tail : Text}
    (h : EndsInside error tail) :
    error.detail? = openWords tail := by
  cases h <;> rfl

theorem EndsInside.head?_ne {error : LineError} {tail : Text}
    (h : EndsInside error tail) :
    tail.head? ≠ some '>' := by
  cases h <;> simp

theorem spelled_append (first second : List Piece) :
    spelled (first ++ second) = spelled first ++ spelled second := by
  simp [spelled]

@[simp] theorem spelled_map_bare (text : Text) :
    spelled (text.map bare) = text := by
  induction text with
  | nil => rfl
  | cons c rest ih => simp [written, ih]

theorem drop_width (found : Operator) (rest : List Piece) :
    (found.text.map bare ++ rest).drop found.width = rest := by
  apply List.drop_left'
  simp [Operator.width]

theorem prefix_of_leading? {wordStart : Bool} {pieces : List Piece}
    {found : Operator} (h : leading? wordStart pieces = some found) :
    found.text.map bare <+: pieces := by
  have hmem := List.argmax_mem h
  simp only [List.mem_filter, Bool.and_eq_true, List.isPrefixOf_iff_prefix]
    at hmem
  exact hmem.2.1

end Token.Piece

namespace Token.Lexer

open Piece

theorem run_single {content : Text} (h : '\'' ∉ content) (word : Text)
    (tokens : List Token) (rest : Text) :
    run ⟨.single, word, tokens⟩ (content ++ rest) =
      run ⟨.single, content.reverse ++ word, tokens⟩ rest := by
  induction content generalizing word with
  | nil => rfl
  | cons c content ih =>
      simp only [List.mem_cons, not_or] at h
      rw [List.cons_append, run_cons, List.reverse_cons, List.append_assoc]
      simpa [step, Ne.symm h.1, push] using ih h.2 (c :: word)

theorem isEscapable_iff {c : Char} : isEscapable c = true ↔ Escapable c := by
  simp [isEscapable, Escapable]

theorem not_any_isEscapable {next : Option Char}
    (h : ∀ c ∈ next, ¬ Escapable c) :
    ¬ next.any isEscapable = true := by
  cases next with
  | none => simp
  | some c => simpa [isEscapable_iff] using h c rfl

theorem run_double {parts : List QuotedChar} (word : Text) (tokens : List Token)
    (rest : Text) (h : QuotedChar.Fit rest.head? parts) :
    run ⟨.double, word, tokens⟩ (QuotedChar.written parts ++ rest) =
      run ⟨.double, (parts.map QuotedChar.char).reverse ++ word, tokens⟩
        rest := by
  induction parts generalizing word with
  | nil => rfl
  | cons part parts ih =>
      cases part with
      | plain c =>
          obtain ⟨hquote, hspecial, hparts⟩ := h
          rw [← List.head?_append] at hspecial
          have hstep : step ⟨.double, word, tokens⟩ c
              (QuotedChar.written parts ++ rest) =
              ⟨.double, c :: word, tokens⟩ := by
            simp only [step, hquote, if_false, push]
            split
            · rename_i hspecial'
              simp only [Bool.and_eq_true, decide_eq_true_eq] at hspecial'
              exact absurd hspecial'.2
                (not_any_isEscapable (hspecial hspecial'.1))
            · rfl
          rw [QuotedChar.written, List.cons_append, run_cons, hstep,
            ih _ hparts]
          simp [QuotedChar.char]
      | escaped c =>
          obtain ⟨hc, hparts⟩ := h
          have hc' := isEscapable_iff.2 hc
          simpa [QuotedChar.written, QuotedChar.char, step, hc', enter, push]
            using ih (c :: word) hparts

theorem run_skipping (count : Nat) (word : Text) (tokens : List Token)
    (rest : Text) :
    run ⟨.skipping count, word, tokens⟩
      (List.replicate (count + 1) '>' ++ rest) =
      run ⟨.bare, word, tokens⟩ rest := by
  induction count with
  | zero => rfl
  | succ count ih => simpa [List.replicate_succ, step, enter] using ih

theorem flush_eq (lexer : Lexer) :
    lexer.flush = ⟨lexer.state, [], lexer.flush.tokens⟩ := by
  rcases lexer with ⟨state, _ | ⟨c, word⟩, tokens⟩ <;> rfl

theorem flush_tokens (state : LexState) (word : Text) (tokens : List Token) :
    (flush ⟨state, word, tokens⟩).tokens.reverse =
      tokens.reverse ++ ended word.reverse := by
  cases word <;> simp [flush, ended]

/-- An operator ends the word in progress and is passed over as a whole. -/
theorem run_operator {word rest : Text} {found : Operator} (tokens : List Token)
    (h : Operator.atStart? word.isEmpty (found.text ++ rest) = some found) :
    run ⟨.bare, word, tokens⟩ (found.text ++ rest) =
      run ⟨.bare, [],
        Token.redirect found :: (flush ⟨.bare, word, tokens⟩).tokens⟩ rest := by
  obtain ⟨c, count, htext, -, -, -, hcount⟩ := found.text_eq_cons
  rw [htext, List.cons_append] at h ⊢
  have hstep : step ⟨.bare, word, tokens⟩ c (List.replicate count '>' ++ rest) =
      operator ⟨.bare, word, tokens⟩ found := by
    simp only [step, h]
  rw [run_cons, hstep]
  cases count with
  | zero => simp [operator, ← hcount, afterOperator]
  | succ count =>
      have hskip := run_skipping count []
        (Token.redirect found :: (flush ⟨.bare, word, tokens⟩).tokens) rest
      simpa [operator, ← hcount, afterOperator] using hskip

/-- A piece at which no operator starts ends the word, if it is a bare space, or
adds to it. -/
theorem run_written {piece : Piece}
    (hwhole : piece.IsWhole) (word : Text) (tokens : List Token) (rest : Text)
    (hnone : Operator.atStart? word.isEmpty (piece.written ++ rest) = none) :
    run ⟨.bare, word, tokens⟩ (piece.written ++ rest) =
      if piece = .bare ' ' then run (flush ⟨.bare, word, tokens⟩) rest
      else run ⟨.bare, piece.content.reverse ++ word, tokens⟩ rest := by
  cases piece with
  | single content =>
      have hquote := run_single hwhole word tokens ('\'' :: rest)
      simp only [Piece.written, List.cons_append, List.append_assoc,
        List.nil_append] at hnone ⊢
      simp [step, hnone, bareStep, enter, hquote, Piece.content]
  | double parts =>
      have hquote := run_double word tokens ('"' :: rest) hwhole
      simp only [Piece.written, List.cons_append, List.append_assoc,
        List.nil_append] at hnone ⊢
      simp [step, hnone, bareStep, enter, hquote, Piece.content]
  | escaped c =>
      simp only [Piece.written, List.cons_append, List.nil_append] at hnone ⊢
      simp [step, hnone, bareStep, enter, push, Piece.content]
  | bare c =>
      obtain ⟨hsingle, hdouble, hescape⟩ := hwhole
      simp only [Piece.written, List.cons_append, List.nil_append] at hnone ⊢
      by_cases hspace : c = ' '
      · subst hspace
        simp [step, hnone, bareStep]
      · simp [step, hnone, bareStep, push, Piece.content, hsingle, hdouble,
          hescape, hspace]

/-- Reading whole pieces leaves the reader outside quotes with a word in
progress; the tokens so far and that word are what grouping the pieces gives.
What follows must not go on with an operator. -/
theorem run_spelled {pieces : List Piece}
    (hwhole : ∀ piece ∈ pieces, piece.IsWhole) (tail : Text)
    (htail : tail.head? ≠ some '>') (word : Text) (tokens : List Token) :
    ∃ word' tokens',
      run ⟨.bare, word.reverse, tokens⟩ (spelled pieces ++ tail) =
        run ⟨.bare, word'.reverse, tokens'⟩ tail ∧
      tokens'.reverse ++ ended word' = tokens.reverse ++ group word pieces := by
  fun_induction group word pieces generalizing tokens with
  | case1 word => exact ⟨word, tokens, rfl, rfl⟩
  | case2 word piece rest found hfound ih =>
      obtain ⟨after, hafter⟩ := prefix_of_leading? hfound
      have hdrop : (piece :: rest).drop found.width = after := by
        rw [← hafter, drop_width]
      have hstart := atStart?_spelled htail word.isEmpty piece rest
      rw [hfound, ← hafter, spelled_append, spelled_map_bare, List.append_assoc]
        at hstart
      rw [hdrop] at ih ⊢
      rw [← hafter] at hwhole ⊢
      have hwholeAfter : ∀ piece ∈ after, piece.IsWhole := fun piece hpiece =>
        hwhole piece (List.mem_append_right _ hpiece)
      obtain ⟨word', tokens', hrun, htokens⟩ := ih hwholeAfter
        (Token.redirect found :: (flush ⟨.bare, word.reverse, tokens⟩).tokens)
      refine ⟨word', tokens', ?_, ?_⟩
      · rw [spelled_append, spelled_map_bare, List.append_assoc, run_operator]
        · exact hrun
        · simpa using hstart
      · rw [htokens, List.reverse_cons, flush_tokens, List.reverse_reverse]
        simp
  | case3 word rest hnone ih =>
      have hstart := atStart?_spelled htail word.isEmpty (.bare ' ') rest
      rw [hnone, spelled_cons, List.append_assoc] at hstart
      have hrest : ∀ piece ∈ rest, piece.IsWhole := fun piece hpiece =>
        hwhole piece (List.mem_cons_of_mem _ hpiece)
      obtain ⟨word', tokens', hrun, htokens⟩ :=
        ih hrest (flush ⟨.bare, word.reverse, tokens⟩).tokens
      refine ⟨word', tokens', ?_, ?_⟩
      · rw [spelled_cons, List.append_assoc,
          run_written (hwhole _ List.mem_cons_self), if_pos rfl, flush_eq]
        · exact hrun
        · simpa using hstart
      · rw [htokens, flush_tokens, List.reverse_reverse, List.append_assoc]
  | case4 word piece rest hnone hspace ih =>
      have hstart := atStart?_spelled htail word.isEmpty piece rest
      rw [hnone, spelled_cons, List.append_assoc] at hstart
      have hrest : ∀ piece ∈ rest, piece.IsWhole := fun piece hpiece =>
        hwhole piece (List.mem_cons_of_mem _ hpiece)
      obtain ⟨word', tokens', hrun, htokens⟩ := ih hrest tokens
      refine ⟨word', tokens', ?_, htokens⟩
      rw [spelled_cons, List.append_assoc,
        run_written (hwhole _ List.mem_cons_self), if_neg hspace]
      · simpa using hrun
      · simpa using hstart

theorem finish_bare (word : Text) (tokens : List Token) :
    finish ⟨.bare, word.reverse, tokens⟩ =
      .ok (tokens.reverse ++ ended word) := by
  simp [finish, flush_tokens]

theorem step_of_quote {c : Char} (hc : c = '\'' ∨ c = '"' ∨ c = '\\')
    (word : Text) (tokens : List Token) (rest : Text) :
    step ⟨.bare, word, tokens⟩ c rest = bareStep ⟨.bare, word, tokens⟩ c := by
  simp only [step, Operator.atStart?_eq_none_of_quote hc]

/-- A line that ends inside a piece is refused, whatever has been read
before. -/
theorem finish_run_of_endsInside {error : LineError} {tail : Text}
    (h : EndsInside error tail) (word : Text) (tokens : List Token) :
    (run ⟨.bare, word, tokens⟩ tail).finish = .error error := by
  cases h with
  | single hmem =>
      have hquote := run_single hmem word tokens []
      rw [List.append_nil] at hquote
      rw [run_cons, step_of_quote (Or.inl rfl)]
      simp [bareStep, enter, hquote, finish]
  | @double parts hfit =>
      have hquote := run_double word tokens [] hfit
      rw [List.append_nil] at hquote
      rw [run_cons, step_of_quote (Or.inr (Or.inl rfl))]
      simp [bareStep, enter, hquote, finish]
  | escaped =>
      rw [run_cons, step_of_quote (Or.inr (Or.inr rfl))]
      simp [bareStep, enter, finish]

end Token.Lexer

namespace Token

/-- The tokens of a line are the groups of its pieces. -/
theorem ofLine_eq_map_group (line : Text) :
    ofLine line = (Piece.cut line).map (Piece.group []) := by
  cases hcut : Piece.cut line with
  | ok pieces =>
      obtain ⟨hwhole, rfl⟩ := Piece.cut_eq_ok_iff.1 hcut
      obtain ⟨word, tokens, hrun, htokens⟩ :=
        Lexer.run_spelled hwhole [] (by simp) [] []
      rw [List.append_nil] at hrun
      simp only [List.reverse_nil, List.nil_append] at hrun htokens
      rw [ofLine, Lexer.start, hrun, Lexer.run_nil, Lexer.finish_bare, htokens]
      rfl
  | error error =>
      obtain ⟨pieces, tail, hwhole, rfl, hinside⟩ :=
        Piece.cut_eq_error_iff.1 hcut
      obtain ⟨word, tokens, hrun, -⟩ :=
        Lexer.run_spelled hwhole tail hinside.head?_ne [] []
      rw [List.reverse_nil] at hrun
      rw [ofLine, Lexer.start, hrun, Lexer.finish_run_of_endsInside hinside]
      rfl

/-- A line has tokens exactly if whole pieces spell it, and the tokens are their
groups. -/
theorem ofLine_eq_ok_iff {line : Text} {tokens : List Token} :
    ofLine line = .ok tokens ↔
      ∃ pieces, (∀ piece ∈ pieces, piece.IsWhole) ∧
        Piece.spelled pieces = line ∧
        tokens = Piece.group [] pieces := by
  rw [ofLine_eq_map_group]
  constructor
  · intro h
    cases hcut : Piece.cut line with
    | ok pieces =>
        rw [hcut] at h
        cases h
        obtain ⟨hwhole, hline⟩ := Piece.cut_eq_ok_iff.1 hcut
        exact ⟨pieces, hwhole, hline, rfl⟩
    | error error =>
        rw [hcut] at h
        cases h
  · rintro ⟨pieces, hwhole, hline, rfl⟩
    rw [Piece.cut_eq_ok_iff.2 ⟨hwhole, hline⟩]
    rfl

/-- The tokens that a line can have: words with at least one character, and
operators. -/
def IsLexical (token : Token) : Prop :=
  (∃ text, text ≠ [] ∧ token = word text) ∨
    ∃ operator, token = redirect operator

theorem isLexical_of_mem_ended {word : Text} {token : Token}
    (h : token ∈ Piece.ended word) :
    token.IsLexical := by
  by_cases hword : word = []
  · simp [Piece.ended, hword] at h
  · simp only [Piece.ended, hword, if_false, List.mem_singleton] at h
    exact Or.inl ⟨word, hword, h⟩

theorem isLexical_of_mem_group {word : Text} {pieces : List Piece}
    {token : Token} (h : token ∈ Piece.group word pieces) :
    token.IsLexical := by
  fun_induction Piece.group word pieces with
  | case1 word => exact isLexical_of_mem_ended h
  | case2 word piece rest found hfound ih =>
      rcases List.mem_append.1 h with hended | hrest
      · exact isLexical_of_mem_ended hended
      · rcases List.mem_cons.1 hrest with rfl | hrest
        · exact Or.inr ⟨found, rfl⟩
        · exact ih hrest
  | case3 word rest hnone ih =>
      rcases List.mem_append.1 h with hended | hrest
      · exact isLexical_of_mem_ended hended
      · exact ih hrest
  | case4 word piece rest hnone hspace ih => exact ih h

/-- A line has words with characters and operators only. -/
theorem isLexical_of_mem_ofLine {line : Text} {tokens : List Token}
    (h : ofLine line = .ok tokens) {token : Token} (htoken : token ∈ tokens) :
    token.IsLexical := by
  obtain ⟨pieces, -, -, rfl⟩ := ofLine_eq_ok_iff.1 h
  exact isLexical_of_mem_group htoken

/-- Reading a line is cutting it into pieces and grouping these.  The pieces are
the whole ones that spell the line, and a line that has none is refused for the
piece inside which it ends. -/
theorem ofLine_two_phase (line : Text) :
    ofLine line = (Piece.cut line).map (Piece.group []) ∧
    (∀ pieces, Piece.cut line = .ok pieces ↔
      (∀ piece ∈ pieces, piece.IsWhole) ∧ Piece.spelled pieces = line) ∧
    (∀ error, ofLine line = .error error ↔
      ∃ pieces tail, (∀ piece ∈ pieces, piece.IsWhole) ∧
        line = Piece.spelled pieces ++ tail ∧ Piece.EndsInside error tail ∧
        error.detail? = Piece.openWords tail) := by
  refine ⟨ofLine_eq_map_group line, fun _ => Piece.cut_eq_ok_iff,
    fun error => ?_⟩
  have hcut : ofLine line = .error error ↔ Piece.cut line = .error error := by
    rw [ofLine_eq_map_group]
    cases Piece.cut line <;> simp [Except.map]
  rw [hcut, Piece.cut_eq_error_iff]
  constructor
  · rintro ⟨pieces, tail, hwhole, hline, hinside⟩
    exact ⟨pieces, tail, hwhole, hline, hinside, hinside.detail?⟩
  · rintro ⟨pieces, tail, hwhole, hline, hinside, -⟩
    exact ⟨pieces, tail, hwhole, hline, hinside⟩

end Token

end LineShell
