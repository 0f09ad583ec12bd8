import LineShell.CommandLine
import LineShell.Proofs.Text.Ends
import Mathlib.Data.List.Induction

/-!
Reading a text line by line.

A line ends at a line feed, or at the end of the text if something stands there;
carriage returns at its end do not belong to it (`Reads`).  This gives every
text its lines and no others (`reads_iff_lines_eq`), and they stay the same if
every line feed is preceded by a carriage return (`lines_crlf`).
-/
namespace LineShell

namespace Text

/-- A text with a carriage return before every line feed. -/
def crlf (text : Text) : Text :=
  text.flatMap fun c => if c = '\n' then ['\r', '\n'] else [c]

theorem crlf_append (first second : Text) :
    crlf (first ++ second) = crlf first ++ crlf second :=
  List.flatMap_append

theorem crlf_of_not_mem {text : Text} (h : '\n' ∉ text) : crlf text = text := by
  induction text with
  | nil => rfl
  | cons c rest ih =>
      obtain ⟨hc, hrest⟩ := not_or.1 (mt List.mem_cons.2 h)
      rw [crlf, List.flatMap_cons, if_neg (Ne.symm hc)]
      exact congrArg (c :: ·) (ih hrest)

end Text

namespace CommandLine

/-- The lines of a text: they end at line feeds, and carriage returns and line
feeds at the end of a line do not belong to it. -/
def lines (text : Text) : List Text :=
  let pieces := Text.splitOn '\n' text
  let kept := if pieces.getLast? = some [] then pieces.dropLast else pieces
  kept.map stripped

/-- Whether a text is a line without its end. -/
def IsLine (line : Text) : Prop := '\n' ∉ line ∧ line.getLast? ≠ some '\r'

/-- The lines of a text. -/
inductive Reads : Text → List Text → Prop where
  | nothing : Reads [] []
  /-- A line that ends at a line feed; it may be empty. -/
  | line {line returns rest : Text} {others : List Text} (hline : IsLine line)
      (hreturns : ∀ c ∈ returns, c = '\r') (hrest : Reads rest others) :
      Reads (line ++ returns ++ '\n' :: rest) (line :: others)
  /-- What stands after the last line feed, if anything does. -/
  | last {line returns : Text} (hline : IsLine line) (hreturns : ∀ c ∈ returns,
      c = '\r')
      (hsome : line ++ returns ≠ []) : Reads (line ++ returns) [line]

theorem stripped_append {line returns : Text}
    (hline : IsLine line) (hreturns : ∀ c ∈ returns, c = '\r') :
    stripped (line ++ returns) = line := by
  rw [stripped, Text.dropEndWhile_append fun c hc => by simp [hreturns c hc]]
  refine Text.dropEndWhile_eq_self fun c hlast => ?_
  have hfeed : c ≠ '\n' := fun heq => hline.1 (heq ▸ List.mem_of_getLast? hlast)
  have hreturn : c ≠ '\r' := fun heq => hline.2 (heq ▸ hlast)
  simp [hfeed, hreturn]

theorem not_mem_line_append {line returns : Text} (hline : IsLine line)
    (hreturns : ∀ c ∈ returns, c = '\r') : '\n' ∉ line ++ returns := by
  intro hfeed
  rcases List.mem_append.1 hfeed with hfeed | hfeed
  · exact hline.1 hfeed
  · cases hreturns _ hfeed

theorem lines_nil : lines [] = [] := rfl

theorem lines_append {front : Text} (hfront : '\n' ∉ front) (rest : Text) :
    lines (front ++ '\n' :: rest) = stripped front :: lines rest := by
  have hne := Text.splitOn_ne_nil '\n' rest
  unfold lines
  rw [Text.splitOn_append hfront]
  cases hpieces : Text.splitOn '\n' rest with
  | nil => exact absurd hpieces hne
  | cons piece pieces =>
      simp only [List.getLast?_cons_cons, List.dropLast_cons_cons]
      split <;> rfl

theorem lines_of_not_mem {front : Text} (hfront : '\n' ∉ front)
    (hsome : front ≠ []) :
    lines front = [stripped front] := by
  simp only [lines, Text.splitOn_of_not_mem hfront, List.getLast?_singleton,
    Option.some.injEq, hsome, if_false]
  rfl

/-- What a text without line feeds is as a line. -/
theorem exists_line {front : Text} (hfront : '\n' ∉ front) :
    ∃ line returns, front = line ++ returns ∧ IsLine line ∧
      ∀ c ∈ returns, c = '\r' := by
  induction front using List.reverseRecOn with
  | nil => exact ⟨[], [], rfl, ⟨List.not_mem_nil, nofun⟩, nofun⟩
  | append_singleton init c ih =>
      by_cases hc : c = '\r'
      · obtain ⟨line, returns, rfl, hline, hreturns⟩ :=
          ih fun hfeed => hfront (List.mem_append_left _ hfeed)
        refine ⟨line, returns ++ [c], List.append_assoc _ _ _, hline,
          fun d hd => ?_⟩
        rcases List.mem_append.1 hd with hd | hd
        · exact hreturns d hd
        · rw [List.mem_singleton.1 hd, hc]
      · refine ⟨init ++ [c], [], (List.append_nil _).symm, ⟨hfront, ?_⟩, nofun⟩
        rw [List.getLast?_concat]
        exact fun heq => hc (Option.some.inj heq)

theorem Reads.lines_eq {text : Text} {read : List Text} (h : Reads text read) :
    lines text = read := by
  induction h with
  | nothing => exact lines_nil
  | line hline hreturns hrest ih =>
      rw [lines_append (not_mem_line_append hline hreturns),
        stripped_append hline hreturns, ih]
  | last hline hreturns hsome =>
      rw [lines_of_not_mem (not_mem_line_append hline hreturns) hsome,
        stripped_append hline hreturns]

/-- Every text is read. -/
theorem exists_reads (text : Text) : ∃ read, Reads text read := by
  induction hlength : text.length using Nat.strongRecOn generalizing text with
  | ind length ih =>
      by_cases hfeed : '\n' ∈ text
      · obtain ⟨front, rest, rfl, hfront⟩ := List.eq_append_cons_of_mem hfeed
        obtain ⟨line, returns, rfl, hline, hreturns⟩ := exists_line hfront
        have hshorter : rest.length < length := by
          rw [← hlength, List.length_append, List.length_cons]
          omega
        obtain ⟨others, hothers⟩ := ih rest.length hshorter rest rfl
        exact ⟨line :: others, .line hline hreturns hothers⟩
      · obtain ⟨line, returns, rfl, hline, hreturns⟩ := exists_line hfeed
        by_cases hsome : line ++ returns = []
        · rw [hsome]
          exact ⟨[], .nothing⟩
        · exact ⟨[line], .last hline hreturns hsome⟩

/-- The lines of a text are those that are read from it. -/
theorem reads_iff_lines_eq {text : Text} {read : List Text} :
    Reads text read ↔ lines text = read := by
  constructor
  · exact Reads.lines_eq
  · rintro rfl
    obtain ⟨read, hread⟩ := exists_reads text
    rw [hread.lines_eq]
    exact hread

theorem Reads.crlf {text : Text} {read : List Text} (h : Reads text read) :
    Reads text.crlf read := by
  induction h with
  | nothing => exact .nothing
  | @line line returns rest others hline hreturns hrest ih =>
      have htext : Text.crlf (line ++ returns ++ '\n' :: rest) =
          line ++ (returns ++ ['\r']) ++ '\n' :: Text.crlf rest := by
        rw [Text.crlf_append,
          Text.crlf_of_not_mem (not_mem_line_append hline hreturns)]
        simp [Text.crlf]
      rw [htext]
      refine .line hline (fun c hc => ?_) ih
      rcases List.mem_append.1 hc with hc | hc
      · exact hreturns c hc
      · exact List.mem_singleton.1 hc
  | last hline hreturns hsome =>
      rw [Text.crlf_of_not_mem (not_mem_line_append hline hreturns)]
      exact .last hline hreturns hsome

/-- Carriage returns before line feeds make no difference. -/
theorem lines_crlf (text : Text) : lines text.crlf = lines text :=
  (reads_iff_lines_eq.2 rfl).crlf.lines_eq

end CommandLine

end LineShell
