import LineShell.Loop

/-!
Running the shell on standard input that it shares with the programs it starts.

Lines are read from what has been taken from standard input before.  Where that
holds no whole line, more is taken, up to `readAhead` bytes at a time; what is
not read as a line yet is held for the next ones.  So a program finds on
standard input what has not been taken, and what it takes is not read.
-/
namespace LineShell

/-- A text up to the first line feed, which belongs to it, and what comes
after. -/
def Text.cutLine? : Text → Option (Text × Text)
  | [] => none
  | c :: rest =>
    if c = '\n' then some (['\n'], rest)
    else (cutLine? rest).map fun (line, after) => (c :: line, after)

namespace CommandLine

/-- The greatest number of bytes that are taken from standard input at a time.
A character of which they hold a part is taken as a whole. -/
def readAhead : Nat := 8192

/-- A line with its end, or nothing at the end of the input; what is held; and
what is left on standard input. -/
structure Reading where
  line : Text
  held : Text
  left : Text
  deriving DecidableEq, Repr

theorem length_dropBytes_readAhead_lt {input : Text} (h : input ≠ []) :
    (Text.dropBytes readAhead input).length < input.length := by
  cases input with
  | nil => exact absurd rfl h
  | cons c rest =>
      exact Nat.lt_succ_of_le (Text.dropBytes_suffix _ rest).length_le

def readLine (held input : Text) : Reading :=
  match Text.cutLine? held with
  | some (line, rest) => ⟨line, rest, input⟩
  | none =>
    if input = [] then ⟨held, [], []⟩
    else
      readLine (held ++ Text.takeBytes readAhead input)
        (Text.dropBytes readAhead input)
termination_by input.length
decreasing_by exact length_dropBytes_readAhead_lt ‹_›

/-- A line without the carriage returns and line feeds at its end. -/
def stripped (line : Text) : Text :=
  Text.dropEndWhile (fun c => c = '\r' || c = '\n') line

end CommandLine

theorem Text.takeBytes_append_dropBytes (count : Nat) (text : Text) :
    takeBytes count text ++ dropBytes count text = text := by
  induction text generalizing count with
  | nil => simp [takeBytes]
  | cons c rest ih =>
    cases count with
    | zero => simp
    | succ count => exact congrArg (c :: ·) (ih _)

/-- What is cut off ends at the first line feed. -/
theorem Text.exists_of_cutLine? {text line rest : Text}
    (h : cutLine? text = some (line, rest)) :
    ∃ front, '\n' ∉ front ∧ line = front ++ ['\n'] ∧
      text = front ++ '\n' :: rest := by
  induction text generalizing line with
  | nil => cases h
  | cons c others ih =>
    rw [cutLine?] at h
    split at h
    · rename_i hc
      cases h
      exact ⟨[], List.not_mem_nil, rfl, by rw [hc]; rfl⟩
    · rename_i hc
      obtain ⟨⟨found, after⟩, hfound, heq⟩ := Option.map_eq_some_iff.1 h
      cases heq
      obtain ⟨front, hfront, rfl, rfl⟩ := ih hfound
      refine ⟨c :: front, ?_, rfl, rfl⟩
      simp [hfront, Ne.symm hc]

theorem Text.not_mem_of_cutLine? {text : Text} (h : cutLine? text = none) :
    '\n' ∉ text := by
  induction text with
  | nil => exact List.not_mem_nil
  | cons c rest ih =>
    rw [cutLine?] at h
    split at h
    · cases h
    · rename_i hc
      simp [ih (Option.map_eq_none_iff.1 h), Ne.symm hc]

namespace CommandLine

/-- Reading loses nothing. -/
theorem readLine_append (held input : Text) :
    (readLine held input).line ++ (readLine held input).held ++
      (readLine held input).left =
      held ++ input := by
  fun_induction readLine held input with
  | case1 held input line rest hcut =>
    obtain ⟨front, -, rfl, rfl⟩ := Text.exists_of_cutLine? hcut
    simp
  | case2 held hcut => simp
  | case3 held input hcut hsome ih =>
    rw [ih, List.append_assoc, Text.takeBytes_append_dropBytes]

theorem readLine_length_lt {held input : Text}
    (h : (readLine held input).line ≠ []) :
    (readLine held input).held.length + (readLine held input).left.length <
      held.length + input.length := by
  have hlength := congrArg List.length (readLine_append held input)
  have hpositive := List.length_pos_iff.2 h
  simp only [List.length_append] at hlength
  omega

/-- Runs the shell on its standard input, where `held` has been taken from it
before. -/
def serve (setup : Setup) (held : Text) (shell : Shell) : RunEnd × Shell :=
  let prompted := shell.say setup.prompt
  let reading := readLine held prompted.input
  let ready := { prompted with input := reading.left }
  if reading.line = [] then
    (.status 0, ready.tell .inputEnded)
  else if stripped reading.line = Shell.exitLine then
    (.status 0, ready)
  else
    let handled := ready.handleLine setup (stripped reading.line)
    match handled.1.ending? with
    | some ending => (ending, handled.2)
    | none => serve setup reading.held handled.2
termination_by held.length + shell.input.length
decreasing_by
  have hcontinues :=
    (ready.continues_handleLine setup (stripped reading.line)).input.length_le
  exact Nat.lt_of_le_of_lt (Nat.add_le_add_left hcontinues _)
    (readLine_length_lt ‹_›)

end CommandLine

end LineShell
