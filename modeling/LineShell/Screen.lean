import LineShell.Text.Blank
import LineShell.Text.Columns
import LineShell.Text.Numeral

/-!
The screen that messages are displayed on: how many columns it has, and how it
emphasises.  Variables of the environment describe it.

An alert is a label and words.  It is wrapped between words where it does not
fit, a word that fits on no line is cut, and its label is emphasised.
-/
namespace LineShell

structure Screen where
  columns : Nat
  /-- What has to be written to begin emphasis, if the screen has any. -/
  emphasis : Option Text
  deriving DecidableEq, Repr

namespace Screen

/-- The columns of a screen that nothing is known about. -/
def standardColumns : Nat := 80

/-- The number in a variable that holds digits and nothing else. -/
def number? (environment : List (Text × Text)) (name : Text) :
    Except Text.Numeral.Fault (Option Nat) :=
  match environment.lookup name with
  | none => .ok none
  | some text =>
    if text.isEmpty || !text.all Text.isDigit then .ok none
    else (Text.Numeral.ofDigits text).map some

def isTerminal (environment : List (Text × Text)) : Bool :=
  match environment.lookup "TTY_COMPATIBLE".toList with
  | some ['0'] => false
  | some ['1'] => true
  | _ => ((environment.lookup "FORCE_COLOR".toList).getD []) ≠ []

/-- A letter as a small one, if that is one of the ASCII letters; the sign for
kelvin is a letter.
-/
def small (c : Char) : Char := if c = '\u212A' then 'k' else c.toLower

def isDumb (environment : List (Text × Text)) : Bool :=
  let kind := ((environment.lookup "TERM".toList).getD []).map small
  isTerminal environment && (kind = "dumb".toList || kind = "unknown".toList)

/-- The screen that the environment describes.  Of its lines nothing is kept but
that their number makes the number of columns count on every terminal. -/
def ofEnvironment (environment : List (Text × Text)) :
    Except Text.Numeral.Fault Screen := do
  let columns? ← number? environment "COLUMNS".toList
  let lines? ← number? environment "LINES".toList
  return {
    columns :=
      if isDumb environment && lines?.isNone then standardColumns
      else columns?.getD standardColumns
    emphasis :=
      if !isTerminal environment || isDumb environment then none
      else if ((environment.lookup "NO_COLOR".toList).getD []) ≠ [] then
        some "\x1b[1m".toList
      else some "\x1b[1;31m".toList }

def isVisible (screen : Screen) : Bool := screen.columns ≠ 0

/-- The words of a text in order, each with the blanks after it. -/
def words : Text → List Text
  | [] => []
  | c :: rest =>
    match words rest with
    | [] => [[c]]
    | next :: others =>
      if Text.isBlank c && !(next.head?.any Text.isBlank) then
        [c] :: next :: others
      else (c :: next) :: others

/-- A text cut into pieces of the given size, the last of which may be
smaller. -/
def pieces (size : Nat) (text : Text) : List Text :=
  (List.range ((text.length + size - 1) / size)).map fun index =>
    (text.drop (index * size)).take size

/-- Lines of words, where `line` is the last line so far. -/
def fill (columns : Nat) (line : Text) : List Text → List Text
  | [] => [line]
  | word :: rest =>
    let size := (Text.trimEnd word).length
    if line.length + size ≤ columns then
      fill columns (line ++ word) rest
    else if columns < size then
      let cut := pieces columns word
      (if line.isEmpty then [] else [line]) ++ cut.dropLast ++
        fill columns (cut.getLast?.getD []) rest
    else
      line :: fill columns word rest

/-- A line without the blanks at its end that do not fit. -/
def crop (columns : Nat) (line : Text) : Text :=
  line.take (max columns (Text.trimEnd line).length)

/-- A text as lines of at most so many columns, for text of which every
character takes one. -/
def wrap (columns : Nat) (text : Text) : List Text :=
  (fill columns [] (words text)).map (crop columns)

/-- Lines of which the first `count` characters are emphasised. -/
def emphasise (start : Text) (count : Nat) : List Text → List Text
  | [] => []
  | line :: rest =>
    let part := line.take count
    (if part.isEmpty then line
      else start ++ part ++ "\x1b[0m".toList ++ line.drop count) ::
      emphasise start (count - line.length) rest

/-- A label and words as they are displayed. -/
def alert (screen : Screen) (label text : Text) : Text :=
  if screen.isVisible then
    let lines := wrap screen.columns (label ++ ' ' :: text)
    let shown :=
      match screen.emphasis with
      | some start => emphasise start label.length lines
      | none => lines
    Text.joinWith ['\n'] shown ++ ['\n']
  else
    []

/-- Nothing but blanks is lost at the end of a line. -/
theorem crop_prefix (columns : Nat) (line : Text) :
    ∃ lost, line = crop columns line ++ lost :=
  ⟨line.drop (max columns (Text.trimEnd line).length),
    (List.take_append_drop _ _).symm⟩

example : wrap 10 "Error: cd: HOME not set".toList =
    ["Error: cd:".toList, "HOME not ".toList, "set".toList] := by decide +kernel

example : wrap 3 "ab: longer x".toList =
    ["ab:".toList, "lon".toList, "ger".toList, " x".toList] := by decide +kernel

end Screen

end LineShell
