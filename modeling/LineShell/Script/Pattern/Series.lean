import LineShell.Script.Pattern

/-!
Trimming texts that stay apart.  They are trimmed as one series of characters
with a NUL after each text but the last, so that what is cut off reaches over
the texts beyond the match.

A character with a meaning in patterns is recorded with a sign before it.
Places are counted without signs from the end of the series, but what is
compared at a place is found by counting in a record: the series with its signs,
or, if there are signs in the first text, that text without them below
everything that was recorded before it.
-/
namespace LineShell.Script.Pattern

/-- The character that ends a text in a series. -/
def Series.stop : Char := '\x00'

/-- The sign before a character with a meaning in patterns. -/
def Series.sign : Char := '\x81'

namespace Series

def isSigned (quoted : Bool) (c : Char) : Bool :=
  ('\x81' ≤ c && c ≤ '\x88') || (quoted && "\\!*?[=~:/-]".toList.contains c)

def signed (quoted : Bool) (text : Text) : Text :=
  text.flatMap fun c => if isSigned quoted c then [sign, c] else [c]

/-- A pattern as it is written, with a backslash before a letter without its
usual meaning. -/
def written (pattern : List Letter) : Text :=
  pattern.flatMap fun letter =>
    if letter.literal && isSigned true letter.char then ['\\', letter.char]
    else [letter.char]

def first (series : Text) : Text := series.takeWhile (· ≠ stop)

/-- Whether a text fits a pattern as it is written. -/
def fitsWritten (pattern text : Text) : Bool := fits (ofText false pattern) text

/-- Whether a pattern matches from a place in a record on, or up to it.  `above`
counts what was recorded before the text in which matches up to a place are
looked for; a place within the pattern cuts the pattern off. -/
def matchesAt (atEnd : Bool) (pattern record : Text) (above place : Nat) :
    Bool :=
  let start := above - (pattern.length + 1)
  if atEnd then fitsWritten pattern (first (record.drop place))
  else if above ≤ place then
    fitsWritten pattern (first ((record.take place).drop above))
  else if start ≤ place then
    fitsWritten (pattern.take (place - start)) (record.drop above)
  else fitsWritten pattern (record.drop above)

end Series

/-- Where the series of several texts is cut for the shortest or the longest
match of a pattern at one end. -/
def Series.place? (quoted atEnd longest : Bool) (pattern : List Letter)
    (series : Text) : Option Nat :=
  let first := Series.first series
  let rule := Series.written pattern
  if atEnd = longest then
    (List.range (first.length + 1)).find? fun place =>
      Series.fitsWritten rule (if atEnd then first.drop place
        else first.take place)
  else
    let shown := Series.signed quoted series
    let copied := first.any (Series.isSigned quoted)
    let before :=
      if copied then shown ++ Series.stop :: rule ++ [Series.stop] else []
    let record := before ++ if copied then first else shown
    (List.range (series.length + 1)).reverse.find? fun place =>
      Series.matchesAt atEnd rule record before.length
        (record.length + place - series.length)

/-- What is left of texts that stay apart without the shortest or the longest
match of a pattern at one end of their series. -/
def trimSeries (quoted atEnd longest : Bool) (pattern : List Letter)
    (texts : List Text) : List Text :=
  match texts with
  | [] => []
  | [text] => [trim atEnd longest pattern text]
  | _ =>
    let series := Text.joinWith [Series.stop] texts
    match Series.place? quoted atEnd longest pattern series with
    | none => texts
    | some place =>
      Text.splitOn Series.stop (if atEnd then series.take place
        else series.drop place)

end LineShell.Script.Pattern
