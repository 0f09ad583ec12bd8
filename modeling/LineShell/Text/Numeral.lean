import LineShell.Text.Blank
import LineShell.Text.Digit
import LineShell.Text.Quoted

/-!
Written integers: blanks at both ends, an optional sign, and decimal digits of
any script in groups parted by single underscores, at most `digitLimit` digits
in all.
-/
namespace LineShell.Text.Numeral

/-- The greatest number of digits that a numeral may have, leading zeros
counted. -/
def digitLimit : Nat := 4300

/-- The characters that may surround a numeral: of the ASCII characters only the
space and the controls from tab to carriage return, of the others every
blank. -/
def surrounds (c : Char) : Bool :=
  if c.toNat < 128 then c = ' ' || inRanges [(0x9, 0xD)] c else isBlank c

/-- The number that a list of digits stands for, the first digit being the
highest. -/
def value (digits : List Nat) : Nat :=
  digits.foldl (fun n digit => 10 * n + digit) 0

/-- A numeral without sign: no group of digits between underscores is empty. -/
def natural? (text : Text) : Option Nat :=
  let groups := splitOn '_' text
  if groups.any List.isEmpty || digitLimit < groups.flatten.length then
    none
  else
    (groups.flatten.mapM digitValue?).map value

inductive Fault where
  /-- One of them is not decimal. -/
  | spelling (text : Text)
  /-- There are too many of them. -/
  | length (count : Nat)
  deriving DecidableEq, Repr

/-- The words of a fault, in which no more than the start of a long text is
quoted. -/
def Fault.message : Fault → Text
  | .spelling text =>
    "invalid literal for int() with base 10: ".toList ++
      (Quoted.write text).take 200
  | .length count =>
    "Exceeds the limit (".toList ++ Nat.toDigits 10 digitLimit ++
      " digits) for integer string conversion: value has ".toList ++
        Nat.toDigits 10 count ++
      " digits; use sys.set_int_max_str_digits() to increase the limit".toList

/-- The number that digits spell.  They are read from the left, so that too many
decimal ones are noticed before one that is not decimal. -/
def ofDigits (text : Text) : Except Fault Nat :=
  let decimal := text.takeWhile fun c => (digitValue? c).isSome
  if digitLimit < decimal.length then .error (.length decimal.length)
  else if decimal.length < text.length then .error (.spelling text)
  else .ok (value (text.filterMap digitValue?))

/-- A numeral with an optional sign directly before its digits. -/
def signed? : Text → Option Int
  | '-' :: rest => (natural? rest).map fun n => -(n : Int)
  | '+' :: rest => (natural? rest).map fun n => (n : Int)
  | text => (natural? text).map fun n => (n : Int)

/-- The integer that a text spells, if it is a numeral. -/
def parse? (text : Text) : Option Int :=
  signed? (dropAround surrounds text)

example : parse? " -1_000 ".toList = some (-1000) := by decide
example : parse? "1__0".toList = none := by decide
example : parse? "- 1".toList = none := by decide
example : parse? "٣".toList = some 3 := by decide
example : ofDigits "3²".toList = .error (.spelling "3²".toList) := rfl

end LineShell.Text.Numeral
