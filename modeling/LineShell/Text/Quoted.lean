import LineShell.Text.Printable

/-!
Quoted text, as diagnostics show it: between single quotes, or between double
quotes when the text holds a single quote and no double one.  Backslash and the
enclosing quote are escaped by a backslash, and every character that is not
printable is written as an escape.
-/
namespace LineShell.Text.Quoted

def mark (text : Text) : Char :=
  if text.contains '\'' && !text.contains '"' then '"' else '\''

/-- A code point as exactly `width` hexadecimal digits, if it has no more. -/
def hexadecimal (width : Nat) (code : Nat) : Text :=
  let digits := Nat.toDigits 16 code
  List.replicate (width - digits.length) '0' ++ digits

/-- One character inside quotes of the kind `enclosing`. -/
def escape (enclosing c : Char) : Text :=
  if c = enclosing || c = '\\' then ['\\', c]
  else if c = '\t' then ['\\', 't']
  else if c = '\n' then ['\\', 'n']
  else if c = '\r' then ['\\', 'r']
  else if isPrintable c then [c]
  else if c.toNat < 0x100 then '\\' :: 'x' :: hexadecimal 2 c.toNat
  else if c.toNat < 0x10000 then '\\' :: 'u' :: hexadecimal 4 c.toNat
  else '\\' :: 'U' :: hexadecimal 8 c.toNat

def write (text : Text) : Text :=
  mark text :: text.flatMap (escape (mark text)) ++ [mark text]

/-- Quoted texts between square brackets, parted by a comma and a space. -/
def writeAll (texts : List Text) : Text :=
  '[' :: joinWith ", ".toList (texts.map write) ++ [']']

example : write "it's".toList = "\"it's\"".toList := by decide +kernel
example : writeAll ["a\\b".toList, "\n".toList] =
    "['a\\\\b', '\\n']".toList := by decide +kernel

end LineShell.Text.Quoted
