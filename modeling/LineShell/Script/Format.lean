import LineShell.Script.Real

/-!
Formatted output of scripts: escapes and directives in a format, which is used
again as long as arguments are left.  All text is in bytes.
-/
namespace LineShell.Script.Format

/-- The character that an escape stands for. -/
def escaped? : Char → Option Char
  | 'a' => some '\x07'
  | 'b' => some '\x08'
  | 'e' => some '\x1b'
  | 'f' => some '\x0c'
  | 'n' => some '\n'
  | 'r' => some '\r'
  | 't' => some '\t'
  | 'v' => some '\x0b'
  | '\\' => some '\\'
  | _ => none

def isOctal (c : Char) : Bool := '0' ≤ c && c ≤ '7'

def octal (digits : Text) : Char :=
  Char.ofNat ((Arithmetic.digits 8 digits).1 % 256)

/-- The escape after a backslash in a format: the character and the rest. -/
def formatEscape? (text : Text) : Option (Char × Text) :=
  match (text.take 3).takeWhile isOctal, text with
  | [], c :: rest => (escaped? c).map fun value => (value, rest)
  | [], [] => none
  | digits, _ => some (octal digits, text.drop digits.length)

/-- The escape after a backslash in an argument, where a zero before a number
does not count as a digit. -/
def argumentEscape? (text : Text) : Option (Char × Text) :=
  match text with
  | '0' :: rest =>
    let digits := (rest.take 3).takeWhile isOctal
    some (octal digits, rest.drop digits.length)
  | _ => formatEscape? text

/-- An argument with its escapes replaced, and whether all of it counts: a
backslash with a `c` ends all output. -/
def unescape : Nat → Text → Text × Bool
  | 0, text => (text, true)
  | _, [] => ([], true)
  | _, '\\' :: 'c' :: _ => ([], false)
  | fuel + 1, '\\' :: rest =>
    match argumentEscape? rest with
    | some (value, after) =>
      let (text, whole) := unescape fuel after
      (value :: text, whole)
    | none =>
      let (text, whole) := unescape fuel rest
      ('\\' :: text, whole)
  | fuel + 1, c :: rest =>
    let (text, whole) := unescape fuel rest
    (c :: text, whole)

/-- What is written, the arguments that are left, and complaints about
arguments. -/
structure Progress where
  written : Text
  left : List Text
  complaints : List Text
  deriving DecidableEq, Repr

inductive Stop where
  /-- An argument ended all output. -/
  | cut
  /-- There is no such directive. -/
  | invalid (directive : Text)
  /-- The format ends in the middle of a directive. -/
  | unfinished
  deriving DecidableEq, Repr

abbrev Write := ExceptT Stop (StateM Progress)

def put (text : Text) : Write Unit := modify fun progress =>
  { progress with written := progress.written ++ text }

def next : Write (Option Text) := do
  let progress ← get
  set { progress with left := progress.left.tail }
  return progress.left.head?

/-- Complains about an argument of which a part is no number, or which is out of
range. -/
def complain (argument rest : Text) (found outOfRange : Bool) : Write Unit := do
  let complaint? : Option String :=
    if !rest.isEmpty then
      some (if found then ": not completely converted"
        else ": expected numeric value")
    else if outOfRange then some ": Numerical result out of range"
    else none
  match complaint? with
  | none => return
  | some words => modify fun progress =>
    { progress with
      complaints := progress.complaints ++ [argument ++ words.toList] }

/-- The code of the character after a quote at the start of an argument, if
there is a quote. -/
def quoted? : Text → Option Nat
  | '\'' :: rest => some ((rest.head?.map Char.toNat).getD 0)
  | '"' :: rest => some ((rest.head?.map Char.toNat).getD 0)
  | _ => none

def nextNumber (signed : Bool) : Write Int := do
  match ← next with
  | none => return 0
  | some argument =>
    match quoted? argument with
    | some code => return code
    | none =>
      let (value, rest, found) := Arithmetic.numeral 0 argument
      let fits := if signed then Arithmetic.isShort value
        else value.natAbs < Arithmetic.modulus
      complain argument rest found (!fits)
      return if signed then Arithmetic.clamp value
        else if fits then value % (Arithmetic.modulus : Int)
        else (Arithmetic.modulus : Int) - 1

def nextReal : Write Real := do
  match ← next with
  | none => return .finite false 0 0
  | some argument =>
    match quoted? argument with
    | some code => return (Real.ofQuotient false code 1).1
    | none =>
      match Real.read? argument with
      | some (value, rest, outOfRange) =>
        complain argument rest true outOfRange
        return value
      | none =>
        complain argument argument false false
        return .finite false 0 0

structure Layout where
  atLeft : Bool
  zeros : Bool
  plus : Bool
  space : Bool
  alternate : Bool
  width : Nat
  limit : Option Nat
  deriving DecidableEq, Repr

namespace Layout

/-- The number at the start of a text, or in the next argument for a star, and
the rest. -/
def number (text : Text) : Write (Option Int × Text) := do
  match text with
  | '*' :: rest =>
      return (some (Int.bmod (← nextNumber true) 0x100000000), rest)
  | _ =>
    let digits := text.takeWhile Char.isDigit
    return ((Arithmetic.natural? digits).map Int.ofNat, text.drop digits.length)

def read (text : Text) : Write (Layout × Text) := do
  let flags := text.takeWhile fun c => "-0+ #".toList.contains c
  let (width?, rest) ← number (text.drop flags.length)
  let width := width?.getD 0
  let layout : Layout :=
    ⟨flags.contains '-' || width < 0, flags.contains '0', flags.contains '+',
      flags.contains ' ', flags.contains '#', width.natAbs, none⟩
  match rest with
  | '.' :: after =>
    let (limit?, left) ← number after
    let limit := limit?.getD 0
    let limit? := if limit < 0 then none else some limit.toNat
    return ({ layout with limit := limit? }, left)
  | _ => return (layout, rest)

def pad (layout : Layout) (text : Text) : Text :=
  let spaces := List.replicate (layout.width - text.length) ' '
  if layout.atLeft then text ++ spaces else spaces ++ text

/-- A text, of which no more counts than the limit. -/
def text (layout : Layout) (text : Text) : Text :=
  layout.pad (text.take (layout.limit.getD text.length))

def sign (layout : Layout) (negative : Bool) : Text :=
  if negative then ['-']
  else if layout.plus then ['+']
  else if layout.space then [' ']
  else []

/-- Digits with what stands before them, with zeros up to the width if they are
asked for. -/
def fill (layout : Layout) (zeros : Bool) (front digits : Text) : Text :=
  let count := if zeros && layout.zeros && !layout.atLeft then
      layout.width - front.length - digits.length
    else
      0
  layout.pad (front ++ List.replicate count '0' ++ digits)

/-- A whole number in a base, with zeros up to the width or the limit. -/
def whole (layout : Layout) (base : Nat) (capital : Bool) (front : Text)
    (value : Nat) : Text :=
  let plain :=
    if value = 0 && layout.limit = some 0 then [] else Nat.toDigits base value
  let digits := List.replicate (layout.limit.getD 0 - plain.length) '0' ++ plain
  let marked :=
    if layout.alternate && base = 8 && digits.head? ≠ some '0' then
      '0' :: digits
    else digits
  let mark :=
    if layout.alternate && base = 16 && value ≠ 0 then
      ['0', if capital then 'X' else 'x'] else []
  layout.fill layout.limit.isNone (front ++ mark)
    (if capital then marked.map Char.toUpper else marked)

def real (layout : Layout) (kind : Char) (value : Real) : Text :=
  let digits := value.render kind.toLower layout.alternate layout.limit
  let isFinite :=
    match value with
    | .finite _ _ _ => true
    | _ => false
  let shown := if kind.isUpper then digits.map Char.toUpper else digits
  let marked := if isFinite && kind.toLower = 'a' then 2 else 0
  layout.fill isFinite (layout.sign value.isNegative ++ shown.take marked)
    (shown.drop marked)

end Layout

/-- Writes the value of a directive; `whole` is how the directive is written. -/
def directive (layout : Layout) (kind : Char) (whole : Text) : Write Unit := do
  let unsigned (base : Nat) (capital : Bool) : Write Unit := do
    put (layout.whole base capital [] (← nextNumber false).toNat)
  let signed : Write Unit := do
    let value ← nextNumber true
    put (layout.whole 10 false (layout.sign (value < 0)) value.natAbs)
  match kind with
  | 's' => put (layout.text ((← next).getD []))
  | 'b' =>
    let argument := (← next).getD []
    let (text, all) := unescape argument.length argument
    put (layout.text text)
    if !all then throw .cut
  | 'c' => put (layout.pad [((← next).bind List.head?).getD '\x00'])
  | 'd' => signed
  | 'i' => signed
  | 'u' => unsigned 10 false
  | 'o' => unsigned 8 false
  | 'x' => unsigned 16 false
  | 'X' => unsigned 16 true
  | _ =>
    if "aefgAEFG".toList.contains kind then put (layout.real kind (← nextReal))
    else throw (.invalid whole)

def once : Nat → Text → Write Unit
  | 0, _ => return
  | _, [] => return
  | fuel + 1, '%' :: '%' :: rest => do
    put ['%']
    once fuel rest
  | fuel + 1, '%' :: rest => do
    match ← Layout.read rest with
    | (_, []) => throw .unfinished
    | (layout, kind :: after) =>
      directive layout kind ('%' :: rest.take (rest.length - after.length))
      once fuel after
  | fuel + 1, '\\' :: rest =>
    match formatEscape? rest with
    | some (value, after) => do
      put [value]
      once fuel after
    | none => do
      put ['\\']
      once fuel rest
  | fuel + 1, c :: rest => do
    put [c]
    once fuel rest

/-- Uses of a format while arguments are left, each of which takes at least
one. -/
def more (format : Text) : Nat → Write Unit
  | 0 => return
  | fuel + 1 => do
    let before := (← get).left.length
    once format.length format
    let after := (← get).left.length
    if after ≠ 0 && after < before then more format fuel

/-- What a format with arguments writes, and why it was not used to its end. -/
def write (format : Text) (arguments : List Text) : Progress × Option Stop :=
  match (more format (arguments.length + 1)).run ⟨[], arguments, []⟩ with
  | (.ok (), progress) => (progress, none)
  | (.error stop, progress) => (progress, some stop)

example : (write "%s|".toList ["a".toList, "b c".toList]).1.written =
    "a|b c|".toList := by
  decide +kernel
example : (write "%s|".toList []).1.written = ['|'] := by decide +kernel
example : (write "%03d %-3s.".toList ["7".toList, "b".toList]).1.written =
    "007 b  .".toList := by
  decide +kernel

end LineShell.Script.Format
