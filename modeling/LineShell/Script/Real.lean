import LineShell.Script.Arithmetic

/-!
Numbers with a binary point of 64 bits: the nearest one to a numeral, and how
they are written with a number of digits.  Rounding goes to the nearest number,
and to the even one of two that are equally near.
-/
namespace LineShell.Script

/-- A number with a sign and a binary point. -/
inductive Real where
  /-- The mantissa times a power of two. -/
  | finite (negative : Bool) (mantissa : Nat) (exponent : Int)
  | infinite (negative : Bool)
  | undefined (negative : Bool)
  deriving DecidableEq, Repr

namespace Real

def nearest (num den : Nat) : Nat :=
  let quotient := num / den
  let rest := num % den
  if 2 * rest < den || (2 * rest = den && quotient % 2 = 0) then quotient
  else quotient + 1

/-- A quotient times a power, as a quotient. -/
def scaled (base num den : Nat) (power : Int) : Nat × Nat :=
  if 0 ≤ power then (num * Nat.pow base power.toNat, den)
  else (num, den * Nat.pow base power.natAbs)

/-- The number of mantissas of 53 bits, or of some bits fewer. -/
def mantissas (fewer : Nat) : Nat := Nat.pow 2 (53 - fewer)

/-- The nearest number to a quotient, and whether it is too far from zero or too
near to it. -/
def ofQuotient (negative : Bool) (num den : Nat) : Real × Bool :=
  if num = 0 then
    (.finite negative 0 0, false)
  else
    let low : Int := (Nat.log2 num : Int) - Nat.log2 den - 53
    let (a, b) := scaled 2 num den (-low)
    let exponent := max (if mantissas 0 ≤ a / b then low + 1 else low) (-1074)
    let (num', den') := scaled 2 num den (-exponent)
    let mantissa := nearest num' den'
    if 971 < exponent || (exponent = 971 && mantissas 0 ≤ mantissa) then
      (.infinite negative, true)
    else
      (.finite negative mantissa exponent,
        mantissa < mantissas 1 && num' % den' ≠ 0)

/-- The number at the start of the part of a numeral after its sign, in a base
with digits before and after a point and an exponent after a letter: the digits
as one number, how many stand after the point, the exponent, and the rest. -/
def parts (base : Nat) (letter : Char) (text : Text) :
    Option (Nat × Nat × Int × Text) :=
  let (_, count) := Arithmetic.digits base text
  let (fraction, rest) :=
    match text.drop count with
    | '.' :: after =>
      let (_, more) := Arithmetic.digits base after
      (after.take more, after.drop more)
    | rest => ([], rest)
  let digits := text.take count ++ fraction
  if digits.isEmpty then
    none
  else
    let (exponent, left) :=
      match rest with
      | e :: after =>
        let unsigned := if after.head?.any fun c => c = '+' || c = '-' then
          after.drop 1
        else after
        let (value, used) := Arithmetic.digits 10 unsigned
        if e.toLower = letter && used ≠ 0 then
          (if after.head? = some '-' then -(value : Int)
            else value, unsigned.drop used)
        else
          (0, rest)
      | [] => (0, rest)
    some ((Arithmetic.digits base digits).1, fraction.length, exponent, left)

/-- Whether a text starts with a word, whatever the size of its letters. -/
def startsWith (word : String) (text : Text) : Bool :=
  (text.take word.length).map Char.toLower = word.toList

/-- The number at the start of a text after white space and a sign, what follows
it, and whether it is out of range; none if there is no number. -/
def read? (text : Text) : Option (Real × Text × Bool) :=
  let start := text.dropWhile Arithmetic.isGap
  let negative := start.head? = some '-'
  let unsigned :=
    if negative || start.head? = some '+' then start.drop 1 else start
  if startsWith "infinity" unsigned then
    some (.infinite negative, unsigned.drop 8, false)
  else if startsWith "inf" unsigned then
    some (.infinite negative, unsigned.drop 3, false)
  else if startsWith "nan" unsigned then
    some (.undefined negative, unsigned.drop 3, false)
  else
    let hexadecimal? :=
      if startsWith "0x" unsigned then parts 16 'p' (unsigned.drop 2) else none
    match hexadecimal? with
    | some (digits, places, exponent, rest) =>
      let power := max (-5000) (min 5000 (exponent - 4 * places))
      let (num, den) := scaled 2 digits 1 power
      let (value, range) := ofQuotient negative num den
      some (value, rest, range)
    | none =>
      (parts 10 'e' unsigned).map fun (digits, places, exponent, rest) =>
        let power := max (-2000 - (places : Int)) (min 2000 (exponent - places))
        let (num, den) := scaled 10 digits 1 power
        let (value, range) := ofQuotient negative num den
        (value, rest, range)

def isNegative : Real → Bool
  | .finite negative _ _ => negative
  | .infinite negative => negative
  | .undefined negative => negative

/-- Digits with a point before the last `places` of them. -/
def withPoint (alternate : Bool) (places digits : Nat) : Text :=
  let text := Nat.toDigits 10 digits
  let filled := List.replicate (places + 1 - text.length) '0' ++ text
  let point := if places ≠ 0 || alternate then ['.'] else []
  filled.take (filled.length - places) ++ point ++
    filled.drop (filled.length - places)

/-- More digits than any number with a binary point has; all further ones are
zero. -/
def enough : Nat := 1100

/-- A quotient with so many digits after the point. -/
def fixed (alternate : Bool) (places num den : Nat) : Text :=
  let kept := min places enough
  withPoint alternate kept (nearest (num * Nat.pow 10 kept) den) ++
    List.replicate (places - kept) '0'

/-- The power of ten at the first digit of a quotient, and its digits rounded
after so many more. -/
def leading (places num den : Nat) : Int × Nat :=
  if num = 0 then
    (0, 0)
  else
    let power : Int :=
      if den ≤ num then ((Nat.toDigits 10 (num / den)).length : Int) - 1
      else -(((List.range 400).find? fun k => den ≤ num * Nat.pow 10 k).getD
        400 : Int)
    let (a, b) := scaled 10 num den (places - power)
    let digits := nearest a b
    if digits = Nat.pow 10 (places + 1) then (power + 1, digits / 10)
    else (power, digits)

def exponentText (power : Int) : Text :=
  let digits := Nat.toDigits 10 power.natAbs
  ['e', if power < 0 then '-' else '+'] ++
    List.replicate (2 - digits.length) '0' ++ digits

/-- A quotient with one digit before the point, so many after it, and an
exponent. -/
def scientific (alternate : Bool) (places num den : Nat) : Text :=
  let kept := min places enough
  let (power, digits) := leading kept num den
  withPoint alternate kept digits ++ List.replicate (places - kept) '0' ++
    exponentText power

/-- Digits after a point without zeros at their end. -/
def short (text : Text) : Text :=
  if text.contains '.' then
    Text.dropEndWhile (· = '.') (Text.dropEndWhile (· = '0') text)
  else
    text

/-- A quotient with so many digits, with an exponent only if it is far from
one. -/
def general (alternate : Bool) (count num den : Nat) : Text :=
  let kept := min (max count 1) enough
  let zeros := List.replicate (count - kept) '0'
  let (power, digits) := leading (kept - 1) num den
  if -4 ≤ power && power < kept then
    let text := fixed alternate (kept - 1 - power).toNat num den
    if alternate then text ++ zeros else short text
  else
    let text := withPoint alternate (kept - 1) digits
    (if alternate then text ++ zeros else short text) ++ exponentText power

/-- A mantissa and an exponent in base 16, with so many digits after the point
or as many as there are. -/
def hexadecimal (alternate : Bool) (places : Option Nat) (mantissa : Nat)
    (exponent : Int) : Text :=
  let kept := min (places.getD 13) 13
  let unit := Nat.pow 16 kept
  let rounded := nearest mantissa (Nat.pow 16 (13 - kept))
  let digits := if kept = 0 then [] else Nat.toDigits 16 (rounded % unit)
  let filled := List.replicate (kept - digits.length) '0' ++ digits
  let fraction :=
    match places with
    | none => Text.dropEndWhile (· = '0') filled
    | some count => filled ++ List.replicate (count - 13) '0'
  let power := if mantissa = 0 then 0 else exponent + 52
  ['0', 'x'] ++ Nat.toDigits 16 (rounded / unit) ++
    (if fraction.isEmpty && !alternate then [] else '.' :: fraction) ++
    ['p', if power < 0 then '-' else '+'] ++ Nat.toDigits 10 power.natAbs

/-- A number without its sign as a directive of a format asks for it. -/
def render (kind : Char) (alternate : Bool) (places : Option Nat) : Real → Text
  | .infinite _ => "inf".toList
  | .undefined _ => "nan".toList
  | .finite _ mantissa exponent =>
    let (num, den) := scaled 2 mantissa 1 exponent
    match kind with
    | 'f' => fixed alternate (places.getD 6) num den
    | 'e' => scientific alternate (places.getD 6) num den
    | 'g' => general alternate (places.getD 6) num den
    | _ => hexadecimal alternate places mantissa exponent

example : ((read? "3.14159x".toList).map fun (value, rest, _) =>
    (value.render 'f' false (some 2), rest)) =
      some ("3.14".toList, ['x']) := by decide +kernel

example : ((read? "1e23".toList).map fun (value, _, _) =>
      value.render 'g' false none) =
    some "1e+23".toList := by decide +kernel

example : ((read? "2.5".toList).map fun (value, _, _) =>
      value.render 'f' false (some 0)) =
    some ['2'] := by decide +kernel

end Real

end LineShell.Script
