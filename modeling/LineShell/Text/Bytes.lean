import LineShell.Text

/-!
Text as bytes: every character is replaced by the bytes of its UTF-8 form, each
of which is written as the character with the number of the byte.

Bytes need not be the form of any text.  A byte that belongs to no character is
read as a character that stands for it alone, so that nothing is lost (`decode`
and then `encode` give the bytes back).
-/
namespace LineShell.Text.Bytes

/-- The code point of the character that stands for the byte zero alone. -/
def strayBase : Nat := 0x10F700

/-- The byte for which a character stands alone, if it does. -/
def stray? (c : Char) : Option Nat :=
  if strayBase + 0x80 ≤ c.toNat ∧ c.toNat < strayBase + 0x100 then
    some (c.toNat - strayBase)
  else none

def encodeChar (c : Char) : Text :=
  let code := c.toNat
  let tail (shift : Nat) : Char :=
    Char.ofNat (0x80 + code / Nat.pow 2 shift % 0x40)
  match stray? c with
  | some byte => [Char.ofNat byte]
  | none =>
    if code < 0x80 then [c]
    else if code < 0x800 then [Char.ofNat (0xC0 + code / 0x40), tail 0]
    else if code < 0x10000 then
      [Char.ofNat (0xE0 + code / 0x1000), tail 6, tail 0]
    else [Char.ofNat (0xF0 + code / 0x40000), tail 12, tail 6, tail 0]

def encode (text : Text) : Text := text.flatMap encodeChar

/-- The number of bytes that follow the first byte of a character, and the least
and the greatest value that the next of them can have. -/
def following? (byte : Nat) : Option (Nat × Nat × Nat) :=
  if byte < 0x80 then some (0, 0x80, 0xBF)
  else if 0xC2 ≤ byte ∧ byte ≤ 0xDF then some (1, 0x80, 0xBF)
  else if byte = 0xE0 then some (2, 0xA0, 0xBF)
  else if byte = 0xED then some (2, 0x80, 0x9F)
  else if 0xE1 ≤ byte ∧ byte ≤ 0xEF then some (2, 0x80, 0xBF)
  else if byte = 0xF0 then some (3, 0x90, 0xBF)
  else if byte = 0xF4 then some (3, 0x80, 0x8F)
  else if 0xF1 ≤ byte ∧ byte ≤ 0xF3 then some (3, 0x80, 0xBF)
  else none

/-- The character at the start of a list of bytes, and how many bytes it has. -/
def first? (bytes : Text) : Option (Char × Nat) :=
  match bytes with
  | [] => none
  | lead :: rest =>
    match following? lead.toNat with
    | none => none
    | some (count, low, high) =>
      let tail := rest.take count
      let fits := tail.length = count &&
        tail.all (fun c => 0x80 ≤ c.toNat && c.toNat ≤ 0xBF) &&
        tail.head?.all fun c => low ≤ c.toNat && c.toNat ≤ high
      let start :=
        if count = 0 then lead.toNat else lead.toNat % Nat.pow 2 (6 - count)
      if fits then
        some (Char.ofNat (tail.foldl (fun code c =>
          code * 0x40 + c.toNat % 0x40) start), count + 1)
      else
        none

/-- Reads bytes; `skip` of them belong to the character before. -/
def decodeFrom (skip : Nat) : Text → Text
  | [] => []
  | byte :: rest =>
    match skip with
    | skip + 1 => decodeFrom skip rest
    | 0 =>
      match first? (byte :: rest) with
      | some (c, size) => c :: decodeFrom (size - 1) rest
      | none => Char.ofNat (strayBase + byte.toNat) :: decodeFrom 0 rest

/-- The text that bytes are the form of. -/
def decode (bytes : Text) : Text := decodeFrom 0 bytes

example : encode "é€😀".toList =
    "\xc3\xa9\xe2\x82\xac\xf0\x9f\x98\x80".toList := by decide +kernel

example : decode (encode "aé€😀z".toList) = "aé€😀z".toList := by decide +kernel

example : encode (decode "\xc3(\xff\xa9".toList) = "\xc3(\xff\xa9".toList := by
    decide +kernel

end LineShell.Text.Bytes
