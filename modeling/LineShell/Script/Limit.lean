import LineShell.Text

/-!
Limits on what programs may use.  A limit holds until a script moves it, up to a
highest one that can only be lowered; nothing stands for no limit at all.
Limits are counted in units, and what a script is told or tells is a number of
these.
-/
namespace LineShell.Script

structure Limit where
  letter : Char
  label : String
  /-- The size of the unit. -/
  unit : Nat
  current : Option Nat
  highest : Option Nat
  deriving DecidableEq, Repr

namespace Limit

def usual : List Limit :=
  [⟨'t', "time(seconds)", 1, none, none⟩,
   ⟨'f', "file(blocks)", 512, none, none⟩,
   ⟨'d', "data(kbytes)", 1024, none, none⟩,
   ⟨'s', "stack(kbytes)", 1024, some 8388608, none⟩,
   ⟨'c', "coredump(blocks)", 512, some 0, none⟩,
   ⟨'m', "memory(kbytes)", 1024, none, none⟩,
   ⟨'l', "locked memory(kbytes)", 1024, some 8388608, some 8388608⟩,
   ⟨'p', "process", 1, some 128604, some 128604⟩,
   ⟨'n', "nofiles", 1, some 20000, some 20000⟩,
   ⟨'v', "vmemory(kbytes)", 1024, none, none⟩,
   ⟨'w', "locks", 1, none, none⟩,
   ⟨'r', "rtprio", 1, some 0, some 0⟩]

def letters : Text := usual.map Limit.letter

def range : Nat := 0x10000000000000000

/-- A number of bytes, which is none at all if it is the greatest that fits a
register. -/
def ofNumber (number : Nat) : Option Nat :=
  if number + 1 = range then none else some number

/-- The limit that a text asks for, counted in units; too much of it begins at
nothing again. -/
def ofText? (unit : Nat) (text : Text) : Option (Option Nat) :=
  if text = "unlimited".toList then some none
  else if text.all Char.isDigit then
    let number :=
      text.foldl (fun sum c => (sum * 10 + (c.toNat - '0'.toNat)) % range) 0
    some (ofNumber (number * unit % range))
  else none

def text (unit : Nat) : Option Nat → Text
  | none => "unlimited".toList
  | some number => Nat.toDigits 10 (number / unit)

def exceeds : Option Nat → Option Nat → Bool
  | _, none => false
  | none, some _ => true
  | some first, some second => second < first

/-- A limit with another value in force, another highest one, or both; or why
that is refused. -/
def change (limit : Limit) (current highest : Bool) (value : Option Nat) :
    Except Text Limit :=
  let changed : Limit :=
    { limit with
      current := if current then value else limit.current
      highest := if highest then value else limit.highest }
  if exceeds changed.current changed.highest then
    .error "Invalid argument".toList
  else if exceeds changed.highest limit.highest then
    .error "Operation not permitted".toList
  else .ok changed

example : ofText? 512 "3".toList = some (some 1536) := by decide +kernel

example : ofText? 1024 "18014398509481985".toList = some (some 1024) := by
    decide +kernel

end Limit

end LineShell.Script
