import LineShell.Volume.Writing

/-!
The header of a script: the first line of a file, which names the interpreter
after `#!` and may have one option for it.

The system looks at the first 256 bytes of the file only.  In a line that ends
among them gaps at the end do not count.  In a longer line the name has to end
among them, and the option is cut.  A file that ends before is as good as one
with NUL behind its end, and NUL ends a name and an option.
-/
namespace LineShell.Script

/-- An interpreter, and what is said to it before the name of the script. -/
structure Header where
  interpreter : Text
  options : List Text
  deriving DecidableEq, Repr

namespace Header

def limit : Nat := 254

def isGap (c : Char) : Bool := c = ' ' || c = '\t'

def endsName (c : Char) : Bool := isGap c || c = '\x00'

/-- The header in a line without the two characters at the start. -/
def ofLine (line : Text) : Header :=
  let start := line.dropWhile isGap
  let name := start.takeWhile fun c => !endsName c
  match start.drop name.length with
  | [] => ⟨name, []⟩
  | c :: rest =>
    if isGap c then ⟨name, [(rest.dropWhile isGap).takeWhile (· ≠ '\x00')]⟩
    else ⟨name, []⟩

def ofContent? (content : Text) : Option Header :=
  match content with
  | '#' :: '!' :: rest =>
    let seen := Text.takeBytes limit rest
    if seen.contains '\n' then
      let line := Text.dropAround isGap (seen.takeWhile (· ≠ '\n'))
      if line.isEmpty then none else some (ofLine line)
    else if Text.byteCount rest < limit then
      some (ofLine (rest ++ ['\x00']))
    else if (seen.dropWhile isGap).any endsName then
      some (ofLine (Text.dropEndWhile isGap (Text.takeBytes (limit - 1) rest)))
    else
      none
  | _ => none

example : ofContent? "#! /bin/sh  -e x \n".toList =
    some ⟨"/bin/sh".toList, ["-e x".toList]⟩ := by
  decide +kernel
example : ofContent? "#!/bin/sh".toList = some ⟨"/bin/sh".toList, []⟩ := by
    decide +kernel
example : ofContent? "#! \n".toList = none := by decide +kernel

end Header

end LineShell.Script
