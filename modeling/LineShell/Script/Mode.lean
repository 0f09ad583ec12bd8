import LineShell.Text

/-!
Permissions: nine bits that tell what the owner, the group and all others may do
with a file, and the written changes of them, such as `u=rwx,go-w`.  A copy of
permissions and an `X` look at what was granted before the first change.
-/
namespace LineShell.Script.Mode

def all : Nat := 0o777

/-- The permissions of the users that a letter names. -/
def users? : Char → Option Nat
  | 'u' => some 0o700
  | 'g' => some 0o070
  | 'o' => some 0o007
  | 'a' => some all
  | _ => none

/-- What a letter grants to every user, where some permissions were granted
before. -/
def granted? (before : Nat) : Char → Option Nat
  | 'r' => some 0o444
  | 'w' => some 0o222
  | 'x' => some 0o111
  | 'X' => some (if Nat.land before 0o111 = 0 then 0 else 0o111)
  | 's' => some 0
  | 'u' => some (before / 0o100 % 8 * 0o111)
  | 'g' => some (before / 0o010 % 8 * 0o111)
  | 'o' => some (before % 8 * 0o111)
  | _ => none

def without (mode taken : Nat) : Nat := Nat.land mode (all - Nat.land all taken)

def change (sign : Char) (users granted mode : Nat) : Nat :=
  let meant := Nat.land users granted
  if sign = '=' then Nat.lor (without mode users) meant
  else if sign = '+' then Nat.lor mode meant
  else without mode meant

/-- Whether a character says what is to be done with permissions. -/
def isSign (c : Char) : Bool := c = '+' || c = '-' || c = '='

/-- Makes the changes of a text for some users, after a sign and what has been
granted behind it. -/
def changes? (before users : Nat) (sign : Char) (granted mode : Nat) :
    Text → Option Nat
  | [] => some (change sign users granted mode)
  | c :: rest =>
    if isSign c then
      changes? before users c 0 (change sign users granted mode) rest
    else
      (granted? before c).bind fun more =>
        changes? before users sign (Nat.lor granted more) mode rest

/-- Makes the changes between two commas; only at the end there may be none. -/
def clause? (before mode : Nat) (last : Bool) (text : Text) : Option Nat :=
  let named := text.takeWhile fun c => (users? c).isSome
  let users := (named.filterMap users?).foldl Nat.lor 0
  match text.drop named.length with
  | [] => if last then some mode else none
  | c :: rest =>
    if isSign c then changes? before (if named.isEmpty then all
    else users) c 0 mode rest
    else none

def clauses? (before mode : Nat) : List Text → Option Nat
  | [] => some mode
  | text :: rest =>
      do clauses? before (← clause? before mode rest.isEmpty text) rest

/-- The permissions after the changes that a text asks for. -/
def after? (mode : Nat) (text : Text) : Option Nat :=
  clauses? mode mode (Text.splitOn ',' text)

/-- A mask in base eight; it tells what is not granted. -/
def maskText (mask : Nat) : Text :=
  let digits := Nat.toDigits 8 mask
  List.replicate (4 - digits.length) '0' ++ digits

/-- The letters of the permissions that one kind of users has. -/
def letters (bits : Nat) : Text :=
  (if bits / 4 % 2 = 1 then ['r'] else []) ++
    (if bits / 2 % 2 = 1 then ['w'] else []) ++
    if bits % 2 = 1 then ['x'] else []

def text (mode : Nat) : Text :=
  "u=".toList ++ letters (mode / 0o100 % 8) ++ ",g=".toList ++
    letters (mode / 0o010 % 8) ++
    ",o=".toList ++ letters (mode % 8)

example : after? 0o755 "u=g,o-r+w".toList = some 0o553 := by decide +kernel

example : (after? 0o755 "u=rwx,,".toList, after? 0o755 "+t".toList) =
    (none, none) := by
  decide +kernel

example :
    (text 0o751, maskText 0o22) = ("u=rwx,g=rx,o=x".toList, "0022".toList) := by
  decide +kernel

end LineShell.Script.Mode
