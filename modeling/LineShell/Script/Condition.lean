import LineShell.Script.Arithmetic
import LineShell.Text.Bytes
import LineShell.Volume.Writing

/-!
Conditions: words that say something about texts, numbers and files, which holds
or does not.  A word that looks like an operator is one only if something
follows that it can be applied to.

All parts of a condition are looked at, even where its truth is already clear.
-/
namespace LineShell.Script.Condition

inductive Fault where
  | badNumber (text : Text)
  | noArgument (operator : Text)
  | unexpected (word : Text)
  | noParenthesis
  | noBracket
  deriving DecidableEq, Repr

namespace Fault

def words : Fault → Text
  | .badNumber text => "Illegal number: ".toList ++ text
  | .noArgument operator => operator ++ ": argument expected".toList
  | .unexpected word =>
    if word.isEmpty then "unexpected operator".toList
    else word ++ ": unexpected operator".toList
  | .noParenthesis => "closing paren expected".toList
  | .noBracket => "missing ]".toList

end Fault

inductive Role where
  /-- There is no word. -/
  | final
  | operand
  | unary
  | binary
  | negation
  | both
  | either
  | opening
  | closing
  deriving DecidableEq, Repr

def unaryOperators : List String :=
  ["-r", "-w", "-x", "-e", "-f", "-d", "-c", "-b", "-p", "-u", "-g", "-k", "-s",
   "-t", "-z", "-n", "-h", "-O", "-G", "-L", "-S"]

def binaryOperators : List String :=
  ["=", "!=", "<", ">", "-eq", "-ne", "-ge", "-gt", "-le", "-lt", "-nt", "-ot",
    "-ef"]

def roleOf (word : Text) : Role :=
  let text := String.ofList word
  if unaryOperators.contains text then .unary
  else if binaryOperators.contains text then .binary
  else
    match text with
    | "!" => .negation
    | "-a" => .both
    | "-o" => .either
    | "(" => .opening
    | ")" => .closing
    | _ => .operand

def role : List Text → Role
  | [] => .final
  | [word] =>
    match roleOf word with
    | .unary => .operand
    | .opening => .operand
    | other => other
  | word :: next :: rest =>
    match roleOf word with
    | .unary => if !rest.isEmpty && roleOf next = .binary then .operand
        else .unary
    | other => other

def number (word : Text) : Except Fault Int :=
  match Arithmetic.whole? 10 word with
  | some value => .ok value
  | none => .error (.badNumber word)

def node? (machine : Machine) (path : Text) : Option (Location × Node) :=
  (machine.examineText (Text.Bytes.decode path)).toOption

def isLink (machine : Machine) (path : Text) : Bool :=
  match machine.locateText .entry (Text.Bytes.decode path) with
  | .ok (.occupied location) =>
    (machine.volume.find? location).any fun node =>
      match node with
      | .link _ => true
      | _ => false
  | _ => false

/-- Whether something is true of an operand.  No descriptor is that of a
terminal. -/
def holdsOf (machine : Machine) (operator operand : Text) : Except Fault Bool :=
  let node := (node? machine operand).map Prod.snd
  match String.ofList operator with
  | "-z" => .ok operand.isEmpty
  | "-n" => .ok !operand.isEmpty
  | "-h" => .ok (isLink machine operand)
  | "-L" => .ok (isLink machine operand)
  | "-d" => .ok (node = some .directory)
  | "-f" => .ok (node.any Node.isFile)
  | "-c" => .ok (node = some .sink)
  | "-x" => .ok (node.any fun found => found = .directory || found.isExecutable)
  | "-s" =>
    .ok (node.any fun found =>
      match found with
      | .file content _ => !content.isEmpty
      | .sink => false
      | _ => true)
  | "-e" => .ok node.isSome
  | "-r" => .ok node.isSome
  | "-w" => .ok node.isSome
  | "-O" => .ok node.isSome
  | "-G" => .ok node.isSome
  | "-t" => (number operand).map fun _ => false
  | _ => .ok false

def holdsBetween (machine : Machine) (operator first second : Text) :
    Except Fault Bool :=
  let numbers (holds : Int → Int → Bool) : Except Fault Bool := do
    return holds (← number first) (← number second)
  let place (path : Text) : Option Location := (node? machine path).map Prod.fst
  let newer (path other : Text) : Bool :=
    ((place path).bind fun found =>
      (place other).map (machine.volume.isNewer found)).getD false
  match String.ofList operator with
  | "=" => .ok (first = second)
  | "!=" => .ok (first ≠ second)
  | "<" => .ok (first < second)
  | ">" => .ok (second < first)
  | "-eq" => numbers fun a b => a = b
  | "-ne" => numbers fun a b => a ≠ b
  | "-ge" => numbers fun a b => b ≤ a
  | "-gt" => numbers fun a b => b < a
  | "-le" => numbers fun a b => a ≤ b
  | "-lt" => numbers fun a b => a < b
  | "-ef" => .ok ((place first).isSome && place first = place second)
  | "-nt" => .ok (newer first second)
  | "-ot" => .ok (newer second first)
  | _ => .ok false

/-- The truth of what words say up to some word, and the words from that one
on. -/
abbrev Found := Except Fault (Bool × List Text)

/-- A condition without operators that join conditions, where `whole` finds what
is between parentheses. -/
def primary (machine : Machine) (whole : Role → List Text → Found)
    (role' : Role) (words : List Text) : Found :=
  match role', words with
  | .final, _ => .ok (false, words)
  | _, [] => .ok (false, words)
  | .opening, _ :: rest =>
    if role rest = .closing then
      .ok (false, rest)
    else do
      let (truth, left) ← whole (role rest) rest
      if role left.tail = .closing then
        return (truth, left.tail) else throw .noParenthesis
  | .unary, operator :: rest =>
    match rest with
    | [] => .error (.noArgument operator)
    | operand :: _ => do return (← holdsOf machine operator operand, rest)
  | _, first :: rest =>
    match role rest, rest with
    | .binary, operator :: after =>
      match after with
      | [] => .error (.noArgument operator)
      | second :: _ =>
          do return (← holdsBetween machine operator first second, after)
    | _, _ => .ok (!first.isEmpty, words)

def unit (machine : Machine) (whole : Role → List Text → Found) :
    Nat → Role → List Text → Found
  | 0, _, words => .ok (false, words)
  | fuel + 1, role', words =>
    if role' = .negation then do
      let next := role words.tail
      let (truth, left) ←
        unit machine whole fuel next (if next = .final then words
          else words.tail)
      return (!truth, left)
    else
      primary machine whole role' words

/-- Conditions joined by an operator; `join` says what they make together. -/
def joined (operator : Role) (join : Bool → Bool → Bool)
    (part : Role → List Text → Found) :
    Nat → Role → List Text → Found
  | 0, _, words => .ok (false, words)
  | fuel + 1, role', words => do
    let (truth, left) ← part role' words
    if role left.tail = operator then
      let after := left.drop 2
      let (others, last) ← joined operator join part fuel (role after) after
      return (join truth others, last)
    else
      return (truth, left)

/-- A whole condition with parentheses nested at most so deep. -/
def whole (machine : Machine) : Nat → Role → List Text → Found
  | 0, _, words => .ok (false, words)
  | depth + 1, role', words =>
    let count := words.length + 1
    joined .either or
      (joined .both and (unit machine (whole machine depth) count) count) count
        role' words

def truth (machine : Machine) (role' : Role) (words : List Text) :
    Except Fault Bool := do
  match ← whole machine (words.length + 1) role' words with
  | (_, last :: _ :: _) => throw (.unexpected last)
  | (found, _) => return found

/-- Whether a condition holds.  With three or four words their number tells how
they are meant. -/
def check (machine : Machine) (negated : Bool) : List Text → Except Fault Bool
  | [] => .ok negated
  | first :: rest =>
    let found (role' : Role) (words : List Text) : Except Fault Bool := do
      return (← truth machine role' words) != negated
    let counted := rest.length = 2 || rest.length = 3
    if rest.length = 2 && (rest.head?.map roleOf) = some .binary then
      found .operand (first :: rest)
    else if counted && first = ['('] && rest.getLast? = some [')'] then
      found (role rest.dropLast) rest.dropLast
    else if counted && first = ['!'] then
      check machine true rest
    else
      found (role (first :: rest)) (first :: rest)

/-- Whether the condition between brackets holds, where the first one is left
out.  Any last word that begins with a bracket closes it. -/
def checkBracketed (machine : Machine) (words : List Text) :
    Except Fault Bool :=
  if (words.getLast?.bind List.head?) = some ']' then
    check machine false words.dropLast
  else .error .noBracket

end LineShell.Script.Condition
