import LineShell.Text

/-!
Expressions of scripts: whole numbers of 64 bits, variables, and operators as in
most languages. An expression is read as a tree; the operators of one level
group to the left, and assignments and choices to the right.  Every text is read
as some tree: what is wrong with it is a part of the tree, as what stands before
a fault has its effect first.
-/
namespace LineShell.Script.Arithmetic

/-- The operators between two values. -/
inductive Operation where
  | times | over | rest | plus | minus | left | right
  | less | atMost | greater | atLeast | equal
  | unequal | bitAnd | bitXor | bitOr
  deriving DecidableEq, Repr

/-- What is wrong with an expression. -/
inductive Fault where
  | noPrimary
  | noEnd
  | noParenthesis
  | noColon
  | zeroDivision
  deriving DecidableEq, Repr

inductive Expr where
  | number (value : Int)
  | name (name : Text)
  | negate (operand : Expr)
  | complement (operand : Expr)
  | isZero (operand : Expr)
  | apply (operation : Operation) (first second : Expr)
  | both (first second : Expr)
  | either (first second : Expr)
  | choice (test yes no : Expr)
  /-- A new value for a variable, which may be made from the old one. -/
  | assign (name : Text) (operation : Option Operation) (value : Expr)
  /-- A fault after an expression. -/
  | faulty (before : Expr) (fault : Fault)
  deriving DecidableEq, Repr

namespace Fault

def words : Fault → Text
  | .noPrimary => "expecting primary".toList
  | .noEnd => "expecting EOF".toList
  | .noParenthesis => "expecting ')'".toList
  | .noColon => "expecting ':'".toList
  | .zeroDivision => "division by zero".toList

end Fault

def natural? (text : Text) : Option Nat :=
  if text.isEmpty || !text.all Char.isDigit then none
  else some (text.foldl (fun n c => 10 * n + (c.toNat - '0'.toNat)) 0)

/-- How many numbers of 64 bits there are. -/
def modulus : Nat := 0x10000000000000000

/-- A number of 64 bits with a sign. -/
def wrap (value : Int) : Int := Int.bmod value modulus

def ofBool (truth : Bool) : Int := if truth then 1 else 0

def bits (value : Int) : Nat := (value % (modulus : Int)).toNat

def Operation.value (a b : Int) : Operation → Except Fault Int
  | .times => .ok (wrap (a * b))
  | .over => if b = 0 then .error .zeroDivision else .ok (wrap (Int.tdiv a b))
  | .rest => if b = 0 then .error .zeroDivision else .ok (wrap (Int.tmod a b))
  | .plus => .ok (wrap (a + b))
  | .minus => .ok (wrap (a - b))
  | .left => .ok (wrap (a * (Nat.pow 2 (bits b % 64) : Nat)))
  | .right => .ok (a / (Nat.pow 2 (bits b % 64) : Nat))
  | .less => .ok (ofBool (a < b))
  | .atMost => .ok (ofBool (a ≤ b))
  | .greater => .ok (ofBool (b < a))
  | .atLeast => .ok (ofBool (b ≤ a))
  | .equal => .ok (ofBool (a = b))
  | .unequal => .ok (ofBool (a ≠ b))
  | .bitAnd => .ok (wrap (Nat.land (bits a) (bits b)))
  | .bitXor => .ok (wrap (Nat.xor (bits a) (bits b)))
  | .bitOr => .ok (wrap (Nat.lor (bits a) (bits b)))

/-- The value of a hexadecimal digit. -/
def digit? (c : Char) : Option Nat :=
  if c.isDigit then some (c.toNat - '0'.toNat)
  else if 'a' ≤ c && c ≤ 'f' then some (c.toNat - 'a'.toNat + 10)
  else if 'A' ≤ c && c ≤ 'F' then some (c.toNat - 'A'.toNat + 10)
  else none

/-- The digits of a base at the start of a text, as a number, and how many there
are. -/
def digits (base : Nat) (text : Text) : Nat × Nat :=
  let found := text.takeWhile fun c => (digit? c).any (· < base)
  (found.foldl (fun value c => value * base + (digit? c).getD 0) 0,
    found.length)

/-- The natural number at the start of a text and its length: after `0x` in base
16, after `0` in base 8, else in base 10; without a base of its own, `base`
counts. -/
def natural (base : Nat) (text : Text) : Nat × Nat :=
  match text with
  | '0' :: x :: rest =>
    let (value, count) := digits 16 rest
    if base = 0 && (x = 'x' || x = 'X') && count ≠ 0 then (value, count + 2)
    else digits (if base = 0 then 8 else base) text
  | _ => digits (if base = 0 then 10 else base) text

/-- The white space that can stand before a number. -/
def isGap (c : Char) : Bool := " \t\n\x0b\x0c\x0d".toList.contains c

/-- The number at the start of a text after white space and a sign, what follows
it, and whether there is one. -/
def numeral (base : Nat) (text : Text) : Int × Text × Bool :=
  let start := text.dropWhile isGap
  let (negative, unsigned) :=
    match start with
    | '-' :: rest => (true, rest)
    | '+' :: rest => (false, rest)
    | _ => (false, start)
  let (value, count) := natural base unsigned
  if count = 0 then (0, text, false)
  else (if negative then -(value : Int) else value, unsigned.drop count, true)

def least : Int := -0x8000000000000000

def greatest : Int := 0x7fffffffffffffff

/-- Whether a number has 64 bits with its sign. -/
def isShort (value : Int) : Bool := least ≤ value && value ≤ greatest

def clamp (value : Int) : Int := max least (min value greatest)

/-- The number that a whole text is; nothing at all is zero in a base that is
open. -/
def whole? (base : Nat) (text : Text) : Option Int :=
  let (value, rest, found) := numeral base text
  if isShort value && (found || base = 0) && rest.all isGap then some value
  else none

/-- A lexeme of an expression. -/
inductive Mark where
  | number (value : Int)
  | name (name : Text)
  | sign (text : String)
  | bad
  deriving DecidableEq, Repr

def signs : List String :=
  ["<<=", ">>=", "<<", ">>", "<=", ">=", "==", "!=", "&&", "||", "+=", "-=",
   "*=", "/=", "%=", "&=", "^=", "|=", "<", ">", "=", "!", "&", "|", "^", "+",
   "-", "*", "/", "%", "~", "(", ")", "?", ":"]

def scan : Nat → Text → List Mark
  | 0, _ => []
  | _, [] => []
  | fuel + 1, c :: rest =>
    let text := c :: rest
    if isGap c then
      scan fuel rest
    else if c.isDigit then
      let (value, count) := natural 0 text
      .number (clamp value) :: scan fuel (text.drop count)
    else if c.isAlpha || c = '_' then
      let name := text.takeWhile fun c => c.isAlphanum || c = '_'
      .name name :: scan fuel (text.drop name.length)
    else
      match signs.find? fun sign => sign.toList.isPrefixOf text with
      | some sign => .sign sign :: scan fuel (text.drop sign.length)
      | none => [.bad]

/-- The operations by level, from those that bind least. -/
def levels : List (List (String × Operation)) :=
  [[("|", .bitOr)], [("^", .bitXor)], [("&", .bitAnd)],
   [("==", .equal), ("!=", .unequal)], [("<", .less), ("<=", .atMost),
   (">", .greater), (">=", .atLeast)], [("<<", .left), (">>", .right)],
   [("+", .plus), ("-", .minus)], [("*", .times), ("/", .over), ("%", .rest)]]

def assignments : List (String × Option Operation) :=
  [("=", none), ("+=", some .plus), ("-=", some .minus), ("*=", some .times),
   ("/=", some .over), ("%=", some .rest), ("&=", some .bitAnd), ("^=", some
   .bitXor), ("|=", some .bitOr), ("<<=", some .left), (">>=", some .right)]

/-- What reads an expression at the start of lexemes; nothing is left after a
fault. -/
abbrev Reader := List Mark → Expr × List Mark

/-- A fault where an expression should be. -/
def missing : Expr × List Mark := (.faulty (.number 0) .noPrimary, [])

/-- Operands with operations of one level between them. -/
def operands (operations : List (String × Operation)) (operand : Reader) :
    Nat → Expr → Reader
  | 0, first, marks => (first, marks)
  | fuel + 1, first, marks =>
    match marks with
    | .sign sign :: rest =>
      match operations.lookup sign with
      | some operation =>
        let (second, after) := operand rest
        operands operations operand fuel (.apply operation first second) after
      | none => (first, marks)
    | _ => (first, marks)

/-- Expressions of the levels that are left. -/
def binary (primary : Reader) : List (List (String × Operation)) → Reader
  | [], marks => primary marks
  | operations :: higher, marks =>
    let (first, rest) := binary primary higher marks
    operands operations (binary primary higher) rest.length first rest

/-- Expressions joined by a sign, grouped to the right. -/
def joined (sign : String) (make : Expr → Expr → Expr) (operand : Reader) :
    Nat → Reader
  | 0, marks => operand marks
  | fuel + 1, marks =>
    let (first, rest) := operand marks
    match rest with
    | .sign found :: others =>
      if found = sign then
        let (second, after) := joined sign make operand fuel others
        (make first second, after)
      else
        (first, rest)
    | _ => (first, rest)

/-- A value without operators beside it, where `whole` reads what is between
parentheses. -/
def primary (whole : Reader) : Nat → Reader
  | 0, _ => missing
  | fuel + 1, marks =>
    let after (make : Expr → Expr) (rest : List Mark) : Expr × List Mark :=
      let (expr, left) := primary whole fuel rest
      (make expr, left)
    match marks with
    | .number value :: rest => (.number value, rest)
    | .name name :: rest => (.name name, rest)
    | .sign "(" :: rest =>
      match whole rest with
      | (expr, .sign ")" :: left) => (expr, left)
      | (expr, _) => (.faulty expr .noParenthesis, [])
    | .sign "+" :: rest => after id rest
    | .sign "-" :: rest => after .negate rest
    | .sign "~" :: rest => after .complement rest
    | .sign "!" :: rest => after .isZero rest
    | _ => missing

/-- A choice, or an expression without one, where `whole` reads the parts. -/
def choice (whole : Reader) : Nat → Reader
  | 0, _ => missing
  | fuel + 1, marks =>
    let simple := joined "&&" .both
      (binary (primary whole (marks.length + 1)) levels) marks.length
    let (test, rest) := joined "||" .either simple marks.length marks
    match rest with
    | .sign "?" :: others =>
      match whole others with
      | (yes, .sign ":" :: after) =>
        let (no, left) := choice whole fuel after
        (.choice test yes no, left)
      | (yes, _) => (.choice test yes (.faulty (.number 0) .noColon), [])
    | _ => (test, rest)

def expression : Nat → Reader
  | 0, _ => missing
  | depth + 1, marks =>
    let other := choice (expression depth) (marks.length + 1) marks
    match marks with
    | .name name :: .sign sign :: rest =>
      match assignments.lookup sign with
      | some operation =>
        let (value, after) := expression depth rest
        (.assign name operation value, after)
      | none => other
    | _ => other

def read (text : Text) : Expr :=
  let marks := scan text.length text
  match expression (marks.length + 1) marks with
  | (expr, []) => expr
  | (expr, _ :: _) => .faulty expr .noEnd

def Expr.fault? : Expr → Option Fault
  | .number _ | .name _ => none
  | .negate operand | .complement operand | .isZero operand => operand.fault?
  | .apply _ first second | .both first second | .either first second =>
    first.fault? <|> second.fault?
  | .choice test yes no => test.fault? <|> yes.fault? <|> no.fault?
  | .assign _ _ value => value.fault?
  | .faulty before fault => before.fault? <|> some fault

example : read "1+2*x-3".toList =
    .apply .minus
      (.apply .plus (.number 1) (.apply .times (.number 2) (.name ['x'])))
      (.number 3) := rfl

example : read "a = b ? 0x1f : 010".toList =
    .assign ['a'] none (.choice (.name ['b']) (.number 31) (.number 8)) := rfl

example : read "08".toList = .faulty (.number 0) .noEnd := rfl

example : (read "(1+)".toList).fault? = some .noPrimary := rfl

end LineShell.Script.Arithmetic
