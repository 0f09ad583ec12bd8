import LineShell.Token

/-!
Reading a line as tokens, one character at a time.

Between single quotes every character stands for itself.  Between double quotes
a backslash before one of `"`, `$`, backslash and backtick makes that character
literal and is dropped itself; any other backslash stands for itself.  Outside
quotes a backslash makes the next character literal, a space ends the word in
progress, and the longest redirection operator at hand ends it as well.  A word
is kept if it has at least one character.
-/
namespace LineShell.Token

/-- Where in the line the reader is. -/
inductive LexState where
  /-- Outside quotes. -/
  | bare
  /-- Between single quotes. -/
  | single
  /-- Between double quotes. -/
  | double
  /-- After a backslash outside quotes. -/
  | escaped
  /-- After a backslash between double quotes that makes the next character
  literal. -/
  | doubleEscaped
  /-- Inside an operator that has been read already, with `left` characters
  after the next one. -/
  | skipping (left : Nat)
  deriving DecidableEq, Repr

/-- The reader: its place, the characters of the word in progress with the last
one first, and the finished tokens with the last one first. -/
structure Lexer where
  state : LexState
  word : Text
  tokens : List Token
  deriving DecidableEq, Repr

namespace Lexer

def start : Lexer := ⟨.bare, [], []⟩

/-- Whether a backslash between double quotes makes this character literal. -/
def isEscapable (c : Char) : Bool := "\"$\\`".toList.contains c

def flush (lexer : Lexer) : Lexer :=
  match lexer.word with
  | [] => lexer
  | word =>
    { lexer with
      word := []
      tokens := Token.word word.reverse :: lexer.tokens }

def push (lexer : Lexer) (c : Char) : Lexer :=
  { lexer with word := c :: lexer.word }

/-- Moves the reader to another place. -/
def enter (lexer : Lexer) (state : LexState) : Lexer :=
  { lexer with state := state }

/-- The place after the first character of an operator of the given width. -/
def afterOperator : Nat → LexState
  | 0 => .bare
  | 1 => .bare
  | width + 2 => .skipping width

/-- Ends the word in progress and adds an operator whose first character has
been read. -/
def operator (lexer : Lexer) (operator : Operator) : Lexer :=
  let flushed := lexer.flush
  { flushed with
    state := afterOperator operator.width
    tokens := Token.redirect operator :: flushed.tokens }

/-- Reads a character outside quotes that starts no operator. -/
def bareStep (lexer : Lexer) (c : Char) : Lexer :=
  if c = '\'' then lexer.enter .single
  else if c = '"' then lexer.enter .double
  else if c = '\\' then lexer.enter .escaped
  else if c = ' ' then lexer.flush
  else lexer.push c

/-- Reads the character `c`, before which the reader stands, with `rest` after
it. -/
def step (lexer : Lexer) (c : Char) (rest : Text) : Lexer :=
  match lexer.state with
  | .bare =>
    match Operator.atStart? lexer.word.isEmpty (c :: rest) with
    | some found => lexer.operator found
    | none => lexer.bareStep c
  | .single => if c = '\'' then lexer.enter .bare else lexer.push c
  | .double =>
    if c = '"' then lexer.enter .bare
    else if c = '\\' && rest.head?.any isEscapable then
      lexer.enter .doubleEscaped
    else lexer.push c
  | .escaped => (lexer.push c).enter .bare
  | .doubleEscaped => (lexer.push c).enter .double
  | .skipping 0 => lexer.enter .bare
  | .skipping (left + 1) => lexer.enter (.skipping left)

def run (lexer : Lexer) : Text → Lexer
  | [] => lexer
  | c :: rest => (lexer.step c rest).run rest

/-- The tokens at the end of the line, unless a quote or an escape is still
open. -/
def finish (lexer : Lexer) : Except LineError (List Token) :=
  match lexer.state with
  | .single => .error .openSingleQuote
  | .double => .error .openDoubleQuote
  | .doubleEscaped => .error .openDoubleQuote
  | .escaped => .error .openEscape
  | .bare => .ok lexer.flush.tokens.reverse
  | .skipping _ => .ok lexer.flush.tokens.reverse

@[simp] theorem run_nil (lexer : Lexer) : lexer.run [] = lexer := rfl

@[simp] theorem run_cons (lexer : Lexer) (c : Char) (rest : Text) :
    lexer.run (c :: rest) = (lexer.step c rest).run rest := rfl

@[simp] theorem flush_word (lexer : Lexer) : lexer.flush.word = [] := by
  rcases lexer with ⟨state, _ | ⟨c, word⟩, tokens⟩ <;> rfl

end Lexer

def ofLine (line : Text) : Except LineError (List Token) :=
  (Lexer.start.run line).finish

example : ofLine "echo 'a b' 2>> f".toList =
    .ok [word "echo".toList, word "a b".toList,
      redirect ⟨some .errors, .append⟩, word "f".toList] := rfl

example : ofLine "a2>f".toList =
    .ok [word "a2".toList, redirect ⟨none, .truncate⟩, word "f".toList] := rfl

example : ofLine "\"a\\".toList = .error .openDoubleQuote := rfl

end LineShell.Token
