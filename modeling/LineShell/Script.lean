import LineShell.Text

/-!
Scripts: the programs that child processes run.  A script is read command by
command; a command is a tree whose leaves are words, and a word is a list of
pieces that are expanded when it is used.

All text in a script is in the form of bytes, each of which is one character.
-/
namespace LineShell.Script

/-- What a dollar sign can name. -/
inductive Parameter where
  | positional (index : Nat)
  /-- All arguments as one text. -/
  | joined
  /-- All arguments, each a word of its own. -/
  | each
  | count
  | status
  | self
  /-- The last command that was left to run by itself. -/
  | background
  | options
  | named (name : Text)
  deriving DecidableEq, Repr

/-- How a file is opened. -/
inductive Opening where
  | read
  | truncate
  /-- As before, and even if the script is to keep its files. -/
  | force
  | append
  /-- For both reading and writing, with nothing lost. -/
  | update
  deriving DecidableEq, Repr

mutual

inductive Piece where
  /-- Characters that can have a meaning in a pattern. -/
  | bare (text : Text)
  /-- Characters that stand for themselves.  Even none of them make a word. -/
  | quoted (text : Text)
  /-- The value of a parameter. -/
  | value (quoted : Bool) (parameter : Parameter) (use : Use)
  /-- What a command writes. -/
  | output (quoted : Bool) (command : Tree)
  /-- The value of an expression. -/
  | number (quoted : Bool) (expression : List Piece)
  /-- Braces after a dollar sign that say nothing. -/
  | flawed
  /-- A closing brace that ends the whole word: what follows it is lost. -/
  | ends

/-- What is done with the value of a parameter; `orEmpty` tells whether an empty
value counts as none. -/
inductive Use where
  | plain
  /-- The number of its characters. -/
  | size
  /-- Another text in its place, if there is none. -/
  | otherwise (orEmpty : Bool) (word : List Piece)
  /-- Another text in its place, if there is one. -/
  | instead (orEmpty : Bool) (word : List Piece)
  /-- A new value, if there is none. -/
  | assign (orEmpty : Bool) (word : List Piece)
  /-- The end of the script, if there is none. -/
  | require (orEmpty : Bool) (word : List Piece)
  /-- What is left without a match of a pattern at one end. -/
  | trim (atEnd longest : Bool) (pattern : List Piece)

inductive Target where
  | file (opening : Opening) (path : List Piece)
  /-- Where the descriptor with this number goes, or nowhere for a dash. -/
  | copy (word : List Piece)
  /-- To a text that is read. -/
  | text (number : Nat)

/-- A command. -/
inductive Tree where
  | nothing
  /-- Words with assignments before them, on a line. -/
  | simple (line : Nat) (assignments : List (Text × List Piece))
      (words : List (List Piece))
      (targets : List (Nat × Target))
  | redirected (line : Nat) (body : Tree) (targets : List (Nat × Target))
  | sequence (first second : Tree)
  /-- The second command runs if the first one succeeds. -/
  | both (first second : Tree)
  /-- The second command runs if the first one fails. -/
  | either (first second : Tree)
  | negated (body : Tree)
  /-- Each command reads what the one before it writes. -/
  | pipe (parts : List Tree)
  | background (body : Tree)
  | subshell (line : Nat) (body : Tree)
  | choice (test yes no : Tree)
  /-- A loop that runs as long as the test succeeds, or fails. -/
  | loop (whileFailing : Bool) (test body : Tree)
  /-- A loop over words. -/
  | each (line : Nat) (name : Text) (words : List (List Piece)) (body : Tree)
  /-- The first branch with a pattern that fits the word. -/
  | select (line : Nat) (word : List Piece)
      (branches : List (List (List Piece) × Tree))
  | define (name : Text) (body : Tree)

end

def Piece.isEnd : Piece → Bool
  | .ends => true
  | _ => false

abbrev Word := List Piece

inductive Flaw where
  | openQuote
  | openBrace
  | openSum
  | openOutput
  | badVariable
  | badFunction
  | badDescriptor
  /-- This stands where it cannot, and something else could. -/
  | unexpected (what : Text) (expected : Option Text)
  /-- Commands are nested too deep. -/
  | tooDeep
  deriving DecidableEq, Repr

namespace Flaw

def reason : Flaw → Text
  | .openQuote => "Unterminated quoted string".toList
  | .openBrace => "Missing '\x7d'".toList
  | .openSum => "Missing '))'".toList
  | .openOutput => "EOF in backquote substitution".toList
  | .badVariable => "Bad for loop variable".toList
  | .badFunction => "Bad function name".toList
  | .badDescriptor => "Bad fd number".toList
  | .unexpected what none => what ++ " unexpected".toList
  | .unexpected what (some expected) =>
    what ++ " unexpected (expecting ".toList ++ expected ++ [')']
  | .tooDeep => "nested too deep".toList

/-- The last line that has been read for a flaw to be found on a line: what ends
a line is found on the next one. -/
def lastLine (line : Nat) : Flaw → Nat
  | .unexpected what _ => if what = "newline".toList then line - 1 else line
  | _ => line

def message (flaw : Flaw) : Text := "Syntax error: ".toList ++ flaw.reason

end Flaw

end LineShell.Script
