import LineShell.Redirection

/-!
Tokens: the pieces that a line consists of.  Reading a line gives words and
redirection operators only; the two other kinds may stand in a list of tokens
that was put together by hand.
-/
namespace LineShell

inductive TokenKind where
  | word
  | redirect
  | pipe
  | quotedFragment
  deriving DecidableEq, Repr

/-- One classified piece of a line. -/
structure Token where
  kind : TokenKind
  text : Text
  deriving DecidableEq, Repr

namespace Token

def word (text : Text) : Token := ⟨.word, text⟩

def redirect (operator : Operator) : Token := ⟨.redirect, operator.text⟩

end Token

inductive LineError where
  | openSingleQuote
  | openDoubleQuote
  | openEscape
  | pipeline
  | missingTarget
  | unexpected (token : Text)
  | missingName
  | unknownOperator (text : Text)
  deriving DecidableEq, Repr

namespace LineError

/-- What a syntax error is about; an unknown operator is none. -/
def detail? : LineError → Option Text
  | .openSingleQuote => some "unterminated single quote".toList
  | .openDoubleQuote => some "unterminated double quote".toList
  | .openEscape => some "unexpected end of line after backslash".toList
  | .pipeline => some "pipelines are not supported".toList
  | .missingTarget => some "near unexpected token `newline'".toList
  | .unexpected token =>
      some ("near unexpected token `".toList ++ token ++ ['\''])
  | .missingName => some "missing command name".toList
  | .unknownOperator _ => none

end LineError

end LineShell
