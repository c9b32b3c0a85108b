/-!
# Tokens of a spec

A token is a lexeme with the line it stands on, counted from one.  Line ends
are tokens, because a statement ends with its line.
-/

namespace CommandProtocol.Spec

inductive Lexeme where
  | ident (text : String)
  | openBrace
  | closeBrace
  | star
  | newline
  | eof
  deriving DecidableEq, Repr

def Lexeme.describe : Lexeme → String
  | .ident text => text
  | .openBrace => "\x7b"
  | .closeBrace => "\x7d"
  | .star => "*"
  | .newline => "end of line"
  | .eof => "end of input"

structure Token where
  lexeme : Lexeme
  line : Nat
  deriving DecidableEq, Repr

end CommandProtocol.Spec
