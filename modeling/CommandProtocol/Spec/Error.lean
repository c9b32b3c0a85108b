import CommandProtocol.Spec.Token

/-!
# Faults of a spec

What can be wrong with a spec, each fault with the line it is reported at, and
the wording of its message.
-/

namespace CommandProtocol

namespace Spec

inductive Expectation where
  | callName
  | openBrace
  | keyword
  | endOfLine
  | typeName
  | paramName
  | pointerLimit
  deriving DecidableEq, Repr

def Expectation.text : Expectation → String
  | .callName => "api name"
  | .openBrace => "`\x7b`"
  | .keyword => "keyword or `\x7d`"
  | .endOfLine => "end of line"
  | .typeName => "type name"
  | .paramName => "parameter name"
  | .pointerLimit => "at most 255 pointer levels"

end Spec

inductive SpecError where
  | unexpectedChar (line : Nat) (char : Char)
  | unexpectedToken (line : Nat) (found : Spec.Lexeme) (expected : Spec.Expectation)
  | unexpectedEnd (line : Nat) (expected : Spec.Expectation)
  | unknownKeyword (line : Nat) (call keyword : String)
  | missingParamName (line : Nat) (call : String)
  | namedReturn (line : Nat) (call : String)
  | unterminatedBlock (line : Nat) (call : String)
  | duplicateCall (name : String)
  deriving DecidableEq, Repr

namespace SpecError

private def quote (text : String) : String := "`" ++ text ++ "`"

private def atLine (line : Nat) (text : String) : String :=
  "line " ++ toString line ++ ": " ++ text

def message : SpecError → String
  | .unexpectedChar line char =>
      atLine line ("unexpected character '" ++ char.toString ++ "'")
  | .unexpectedToken line found expected =>
      atLine line ("unexpected " ++ quote found.describe ++ ", expected " ++ expected.text)
  | .unexpectedEnd line expected =>
      atLine line ("unexpected end of input, expected " ++ expected.text)
  | .unknownKeyword line call keyword =>
      atLine line ("unknown keyword " ++ quote keyword ++ " in " ++ quote call)
  | .missingParamName line call =>
      atLine line ("parameter of " ++ quote call ++ " has no name")
  | .namedReturn line call =>
      atLine line ("return type of " ++ quote call ++ " must not be named")
  | .unterminatedBlock line call =>
      atLine line (quote call ++ " is missing its closing brace")
  | .duplicateCall name => "duplicate api " ++ quote name

end SpecError

end CommandProtocol
