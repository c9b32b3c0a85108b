import CommandProtocol.Artifact
import CommandProtocol.IoError
import CommandProtocol.Text.Quoted

/-!
# Why a run fails

A run of the generator fails because of the selector, the spec, or a file that
cannot be read or written.  Each failure has a message for the user, an exit
code, and the form in which the log shows it.
-/

namespace CommandProtocol

open Text (quoted quotedChar)

def SelectorError.inspect : SelectorError → String
  | .unknown char => "UnknownSelector(" ++ quotedChar char ++ ")"
  | .empty => "EmptySelector"

namespace SpecError

private def record (name : String) (line : Nat) (fields : List (String × String)) : String :=
  name ++ " \x7b line: " ++ toString line ++
    String.join (fields.map fun (key, value) => ", " ++ key ++ ": " ++ value) ++ " \x7d"

def inspect : SpecError → String
  | .unexpectedChar line char => record "UnexpectedChar" line [("ch", quotedChar char)]
  | .unexpectedToken line found expected =>
      record "UnexpectedToken" line
        [("found", quoted found.describe), ("expected", quoted expected.text)]
  | .unexpectedEnd line expected =>
      record "UnexpectedEof" line [("expected", quoted expected.text)]
  | .unknownKeyword line call keyword =>
      record "UnknownKeyword" line [("api", quoted call), ("keyword", quoted keyword)]
  | .missingParamName line call => record "MissingParamName" line [("api", quoted call)]
  | .namedReturn line call => record "NamedReturn" line [("api", quoted call)]
  | .unterminatedBlock line call => record "UnterminatedBlock" line [("api", quoted call)]
  | .duplicateCall name => "DuplicateApi(" ++ quoted name ++ ")"

end SpecError

inductive Failure where
  | selector (error : SelectorError)
  | spec (error : SpecError)
  | io (error : IoError)
  deriving DecidableEq, Repr

namespace Failure

def message : Failure → String
  | .selector error => error.message
  | .spec error => "Spec error: " ++ error.message
  | .io error => "IO error: " ++ error.message

def inspect : Failure → String
  | .selector error => "Artifact(" ++ error.inspect ++ ")"
  | .spec error => "Spec(" ++ error.inspect ++ ")"
  | .io error => "Io(" ++ error.inspect ++ ")"

def exitCode : Failure → UInt32
  | .selector _ => 2
  | .spec _ | .io _ => 1

end Failure

end CommandProtocol
