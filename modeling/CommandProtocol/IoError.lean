import CommandProtocol.Text.Quoted

/-!
# Failures of reading and writing

Why a file or the standard input could not be read, or a file not written, in
the words of the operating system.
-/

namespace CommandProtocol

inductive IoError where
  | notFound
  | notDirectory
  | isDirectory
  | nameTooLong
  /-- A path with a NUL character is not passed to the system. -/
  | nulInName
  | invalidText
  | other (reason : String)
  deriving DecidableEq, Repr

namespace IoError

def systemCode? : IoError → Option Nat
  | .notFound => some 2
  | .notDirectory => some 20
  | .isDirectory => some 21
  | .nameTooLong => some 36
  | .nulInName | .invalidText | .other _ => none

def kind : IoError → String
  | .notFound => "NotFound"
  | .notDirectory => "NotADirectory"
  | .isDirectory => "IsADirectory"
  | .nameTooLong => "InvalidFilename"
  | .nulInName => "InvalidInput"
  | .invalidText => "InvalidData"
  | .other _ => "Other"

def wording : IoError → String
  | .notFound => "No such file or directory"
  | .notDirectory => "Not a directory"
  | .isDirectory => "Is a directory"
  | .nameTooLong => "File name too long"
  | .nulInName => "file name contained an unexpected NUL byte"
  | .invalidText => "stream did not contain valid UTF-8"
  | .other reason => reason

def message (error : IoError) : String :=
  match error.systemCode? with
  | some code => error.wording ++ " (os error " ++ toString code ++ ")"
  | none => error.wording

def inspect (error : IoError) : String :=
  let details := "kind: " ++ error.kind ++ ", message: " ++ Text.quoted error.wording ++ " \x7d"
  match error.systemCode? with
  | some code => "Os \x7b code: " ++ toString code ++ ", " ++ details
  | none => "Error \x7b " ++ details

end IoError

end CommandProtocol
