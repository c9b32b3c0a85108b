import CommandProtocol.CommandLine
import CommandProtocol.Log.Filter

/-!
# Running the program

A run reads the command line, generates the file, and answers with an exit code.
Log lines and messages are reported; only help and version are printed.
-/

namespace CommandProtocol

open Log (Event Filter)

variable {m : Type → Type} [Monad m]

def runOptions (host : Host m) (filter : Filter) (options : CommandLine.Options) : m UInt32 := do
  let log (event : Event) : m Unit :=
    if filter.shows event then host.report (event.line ++ "\n") else pure ()
  match ← (generate host log options.request).run with
  | .ok artifact =>
      if options.verbose then
        host.report ("✓ Generated " ++ artifact.fileName ++ "\n")
        host.report ("  → " ++ options.output ++ "\n")
      return 0
  | .error failure =>
      log (.failed failure)
      host.report ("✗ " ++ failure.message ++ "\n")
      return failure.exitCode

def run (host : Host m) (arguments : List String) (logFilter : Option String) : m UInt32 :=
  match CommandLine.parse arguments with
  | .ok options => runOptions host (Filter.choose logFilter options.verbose) options
  | .error stop => do
      if stop.isFault then
        host.report stop.text
        return 1
      else
        host.print stop.text
        return 0

end CommandProtocol
