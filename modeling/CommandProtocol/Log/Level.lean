import CommandProtocol.Text.Decimal

/-!
# Log levels

How much of the log is shown, from nothing to everything.
-/

namespace CommandProtocol.Log

inductive Level where
  | off
  | error
  | warn
  | info
  | debug
  | trace
  deriving DecidableEq, Repr

namespace Level

def rank : Level → Nat
  | .off => 0
  | .error => 1
  | .warn => 2
  | .info => 3
  | .debug => 4
  | .trace => 5

def name : Level → String
  | .off => "off"
  | .error => "error"
  | .warn => "warn"
  | .info => "info"
  | .debug => "debug"
  | .trace => "trace"

def all : List Level := [.off, .error, .warn, .info, .debug, .trace]

/-- A level is written as its name in any case, or as its rank. -/
def ofString? (text : String) : Option Level :=
  all.find? fun level =>
    text.toLower == level.name || Text.unsigned? text.toList == some level.rank

end Level

end CommandProtocol.Log
