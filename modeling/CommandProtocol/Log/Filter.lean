import CommandProtocol.Log.Directive

/-!
# Log filters

A filter is a list of directives.  Of those that apply to an event the most
specific one decides whether it is shown; of equally specific ones, the last.
-/

namespace CommandProtocol.Log

abbrev Filter := List Directive

namespace Filter

/-- Directives are separated by commas; one that cannot be read spoils them all. -/
def ofString? (text : String) : Option Filter :=
  ((text.splitOn ",").filter (· ≠ "")).mapM Directive.ofString?

/--
The filter from the environment, if it is set and can be read.  Otherwise the
program shows its events only when it is asked to be verbose.
-/
def choose (environment : Option String) (verbose : Bool) : Filter :=
  (environment.bind ofString?).getD
    [{ target := Event.programTarget, level := if verbose then .debug else .info }]

def levelFor (filter : Filter) (event : Event) : Level :=
  match filter.filter fun directive => directive.appliesTo event with
  | [] => .off
  | first :: rest => (rest.foldl Directive.decisive first).level

def shows (filter : Filter) (event : Event) : Bool :=
  event.level.rank ≤ (filter.levelFor event).rank

end Filter

end CommandProtocol.Log
