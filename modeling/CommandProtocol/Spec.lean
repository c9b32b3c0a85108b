import CommandProtocol.CallTable
import CommandProtocol.Spec.Reader
import CommandProtocol.Spec.Scan

/-!
# From spec text to a call table

Faults are reported in the order of the stages: a character that starts no
token, then a token out of place, then a repeated call name.
-/

namespace CommandProtocol.Spec

def parse (text : String) : Except SpecError CallTable := do
  let tokens ← scan text
  let calls ← (Reading.ofTokens tokens).calls
  CallTable.ofCalls calls

/-- What is read of a text; nothing, if some of its characters start no token. -/
def reading (text : String) : Reading :=
  match scan text with
  | .ok tokens => .ofTokens tokens
  | .error fault => { blocks := [], fault }

end CommandProtocol.Spec
