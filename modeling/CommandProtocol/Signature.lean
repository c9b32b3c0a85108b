import CommandProtocol.Call

/-!
# Signatures

The C signature of a call, on the client side and on the core side, and the
argument list that forwards a call's own parameters.
-/

namespace CommandProtocol

inductive ContextForm where
  | client
  | core
  deriving DecidableEq, Repr

def ContextForm.declaration : ContextForm → String
  | .client => "RsContext rsc"
  | .core => "Context *"

def argumentList (params : List Variable) (afterContext : Bool) : String :=
  let declarations := params.map Variable.declaration
  if afterContext then
    String.join (declarations.map fun declaration => ", " ++ declaration)
  else
    ", ".intercalate declarations

namespace Call

def signature (call : Call) (namePrefix : String) (form : ContextForm) : String :=
  call.result.declaration ++ " " ++ namePrefix ++ call.name ++ " (" ++
    (if call.noContext then "" else form.declaration) ++
    argumentList call.params (!call.noContext) ++ ")"

/--
The context expression, unless the call takes none, and the names of the
parameters.  A comma is written only where some text precedes it.
-/
def forwardedArguments (call : Call) (context : String) : String :=
  (call.params.map Variable.name).foldl
    (fun text name => if text.isEmpty then name else text ++ ", " ++ name)
    (if call.noContext then "" else context)

end Call

end CommandProtocol
