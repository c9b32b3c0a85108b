import CommandProtocol.Variable

/-!
# Calls

A call of the protocol: its name, parameters and result, and the flags that
decide how it reaches the core.  Buffered calls are written to the command
buffer as a record; direct calls bypass the buffer.
-/

namespace CommandProtocol

structure Call where
  name : String
  result : Variable := .void
  params : List Variable := []
  noContext : Bool := false
  direct : Bool := false
  /-- The call's data must not be copied into the command buffer. -/
  sync : Bool := false
  handcoded : Bool := false
  deriving DecidableEq, Repr

namespace Call

def param (call : Call) (param : Variable) : Call :=
  { call with params := call.params ++ [param] }

def returns (call : Call) (result : Variable) : Call :=
  { call with result }

def returnsValue (call : Call) : Bool := !call.result.isVoid

def hasPointerParams (call : Call) : Bool := call.params.any Variable.isPointer

def isBuffered (call : Call) : Bool := !call.direct

end Call

end CommandProtocol
