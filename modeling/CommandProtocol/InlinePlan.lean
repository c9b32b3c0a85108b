import CommandProtocol.Call

/-!
# Inline plans

A call may copy the data behind its pointers into the command buffer only when
the client does not wait for it anyway, and when every pointer is a single-level
pointer to constant data that the core only reads.  The plan of a call is the
list of those pointers or the obstacle that comes first.
-/

namespace CommandProtocol

inductive Obstacle where
  | synchronous
  | returnsValue
  | mutablePointer (param : String)
  | multiLevelPointer (param : String)
  | noPointers
  deriving DecidableEq, Repr

inductive InlinePlan where
  | inline (payload : List Variable)
  | notInline (obstacle : Obstacle)
  deriving DecidableEq, Repr

namespace InlinePlan

/-- The pointers of a parameter list, or the obstacle at the first unfit one. -/
def payload : List Variable → Except Obstacle (List Variable)
  | [] => .ok []
  | param :: rest =>
      if param.isPointer && !param.isConst then
        .error (.mutablePointer param.name)
      else if 1 < param.pointers then
        .error (.multiLevelPointer param.name)
      else do
        let pointers ← payload rest
        return if param.isConstPointer then param :: pointers else pointers

def ofCall (call : Call) : InlinePlan :=
  if call.sync then .notInline .synchronous
  else if call.returnsValue then .notInline .returnsValue
  else
    match payload call.params with
    | .error obstacle => .notInline obstacle
    | .ok [] => .notInline .noPointers
    | .ok pointers => .inline pointers

def isInline : InlinePlan → Bool
  | .inline _ => true
  | .notInline _ => false

def lengthTerms : InlinePlan → List String
  | .inline payload => payload.map Variable.lengthName
  | .notInline _ => []

end InlinePlan

end CommandProtocol
