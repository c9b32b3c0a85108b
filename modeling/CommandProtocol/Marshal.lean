import CommandProtocol.CallTable
import CommandProtocol.Code
import CommandProtocol.InlinePlan
import CommandProtocol.Settings
import CommandProtocol.Signature

/-!
# Marshaling functions

The client function of a buffered call reserves room in the command buffer,
fills in the record and commits it.  When the call has an inline plan, the data
behind its pointers is copied after the record as long as it stays below the
inline threshold; the commit is then asynchronous.  Otherwise the record holds
the caller's addresses, and the commit waits for the core.

A function body is a list of steps.  A step is an action or a test of the data
size with actions on either side, so a run of the body takes one of two paths.
-/

namespace CommandProtocol.Marshal

inductive CommitMode where
  | async
  | sync
  deriving DecidableEq, Repr

inductive Action where
  | openBuffer
  | declareSize (record : String)
  | declareDataSize
  | addLength (term : String)
  /-- Reserve the record alone, or with the data if that stays below the limit. -/
  | reserve (record : String) (limit : Option UInt32)
  | declarePayload
  | copyPayload (param : Variable)
  | storePayload (param : Variable)
  | advancePayload (param : Variable)
  /-- Store the argument itself, which for a pointer is the caller's address. -/
  | storeArgument (param : Variable)
  | commit (mode : CommitMode) (id : String) (withData : Bool)
  | returnResult (type : String)
  deriving DecidableEq, Repr

inductive Step where
  | always (action : Action)
  | ifBelow (limit : UInt32) (small large : List Action)
  deriving DecidableEq, Repr

inductive Body where
  | forward (returnsValue : Bool) (target arguments : String)
  | marshal (steps : List Step)
  deriving DecidableEq, Repr

/-! ## Bodies -/

def plainSteps (settings : Settings) (call : Call) : List Step :=
  let record := settings.recordName call.name
  let mode := if call.hasPointerParams || call.returnsValue then .sync else .async
  [ .always .openBuffer,
    .always (.declareSize record),
    .always (.reserve record none) ] ++
  call.params.map (fun param => .always (.storeArgument param)) ++
  [ .always (.commit mode (settings.commandIdName call.name) false) ]

def inlineStore (limit : UInt32) (param : Variable) : Step :=
  if param.isPointer then
    .ifBelow limit
      [.copyPayload param, .storePayload param, .advancePayload param]
      [.storeArgument param]
  else
    .always (.storeArgument param)

def inlineSteps (settings : Settings) (call : Call) (terms : List String) : List Step :=
  let record := settings.recordName call.name
  let id := settings.commandIdName call.name
  let limit := settings.inlineThreshold
  [ .always .openBuffer,
    .always (.declareSize record),
    .always .declareDataSize ] ++
  terms.map (fun term => .always (.addLength term)) ++
  [ .always (.reserve record (some limit)),
    .always .declarePayload ] ++
  call.params.map (inlineStore limit) ++
  [ .ifBelow limit [.commit .async id true] [.commit .sync id false] ]

def returnSteps (call : Call) : List Step :=
  if call.returnsValue then [.always (.returnResult call.result.cType)] else []

def steps (settings : Settings) (call : Call) : List Step :=
  let plan := InlinePlan.ofCall call
  (if plan.isInline then
    inlineSteps settings call plan.lengthTerms
  else
    plainSteps settings call) ++ returnSteps call

def body (settings : Settings) (call : Call) : Body :=
  if call.handcoded then
    .forward call.returnsValue (settings.handcodePrefix ++ call.name)
      (call.forwardedArguments "rsc")
  else
    .marshal (steps settings call)

/-! ## Text -/

def CommitMode.function : CommitMode → String
  | .async => "commit"
  | .sync => "commitSync"

def Action.text : Action → String
  | .openBuffer => "ThreadIO *io = &((Context *)rsc)->mIO;"
  | .declareSize record => "uint32_t size = sizeof(" ++ record ++ ");"
  | .declareDataSize => "uint32_t dataSize = 0;"
  | .addLength term => "dataSize += " ++ term ++ ";"
  | .reserve record limit =>
      let amount :=
        match limit with
        | some limit => "dataSize < " ++ toString limit.toNat ++ " ? size + dataSize : size"
        | none => "sizeof(" ++ record ++ ")"
      record ++ " *cmd = static_cast<" ++ record ++ " *>(io->mToCore.reserve(" ++
        amount ++ "));"
  | .declarePayload => "uint8_t *payload = (uint8_t *)&cmd[1];"
  | .copyPayload param => "memcpy(payload, " ++ param.name ++ ", " ++ param.lengthName ++ ");"
  | .storePayload param => "cmd->" ++ param.name ++ " = (" ++ param.cType ++ ")payload;"
  | .advancePayload param => "payload += " ++ param.lengthName ++ ";"
  | .storeArgument param => "cmd->" ++ param.name ++ " = " ++ param.name ++ ";"
  | .commit mode id withData =>
      "io->mToCore." ++ mode.function ++ "(" ++ id ++ ", " ++
        (if withData then "size + dataSize" else "size") ++ ");"
  | .returnResult type => "return reinterpret_cast<" ++ type ++ ">(io->mToCoreRet);"

def actionLines (depth : Nat) (actions : List Action) : String :=
  String.join (actions.map fun action => Code.line depth action.text)

def Step.text : Step → String
  | .always action => Code.line 1 action.text
  | .ifBelow limit small large =>
      Code.line 1 ("if (dataSize < " ++ toString limit.toNat ++ ") \x7b") ++
        actionLines 2 small ++ Code.line 1 "\x7d else \x7b" ++
        actionLines 2 large ++ Code.line 1 "\x7d"

def Body.text : Body → String
  | .forward returnsValue target arguments =>
      Code.line 1 ((if returnsValue then "return " else "") ++
        target ++ "(" ++ arguments ++ ");")
  | .marshal steps => String.join (steps.map Step.text)

def function (settings : Settings) (call : Call) : String :=
  call.signature settings.clientPrefix .client ++ "\n\x7b\n" ++
    (body settings call).text ++ "\x7d\n\n"

def source (settings : Settings) (table : CallTable) : String :=
  Code.includes settings.sourceIncludes ++ "\n" ++
    Code.usingNamespaces settings.namespaces ++
    Code.includes [settings.handcodeInclude] ++ "\n" ++
    String.join (table.buffered.map fun (_, call) => function settings call)

end CommandProtocol.Marshal
