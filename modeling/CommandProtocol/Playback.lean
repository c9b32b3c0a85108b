import CommandProtocol.CallTable
import CommandProtocol.Code
import CommandProtocol.Settings

/-!
# Playback functions

The core side of a buffered call reads the record back and calls the
implementation.  The dispatch table leads from a command id to its playback
function; slot zero and the slots of direct calls are empty.
-/

namespace CommandProtocol.Playback

inductive Argument where
  | context
  | field (param : Variable)
  deriving DecidableEq, Repr

structure Function where
  name : String
  record : String
  implementation : String
  arguments : List Argument
  storesResult : Bool
  deriving DecidableEq, Repr

inductive Slot where
  | empty
  | function (name : String)
  deriving DecidableEq, Repr

def functionName (settings : Settings) (call : Call) : String :=
  settings.playbackPrefix ++ call.name

def arguments (call : Call) : List Argument :=
  (if call.noContext then [] else [.context]) ++ call.params.map .field

def ofCall (settings : Settings) (call : Call) : Function where
  name := functionName settings call
  record := settings.recordName call.name
  implementation := settings.implPrefix ++ call.name
  arguments := arguments call
  storesResult := call.returnsValue

def slot (settings : Settings) (call : Call) : Slot :=
  if call.direct then .empty else .function (functionName settings call)

def slots (settings : Settings) (table : CallTable) : List Slot :=
  .empty :: table.calls.map (slot settings)

/-! ## Text -/

def Argument.text : Argument → String
  | .context => "con"
  | .field param => "cmd->" ++ param.name

def Function.text (function : Function) : String :=
  "void " ++ function.name ++ "(Context *con, const void *vp, size_t cmdSizeBytes)\n\x7b\n" ++
    Code.line 1 ("const " ++ function.record ++ " *cmd = static_cast<const " ++
      function.record ++ " *>(vp);") ++
    Code.line 1 ((if function.storesResult then "con->mIO.mToCoreRet = (intptr_t)" else "") ++
      function.implementation ++ "(" ++
      ",\n           ".intercalate (function.arguments.map Argument.text) ++ ");") ++
    "\x7d\n\n"

def Slot.text : Slot → String
  | .empty => "NULL"
  | .function name => name

def dispatchTable (settings : Settings) (table : CallTable) : String :=
  "RsPlaybackFunc " ++ settings.dispatchTable ++ "[" ++ toString table.dispatchLength ++
    "] = \x7b\n" ++
    String.join ((slots settings table).map fun slot => Code.line 1 (slot.text ++ ",")) ++
    "\x7d;\n"

def source (settings : Settings) (table : CallTable) : String :=
  Code.includes settings.sourceIncludes ++ "\n" ++
    Code.openNamespaces settings.namespaces ++
    Code.includes [settings.handcodeInclude] ++ "\n" ++
    String.join (table.buffered.map fun (_, call) => (ofCall settings call).text) ++
    dispatchTable settings table ++
    Code.closeNamespaces settings.namespaces

end CommandProtocol.Playback
