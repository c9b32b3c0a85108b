import CommandProtocol.CallTable
import CommandProtocol.Settings
import CommandProtocol.Signature

/-!
# Declarations

Function declarations for the headers: client functions or core implementations,
playback functions, and the dispatch table.
-/

namespace CommandProtocol.Declaration

def functions (table : CallTable) (namePrefix : String) (form : ContextForm) : String :=
  String.join (table.calls.map fun call => call.signature namePrefix form ++ ";\n") ++ "\n\n"

def playback (settings : Settings) (table : CallTable) : String :=
  String.join (table.buffered.map fun (_, call) =>
    "void " ++ settings.playbackPrefix ++ call.name ++
      " (Context *, const void *, size_t);\n")

def dispatch (settings : Settings) (table : CallTable) : String :=
  "\n\ntypedef void (*RsPlaybackFunc)(Context *, const void *, size_t sizeBytes);\n" ++
    "extern RsPlaybackFunc " ++ settings.dispatchTable ++
    "[" ++ toString table.dispatchLength ++ "];\n"

def client (settings : Settings) (table : CallTable) : String :=
  functions table settings.clientPrefix .client

end CommandProtocol.Declaration
