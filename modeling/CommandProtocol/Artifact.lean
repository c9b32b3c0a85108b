import CommandProtocol.Declaration
import CommandProtocol.Marshal
import CommandProtocol.Playback
import CommandProtocol.Record

/-!
# Artifacts

The four files that can be generated from a call table, the selector byte that
chooses one of them, and their texts.
-/

namespace CommandProtocol

inductive Artifact where
  | structsHeader
  | declarationHeader
  | clientSource
  | playbackSource
  deriving DecidableEq, Repr

inductive SelectorError where
  | unknown (char : Char)
  | empty
  deriving DecidableEq, Repr

def SelectorError.message : SelectorError → String
  | .unknown char => "Unknown command: '" ++ char.toString ++ "'"
  | .empty => "Empty artifact selector"

namespace Artifact

def selector : Artifact → Char
  | .structsHeader => '0'
  | .declarationHeader => '1'
  | .clientSource => '2'
  | .playbackSource => '3'

def fileName : Artifact → String
  | .structsHeader => "rsgApiStructs.h"
  | .declarationHeader => "rsgApiFuncDecl.h"
  | .clientSource => "rsgApi.cpp"
  | .playbackSource => "rsgApiReplay.cpp"

/-- Bytes are shown as the characters with the same code. -/
def ofSelector (byte : UInt8) : Except SelectorError Artifact :=
  match Char.ofNat byte.toNat with
  | '0' => .ok .structsHeader
  | '1' => .ok .declarationHeader
  | '2' => .ok .clientSource
  | '3' => .ok .playbackSource
  | char => .error (.unknown char)

def ofSelectorFile (contents : ByteArray) : Except SelectorError Artifact :=
  match contents.data[0]? with
  | some byte => ofSelector byte
  | none => .error .empty

def recordHeader (settings : Settings) (table : CallTable) : String :=
  "\n" ++ Code.includes ["rsContext.h"] ++ "\n" ++
    Code.openNamespaces settings.namespaces ++
    Structures.text settings table ++
    Declaration.functions table settings.implPrefix .core ++
    Declaration.playback settings table ++
    Declaration.dispatch settings table ++
    Code.closeNamespaces settings.namespaces

def body (settings : Settings) (table : CallTable) : Artifact → String
  | .structsHeader => recordHeader settings table
  | .declarationHeader => Declaration.client settings table
  | .clientSource => Marshal.source settings table
  | .playbackSource => Playback.source settings table

def render (settings : Settings) (table : CallTable) (artifact : Artifact) : String :=
  settings.licenseHeader ++ artifact.body settings table

end Artifact

end CommandProtocol
