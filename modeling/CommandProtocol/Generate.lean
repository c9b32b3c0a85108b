import CommandProtocol.Host
import CommandProtocol.Log.Event
import CommandProtocol.Spec

/-!
# Generating a file

The selector is read first, then the spec; then everything is rendered, and only
then is the output written.  A failure before that leaves the output as it was.
-/

namespace CommandProtocol

open Log (Event)

structure Request where
  selector : String
  output : String
  spec : Option String := none
  settings : Settings := {}
  deriving DecidableEq, Repr

def ignoredFlagEvents (block : Spec.Block) : List Event :=
  block.ignoredFlags.map fun flag => .ignoredFlag block.name flag

/-- Flags are reported where they stand, and a call at the end of its block. -/
def blockEvents (block : Spec.Block) : List Event :=
  ignoredFlagEvents block ++ [.callRead block.name block.call.params.length]

def specEvents (text : String) : List Event :=
  let reading := Spec.reading text
  reading.blocks.flatMap blockEvents ++ reading.cut.toList.flatMap ignoredFlagEvents ++
    match Spec.parse text with
    | .ok table => [.tableBuilt table.size]
    | .error _ => []

/-- A call that is marshaled by hand needs no plan. -/
def marshalingEvents (id : Nat) (call : Call) : List Event :=
  .marshaling call.name id ::
    if call.handcoded then [] else [.planned call.name (.ofCall call)]

def renderEvents (table : CallTable) (artifact : Artifact) : List Event :=
  .rendering artifact table.size ::
    match artifact with
    | .clientSource => table.buffered.flatMap fun (id, call) => marshalingEvents id call
    | .playbackSource => table.buffered.map fun (_, call) => .playback call.name
    | _ => []

variable {m : Type → Type} [Monad m]

def logAll (log : Event → m Unit) : List Event → m Unit
  | [] => pure ()
  | event :: rest => do
      log event
      logAll log rest

namespace Host

def readSelector (host : Host m) (path : String) : ExceptT Failure m Artifact := do
  let contents ← (host.readFile path).adapt .io
  ExceptT.mk (pure ((Artifact.ofSelectorFile contents).mapError .selector))

def readSpec (host : Host m) (path : Option String) : ExceptT Failure m String := do
  let contents ←
    match path with
    | some path => (host.readFile path).adapt .io
    | none => host.readInput.adapt .io
  match String.fromUTF8? contents with
  | some text => return text
  | none => throw (.io .invalidText)

end Host

def generate (host : Host m) (log : Event → m Unit) (request : Request) :
    ExceptT Failure m Artifact := do
  let artifact ← host.readSelector request.selector
  log (.selected artifact)
  let text ← host.readSpec request.spec
  ExceptT.lift (logAll log (specEvents text))
  let table ← ExceptT.mk (pure ((Spec.parse text).mapError .spec))
  ExceptT.lift (logAll log (renderEvents table artifact))
  let code := artifact.render request.settings table
  (host.writeFile request.output code.toUTF8).adapt .io
  log (.generated artifact request.output)
  return artifact

end CommandProtocol
