import CommandProtocol.Failure
import CommandProtocol.Log.Inspect
import CommandProtocol.Log.Level
import CommandProtocol.Spec.Block

/-!
# Log events

What a run reports while it works, and the line that the log shows for it.  An
event has a title and attributes.  It belongs to a target, the part of the program
that it comes from; the log can be opened for each target apart from the others.
-/

namespace CommandProtocol.Log

inductive Event where
  | selected (artifact : Artifact)
  | ignoredFlag (call : String) (flag : Spec.Flag)
  | callRead (call : String) (params : Nat)
  | tableBuilt (calls : Nat)
  | rendering (artifact : Artifact) (calls : Nat)
  | marshaling (call : String) (id : Nat)
  | planned (call : String) (plan : InlinePlan)
  | playback (call : String)
  | generated (artifact : Artifact) (output : String)
  | failed (failure : Failure)
  deriving DecidableEq, Repr

namespace Event

def programTarget : String := "rsg"

def target : Event → String
  | .selected _ | .generated .. | .failed _ => programTarget
  | .ignoredFlag .. | .callRead .. => "rsg_api::parser"
  | .tableBuilt _ => "rsg_api::table"
  | .rendering .. => "rsg_emit::artifact"
  | .marshaling .. => "rsg_emit::emitter::marshal"
  | .planned .. => "rsg_emit::inline"
  | .playback _ => "rsg_emit::emitter::playback"

def level : Event → Level
  | .callRead .. | .planned .. => .trace
  | _ => .debug

def title : Event → String
  | .selected _ => "selected artifact"
  | .ignoredFlag .. => "ignoring flag"
  | .callRead .. => "parsed api"
  | .tableBuilt _ => "api table built"
  | .rendering .. => "rendering artifact"
  | .marshaling .. => "emitting marshaling"
  | .planned .. => "inline plan"
  | .playback _ => "emitting playback"
  | .generated .. => "generated"
  | .failed _ => "generation failed"

def attributes : Event → List (String × String)
  | .selected artifact =>
      [("artifact", artifact.fileName), ("selector", artifact.selector.toString)]
  | .ignoredFlag call flag => [("api", call), ("flag", Text.quoted flag.keyword)]
  | .callRead call params => [("api", call), ("params", toString params)]
  | .tableBuilt calls => [("apis", toString calls)]
  | .rendering artifact calls =>
      [("artifact", artifact.fileName), ("apis", toString calls)]
  | .marshaling call id => [("api", call), ("id", toString id)]
  | .planned call plan => [("api", call), ("plan", plan.inspect)]
  | .playback call => [("api", call)]
  | .generated artifact output => [("artifact", artifact.fileName), ("output", output)]
  | .failed failure => [("error", failure.inspect)]

/-- The names by which a log filter can ask for an event; the title has one too. -/
def attributeNames (event : Event) : List String :=
  "message" :: event.attributes.map Prod.fst

def text (event : Event) : String :=
  event.title ++ String.join (event.attributes.map fun (name, value) =>
    " " ++ name ++ "=" ++ value)

def line (event : Event) : String := event.level.name.toUpper ++ " " ++ event.text

end Event

end CommandProtocol.Log
