import CommandProtocol.Generate
import CommandProtocol.Text.Decimal

/-!
# The command line

Arguments are read from left to right and the first fault ends the reading.  The
value of an option may follow an equals sign or be the next argument.  A value
that stands as an argument of its own is looked at only when the reading goes on
to an argument that the program knows, or ends; so an unknown flag after a bad
value is the fault that is reported.
-/

namespace CommandProtocol

namespace CommandLine

structure Options where
  selector : String
  output : String
  spec : Option String := none
  inlineThreshold : UInt32 := 1024
  verbose : Bool := false
  deriving DecidableEq, Repr

inductive Stop where
  | help
  | version
  | unknownArgument
  | missingArgument
  | repeatedArgument
  | unneededValue
  | invalidValue
  | invalidNumber
  deriving DecidableEq, Repr

def Stop.isFault : Stop → Bool
  | .help | .version => false
  | _ => true

inductive Slot where
  | selector
  | output
  | spec
  | threshold
  deriving DecidableEq, Repr

structure Reading where
  selector : Option String := none
  output : Option String := none
  spec : Option String := none
  threshold : Option UInt32 := none
  verbose : Bool := false
  positionals : Nat := 0
  /-- A slot whose value is awaited, or has been given and not been looked at. -/
  pending : Option (Slot × Option String) := none
  deriving DecidableEq, Repr

def readPath (text : String) : Except Stop String :=
  if text = "" then .error .invalidValue else .ok text

def readThreshold (text : String) : Except Stop UInt32 :=
  let value? :=
    match text.toList with
    | '-' :: numeral => (Text.decimal? numeral).filter (· = 0)
    | numeral => Text.unsigned? numeral
  match value? with
  | some value => if value < UInt32.size then .ok value.toUInt32 else .error .invalidNumber
  | none => .error .invalidNumber

namespace Reading

/-- Take a value for a slot.  An option that was given before is refused first. -/
def store (reading : Reading) (value : String) : Slot → Except Stop Reading
  | .selector => return { reading with selector := some (← readPath value) }
  | .output => return { reading with output := some (← readPath value) }
  | .spec =>
      if reading.spec.isSome then .error .repeatedArgument
      else return { reading with spec := some (← readPath value) }
  | .threshold =>
      if reading.threshold.isSome then .error .repeatedArgument
      else return { reading with threshold := some (← readThreshold value) }

def settle (reading : Reading) : Except Stop Reading :=
  match reading.pending with
  | none => .ok reading
  | some (_, none) => .error .invalidValue
  | some (slot, some value) => { reading with pending := none }.store value slot

def positional (reading : Reading) (value : String) : Except Stop Reading := do
  let slot ←
    match reading.positionals with
    | 0 => pure Slot.selector
    | 1 => pure Slot.output
    | _ => throw .unknownArgument
  let settled ← reading.settle
  return { settled with
    positionals := settled.positionals + 1
    pending := some (slot, some value) }

def readVerbose (reading : Reading) : Except Stop Reading := do
  let settled ← reading.settle
  if settled.verbose then throw .repeatedArgument
  return { settled with verbose := true }

def stopAt (reading : Reading) (stop : Stop) : Except Stop Reading := do
  let _ ← reading.settle
  throw stop

def readOption (reading : Reading) (slot : Slot) (attached : Option String) :
    Except Stop Reading := do
  let settled ← reading.settle
  match attached with
  | some value => settled.store value slot
  | none => return { settled with pending := some (slot, none) }

def readLong (reading : Reading) (name : String) (attached : Option String) :
    Except Stop Reading :=
  if name = "spec" then reading.readOption .spec attached
  else if name = "inline-threshold" then reading.readOption .threshold attached
  else if name ∈ ["verbose", "help", "version"] then
    if attached.isSome then .error .unneededValue
    else if name = "verbose" then reading.readVerbose
    else if name = "help" then reading.stopAt .help
    else reading.stopAt .version
  else .error .unknownArgument

def readShort (reading : Reading) (flag : Char) : Except Stop Reading :=
  if flag = 'v' then reading.readVerbose
  else if flag = 'h' then reading.stopAt .help
  else if flag = 'V' then reading.stopAt .version
  else .error .unknownArgument

def readArgument (reading : Reading) (argument : String) : Except Stop Reading :=
  match argument.toList with
  | '-' :: '-' :: flag =>
      let name := String.ofList (flag.takeWhile (· ≠ '='))
      match flag.dropWhile (· ≠ '=') with
      | _ :: value => reading.readLong name (some (String.ofList value))
      | [] => reading.readLong name none
  | '-' :: flag :: flags => (flag :: flags).foldlM readShort reading
  | _ =>
      match reading.pending with
      | some (slot, none) => .ok { reading with pending := some (slot, some argument) }
      | _ => reading.positional argument

def readArguments (reading : Reading) : List String → Except Stop Reading
  | [] => reading.settle
  | argument :: rest =>
      if argument = "--" then do
        let last ← rest.foldlM positional reading
        last.settle
      else do
        let next ← reading.readArgument argument
        next.readArguments rest

def options (reading : Reading) : Except Stop Options :=
  match reading.selector, reading.output with
  | some selector, some output =>
      .ok {
        selector, output
        spec := reading.spec
        inlineThreshold := reading.threshold.getD 1024
        verbose := reading.verbose }
  | _, _ => .error .missingArgument

end Reading

def parse (arguments : List String) : Except Stop Options := do
  let reading ← Reading.readArguments {} arguments
  reading.options

def Options.request (options : Options) : Request where
  selector := options.selector
  output := options.output
  spec := options.spec
  settings := { inlineThreshold := options.inlineThreshold }

/-! ## Texts -/

def helpText : String :=
  "\n".intercalate
    [ "Command-protocol generator - emits marshaling and playback code from an api spec",
      "",
      "Usage: rsg [OPTIONS] <COMMAND_FILE> <OUT_FILE>",
      "",
      "Arguments:",
      "  <COMMAND_FILE>  File whose first character selects the artifact (0-3)",
      "  <OUT_FILE>      Output file (truncated)",
      "",
      "Options:",
      "      --spec <PATH>               Api spec file (read from stdin when omitted)",
      "      --inline-threshold <BYTES>  Inline payload limit in bytes [default: 1024]",
      "  -v, --verbose                   Enable verbose output (sets RUST_LOG=debug)",
      "  -h, --help                      Print help",
      "  -V, --version                   Print version",
      "" ]

def versionText : String := "rsg 0.1.0\n"

def Stop.text : Stop → String
  | .help => helpText
  | .version => versionText
  | .unknownArgument => "error: unexpected argument\n"
  | .missingArgument => "error: a required argument is missing\n"
  | .repeatedArgument => "error: an argument cannot be used twice\n"
  | .unneededValue => "error: a value for a flag that takes none\n"
  | .invalidValue => "error: a value is required\n"
  | .invalidNumber => "error: invalid number\n"

end CommandLine

end CommandProtocol
