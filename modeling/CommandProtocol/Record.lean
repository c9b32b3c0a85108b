import CommandProtocol.CallTable
import CommandProtocol.Code
import CommandProtocol.Settings

/-!
# Command records

Every buffered call has a record type whose fields are its parameters, and every
call has a command id.  The structures text declares the record types, and then
goes through the table in order, taking up the next layout whenever the ids meet.
-/

namespace CommandProtocol

structure RecordLayout where
  name : String
  id : Nat
  fields : List Variable
  deriving DecidableEq, Repr

namespace RecordLayout

def typedef (layout : RecordLayout) : String :=
  "typedef struct " ++ layout.name ++ "_rec " ++ layout.name ++ ";\n"

def definition (layout : RecordLayout) : String :=
  "struct " ++ layout.name ++ "_rec \x7b\n" ++
    String.join (layout.fields.map fun field => Code.line 1 (field.declaration ++ ";")) ++
    "\x7d;\n\n"

def ofTable (settings : Settings) (table : CallTable) : List RecordLayout :=
  table.buffered.map fun (id, call) =>
    { name := settings.recordName call.name, id, fields := call.params }

end RecordLayout

namespace Structures

def idDefinition (settings : Settings) (id : Nat) (call : Call) : String :=
  "#define " ++ settings.commandIdName call.name ++ " " ++ toString id ++ "\n"

/--
The id of each call, followed by the definition of the next layout if that
layout has the same id, and by an empty line otherwise.
-/
def definitions (settings : Settings) : List RecordLayout → List (Nat × Call) → List String
  | _, [] => []
  | [], (id, call) :: rest =>
      idDefinition settings id call :: "\n" :: definitions settings [] rest
  | layout :: later, (id, call) :: rest =>
      if layout.id = id then
        idDefinition settings id call :: layout.definition :: definitions settings later rest
      else
        idDefinition settings id call :: "\n" :: definitions settings (layout :: later) rest

def text (settings : Settings) (table : CallTable) : String :=
  let layouts := RecordLayout.ofTable settings table
  String.join (layouts.map RecordLayout.typedef) ++ "\n" ++
    String.join (definitions settings layouts table.numbered)

end Structures

end CommandProtocol
