import CommandProtocol.Proofs.Reservation

/-!
# A machine for generated code

The generated functions are straight-line programs over a few variables, the record
and the bytes behind it.  This file gives them a meaning.  The client runs the code of a
client function against its own memory and the block that it reserves, and commits the
bytes of the block as a message.  The core runs a playback function on the bytes of a
message.

A stored value occupies the bytes of its field as numbered parts, so a field reads back
as a value only if all its bytes are still there.  Where the fields of a record lie is
not part of the generated code; it is given by a layout for each record type.  Nor is what
a result becomes on its way through the return slot, which holds one word: that is given
by the two casts.
-/

namespace CommandProtocol.Machine

/-! ## Values and memory -/

/-- Pointers lead into the client's memory or into the reserved block. -/
inductive Address where
  | client (position : Nat)
  | block (offset : Nat)
  deriving DecidableEq, Repr

inductive Value where
  | context (handle : Nat)
  | number (value : Int)
  | pointer (address : Address)
  | object (bytes : List UInt8)
  deriving DecidableEq, Repr

namespace Value

def count? : Value → Option UInt64
  | .number value => some (UInt64.ofInt value)
  | _ => none

def clientPosition? : Value → Option Nat
  | .pointer (.client position) => some position
  | _ => none

end Value

inductive Byte where
  | plain (bits : UInt8)
  | part (value : Value) (index : Nat)
  deriving DecidableEq, Repr

abbrev Memory := Nat → Byte

namespace Memory

def read (memory : Memory) (start count : Nat) : List Byte :=
  (List.range count).map fun index => memory (start + index)

def write (memory : Memory) (start : Nat) (bytes : List Byte) : Memory :=
  fun address =>
    if start ≤ address then (bytes[address - start]?).getD (memory address)
    else memory address

@[simp] theorem length_read (memory : Memory) (start count : Nat) :
    (memory.read start count).length = count := by
  simp [read]

@[simp] theorem read_write_self (memory : Memory) (start : Nat) (bytes : List Byte) :
    (memory.write start bytes).read start bytes.length = bytes := by
  apply List.ext_getElem
  · simp
  · intro index _ inside
    simp [read, write, inside]

theorem read_write_apart (memory : Memory) {start other count : Nat} {bytes : List Byte}
    (apart : other + count ≤ start ∨ start + bytes.length ≤ other) :
    (memory.write start bytes).read other count = memory.read other count := by
  apply List.map_congr_left
  intro index member
  rw [List.mem_range] at member
  rw [write]
  split
  · rw [List.getElem?_eq_none (by omega), Option.getD_none]
  · rfl

theorem take_drop_read (memory : Memory) {length start count : Nat}
    (inside : start + count ≤ length) :
    ((memory.read 0 length).drop start).take count = memory.read start count := by
  apply List.ext_getElem
  · simp
    omega
  · intro index _ _
    simp [read]

end Memory

/-! ## Record layouts -/

structure Layout where
  size : Nat
  offset : String → Nat
  width : String → Nat

namespace Layout

/-- The fields lie inside the record, each with bytes of its own. -/
structure Holds (layout : Layout) (fields : List Variable) : Prop where
  occupied : ∀ field ∈ fields, 0 < layout.width field.name
  inside : ∀ field ∈ fields,
    layout.offset field.name + layout.width field.name ≤ layout.size
  apart : ∀ first ∈ fields, ∀ second ∈ fields, first.name ≠ second.name →
    layout.offset first.name + layout.width first.name ≤ layout.offset second.name ∨
      layout.offset second.name + layout.width second.name ≤ layout.offset first.name

def parts (value : Value) (width : Nat) : List Byte :=
  (List.range width).map (.part value)

@[simp] theorem length_parts (value : Value) (width : Nat) :
    (parts value width).length = width := by
  simp [parts]

def store (layout : Layout) (memory : Memory) (field : String) (value : Value) : Memory :=
  memory.write (layout.offset field) (parts value (layout.width field))

@[simp] theorem read_store_self (layout : Layout) (memory : Memory) (field : String)
    (value : Value) :
    (layout.store memory field value).read (layout.offset field) (layout.width field) =
      parts value (layout.width field) := by
  have same := Memory.read_write_self memory (layout.offset field)
    (parts value (layout.width field))
  rwa [length_parts] at same

section Frame

variable {layout : Layout} {fields : List Variable}

theorem Holds.read_store_field (holds : layout.Holds fields) {stored other : Variable}
    (inside : stored ∈ fields) (member : other ∈ fields) (apart : other.name ≠ stored.name)
    (memory : Memory) (value : Value) :
    (layout.store memory stored.name value).read
        (layout.offset other.name) (layout.width other.name) =
      memory.read (layout.offset other.name) (layout.width other.name) := by
  apply Memory.read_write_apart
  rw [length_parts]
  exact holds.apart other member stored inside apart

theorem Holds.read_store_behind (holds : layout.Holds fields) {stored : Variable}
    (inside : stored ∈ fields) (memory : Memory) (value : Value) {start count : Nat}
    (behind : layout.size ≤ start) :
    (layout.store memory stored.name value).read start count = memory.read start count := by
  apply Memory.read_write_apart
  rw [length_parts]
  exact .inr (Nat.le_trans (holds.inside stored inside) behind)

end Frame

/-- The value of a field, if all its bytes are parts of that value. -/
def load (layout : Layout) (bytes : List Byte) (field : String) : Option Value :=
  match (bytes.drop (layout.offset field)).take (layout.width field) with
  | .part value index :: rest =>
      if .part value index :: rest = parts value (layout.width field) then some value else none
  | _ => none

theorem load_eq_some {layout : Layout} {bytes : List Byte} {field : String} {value : Value}
    (occupied : 0 < layout.width field)
    (stored : (bytes.drop (layout.offset field)).take (layout.width field) =
      parts value (layout.width field)) :
    layout.load bytes field = some value := by
  obtain ⟨width, width_eq⟩ : ∃ width, layout.width field = width + 1 :=
    Nat.exists_eq_succ_of_ne_zero (Nat.pos_iff_ne_zero.mp occupied)
  have first : parts value (layout.width field) =
      .part value 0 :: (List.range width).map fun index => .part value (index + 1) := by
    simp [parts, width_eq, List.range_succ_eq_map, Function.comp_def]
  rw [load, stored, first]
  simp [first]

end Layout

/-! ## Casts -/

/-- What becomes of a result that is cast to a word, and of a word that is cast to a type. -/
structure Casts where
  word : Value → Int64
  result : String → Int64 → Value

/-! ## The client side -/

structure Caller where
  context : Nat
  arguments : String → Value
  memory : Memory

def Caller.lengths (caller : Caller) (name : String) : UInt64 :=
  ((caller.arguments name).count?).getD 0

/-- A committed command: the buffer it is sent through, and a copy of its bytes. -/
structure Message where
  context : Nat
  id : String
  waits : Bool
  bytes : List Byte
  deriving DecidableEq, Repr

structure Client where
  declared : List String
  tally : Marshal.Tally := {}
  -- what `cmd` points to, and where `payload` points to in the reserved block
  record : String := ""
  cursor : Nat := 0
  block : Memory := fun _ => .plain 0
  sent : List Message := []
  slot : Option Int64 := none
  returned : Option Value := none

open ClientCode

def InScope (declared : List String) (statement : Statement) : Prop :=
  (∀ name ∈ statement.reads, name ∈ declared) ∧ ∀ name ∈ statement.declares, name ∉ declared

instance (declared : List String) (statement : Statement) :
    Decidable (InScope declared statement) :=
  inferInstanceAs (Decidable (_ ∧ _))

section Client

variable (layouts : String → Layout) (casts : Casts) (caller : Caller)
  (answer : Message → Option Int64)

def storeField (client : Client) (field : String) (value : Value) : Client :=
  { client with block := (layouts client.record).store client.block field value }

/-- Send the bytes of the block; a synchronous commit waits for the core's answer. -/
def send (client : Client) (waits : Bool) (id : String) (length : Nat) : Client :=
  let message : Message :=
    { context := caller.context, id, waits, bytes := client.block.read 0 length }
  { client with
    sent := client.sent ++ [message]
    slot := if waits then answer message else none }

def perform (client : Client) : Statement → Option Client
  | .openBuffer => some client
  | .declareSize record =>
      some { client with
        tally := { client.tally with size := UInt32.ofNat (layouts record).size } }
  | .declareDataSize => some { client with tally := { client.tally with dataSize := 0 } }
  | .addLength term => do
      let count ← (caller.arguments term).count?
      some { client with tally := client.tally.add count }
  | .reserve record limit =>
      some { client with record, tally := client.tally.reserve (layouts record).size limit }
  | .declarePayload => some { client with cursor := (layouts client.record).size }
  | .copy source length => do
      let position ← (caller.arguments source).clientPosition?
      let count ← (caller.arguments length).count?
      some { client with
        tally := client.tally.copy count
        block := client.block.write client.cursor (caller.memory.read position count.toNat) }
  | .storePayload field _ =>
      some (storeField layouts client field (.pointer (.block client.cursor)))
  | .advance length => do
      let count ← (caller.arguments length).count?
      some { client with cursor := client.cursor + count.toNat }
  | .store field source =>
      some (storeField layouts client field (caller.arguments source))
  | .commit waits id withData =>
      let length :=
        if withData then client.tally.size + client.tally.dataSize else client.tally.size
      some (send caller answer client waits id length.toNat)
  | .returnResult type => do
      let word ← client.slot
      some { client with returned := some (casts.result type word) }

def exec (statement : Statement) (client : Client) : Option Client :=
  if InScope client.declared statement then
    (perform layouts casts caller answer client statement).map fun next =>
      { next with declared := statement.declares ++ client.declared }
  else none

def interpreter : Marshal.Interpreter Client where
  exec := exec layouts casts caller answer
  dataSize? client :=
    if "dataSize" ∈ client.declared then some client.tally.dataSize else none

def enter (parameters : List Parameter) : Option Client :=
  let names := parameters.map Parameter.name
  if names.Nodup then some { declared := names } else none

def runClient (code : ClientCode.Function) : Option Client := do
  let client ← enter code.parameters
  (interpreter layouts casts caller answer).run code.blocks client

end Client

/-! ## The core side -/

structure Invocation where
  target : String
  arguments : List Value
  deriving DecidableEq, Repr

open ReadBack (ArgumentText FunctionText)

def loadArgument (layout : Layout) (message : Message) : ArgumentText → Option Value
  | .context => some (.context message.context)
  | .field name => layout.load message.bytes name

def play (layouts : String → Layout) (function : FunctionText) (message : Message) :
    Option Invocation := do
  let arguments ←
    function.arguments.mapM (loadArgument (layouts function.record) message)
  some ⟨function.implementation, arguments⟩

def answer (layouts : String → Layout) (casts : Casts) (function : FunctionText)
    (implementation : Invocation → Value) (message : Message) : Option Int64 :=
  if function.storesResult then
    (play layouts function message).map fun invocation => casts.word (implementation invocation)
  else none

end CommandProtocol.Machine
