import CommandProtocol.Proofs.Machine
import Mathlib.Data.List.Forall2

/-!
# Delivery of a call

Marshaling a call and playing its message back calls the implementation once, with the
context and the arguments of the caller.  A pointer arrives either as the caller's own
address, while the caller waits, or as the address of a copy of its data in the message.

The proof follows the stores of a body.  After each of them the fields filled so far,
and the data copied so far, are in place; a later store touches neither, because fields
do not overlap and the data grows behind the record.
-/

namespace CommandProtocol.Machine

open ClientCode
open Marshal (Tally Interpreter)
open ReadBack (ArgumentText argumentsOf functionText WrittenPlayback writtenPlayback)

/-! ## Calls that can be marshaled -/

def localNames : List String := ["rsc", "io", "size", "dataSize", "cmd", "payload"]

def isInteger : BaseType → Bool
  | .int _ | .uint _ => true
  | .named name => name == "size_t"
  | .void | .float _ => false

/-- The names that the body of a call relies on are there, and mean what they should. -/
structure Marshalable (call : Call) : Prop where
  contextual : call.noContext = false
  distinct : (call.params.map Variable.name).Nodup
  foreign : ∀ param ∈ call.params, param.name ∉ localNames
  counted : ∀ param ∈ call.params, param.isPointer = true →
    ∃ length ∈ call.params, length.name = param.lengthName ∧
      length.isPointer = false ∧ isInteger length.base = true

/-- The arguments are of the declared kinds; pointers lead into the client's memory. -/
structure Caller.Fits (caller : Caller) (params : List Variable) : Prop where
  pointer : ∀ param ∈ params, param.isPointer = true →
    ∃ position, caller.arguments param.name = .pointer (.client position)
  number : ∀ param ∈ params, param.isPointer = false → isInteger param.base = true →
    ∃ value, caller.arguments param.name = .number value

/-- How an argument reaches the implementation. -/
def Delivered (layout : Layout) (caller : Caller) (copied : Bool) (message : Message)
    (param : Variable) (value : Value) : Prop :=
  if param.isPointer then
    if copied then
      -- A copy of the data, in the bytes of the message behind the record.
      ∃ position offset,
        caller.arguments param.name = .pointer (.client position) ∧
        value = .pointer (.block offset) ∧ layout.size ≤ offset ∧
        (message.bytes.drop offset).take (caller.lengths param.lengthName).toNat =
          caller.memory.read position (caller.lengths param.lengthName).toNat
    else
      value = caller.arguments param.name ∧ message.waits = true
  else
    value = caller.arguments param.name

section Delivery

variable {layouts : String → Layout} {casts : Casts} {caller : Caller}
  {answer : Message → Option Int64}

private theorem exec_eq {statement : Statement} {client : Client}
    (scope : InScope client.declared statement) :
    exec layouts casts caller answer statement client =
      (perform layouts casts caller answer client statement).map fun next =>
        { next with declared := statement.declares ++ client.declared } := by
  rw [exec, if_pos scope]

private theorem perform_dataSize {statement : Statement} {client next : Client}
    (quiet : Interpreter.setsDataSize statement = false)
    (performed : perform layouts casts caller answer client statement = some next) :
    next.tally.dataSize = client.tally.dataSize := by
  cases statement with
  | declareDataSize | addLength term => simp [Interpreter.setsDataSize] at quiet
  | copy source length =>
      simp only [perform, bind, Option.bind_eq_some_iff] at performed
      obtain ⟨position, -, count, -, stored⟩ := performed
      simp only [Option.some.injEq] at stored
      rw [← stored, Tally.copy]
  | advance length | returnResult type =>
      simp only [perform, bind, Option.bind_eq_some_iff] at performed
      obtain ⟨value, -, stored⟩ := performed
      simp only [Option.some.injEq] at stored
      rw [← stored]
  | _ =>
      cases performed
      rfl

theorem keepsDataSize : (interpreter layouts casts caller answer).KeepsDataSize := by
  intro statement client next quiet ran
  simp only [interpreter, exec] at ran ⊢
  split at ran
  · obtain ⟨middle, performed, rfl⟩ := Option.map_eq_some_iff.mp ran
    have fresh : "dataSize" ∉ statement.declares := by
      cases statement <;> simp_all [Statement.declares, Interpreter.setsDataSize]
    simp only [List.mem_append, fresh, false_or, perform_dataSize quiet performed]
  · contradiction

/-! ## Opening -/

theorem runStatements_addLengths {terms : List String} {client : Client}
    (declared : "dataSize" ∈ client.declared)
    (counts : ∀ term ∈ terms, term ∈ client.declared ∧
      (caller.arguments term).count? = some (caller.lengths term)) :
    (interpreter layouts casts caller answer).runStatements (terms.map .addLength) client =
      some { client with
        tally := terms.foldl (fun tally term => tally.add (caller.lengths term))
          client.tally } := by
  induction terms generalizing client with
  | nil => rfl
  | cons term terms ih =>
      obtain ⟨named, count⟩ := counts term List.mem_cons_self
      have scope : InScope client.declared (.addLength term) := by
        simp [InScope, Statement.reads, Statement.declares, declared, named]
      have first : exec layouts casts caller answer (.addLength term) client =
          some { client with tally := client.tally.add (caller.lengths term) } := by
        simp [exec_eq scope, perform, count, Statement.declares]
      rw [List.map_cons, Interpreter.runStatements_cons]
      change (exec layouts casts caller answer (.addLength term) client).bind _ = _
      rw [first, Option.bind_some]
      exact ih declared fun other member => counts other (List.mem_cons_of_mem _ member)

def parameterNames (call : Call) : List String := "rsc" :: call.params.map Variable.name

section Opening

variable {settings : Settings} {call : Call}

theorem Marshalable.scope (sound : Marshalable call) :
    "rsc" ∈ parameterNames call ∧ "io" ∉ parameterNames call ∧
      "size" ∉ parameterNames call ∧ "dataSize" ∉ parameterNames call ∧
      "cmd" ∉ parameterNames call ∧ "payload" ∉ parameterNames call := by
  have free {name : String} (reserved : name ∈ localNames) (other : name ≠ "rsc") :
      name ∉ parameterNames call := by
    rw [parameterNames, List.mem_cons, not_or]
    refine ⟨other, fun member => ?_⟩
    obtain ⟨param, inside, rfl⟩ := List.mem_map.mp member
    exact sound.foreign param inside reserved
  exact ⟨List.mem_cons_self, free (by decide) (by decide), free (by decide) (by decide),
    free (by decide) (by decide), free (by decide) (by decide), free (by decide) (by decide)⟩

private theorem Marshalable.enter_eq (sound : Marshalable call) :
    enter (parametersOf call) = some { declared := parameterNames call } := by
  have fresh : "rsc" ∉ call.params.map Variable.name := by
    intro member
    obtain ⟨param, inside, named⟩ := List.mem_map.mp member
    exact sound.foreign param inside (by simp [named, localNames])
  have nodup : (parameterNames call).Nodup := List.nodup_cons.mpr ⟨fresh, sound.distinct⟩
  have names : (parametersOf call).map Parameter.name = parameterNames call := by
    simp [parametersOf, sound.contextual, parameterNames]
  rw [enter, names]
  exact if_pos nodup

theorem Marshalable.pointer (sound : Marshalable call) (fits : caller.Fits call.params)
    {param : Variable} (inside : param ∈ call.params) (pointer : param.isPointer = true) :
    (∃ position, caller.arguments param.name = .pointer (.client position)) ∧
      param.lengthName ∈ parameterNames call ∧
      (caller.arguments param.lengthName).count? =
        some (caller.lengths param.lengthName) := by
  obtain ⟨length, member, named, plain, integer⟩ := sound.counted param inside pointer
  obtain ⟨value, argument⟩ := fits.number length member plain integer
  refine ⟨fits.pointer param inside pointer, ?_, ?_⟩
  · rw [← named]
    exact List.mem_cons_of_mem _ (List.mem_map_of_mem member)
  · rw [← named, Caller.lengths, argument]
    rfl

def inlineOpened (layouts : String → Layout) (caller : Caller) (settings : Settings)
    (call : Call) : Client :=
  let record := settings.recordName call.name
  { declared := ["payload", "cmd", "dataSize", "size", "io"] ++ parameterNames call
    tally := Tally.reserve
      { size := UInt32.ofNat (layouts record).size
        dataSize := UInt32.ofNat (Tally.payloadLength caller.lengths call) }
      (layouts record).size (some settings.inlineThreshold.toNat)
    record
    cursor := (layouts record).size }

def plainOpened (layouts : String → Layout) (settings : Settings) (call : Call) : Client :=
  let record := settings.recordName call.name
  { declared := ["cmd", "size", "io"] ++ parameterNames call
    tally := Tally.reserve { size := UInt32.ofNat (layouts record).size }
      (layouts record).size none
    record }

private theorem runStatements_opening_plain (sound : Marshalable call)
    (plain : (InlinePlan.ofCall call).isInline = false) :
    (interpreter layouts casts caller answer).runStatements (openingOf settings call)
      { declared := parameterNames call } = some (plainOpened layouts settings call) := by
  simp [openingOf, plain, interpreter, exec, InScope, Statement.reads, Statement.declares, perform,
    sound.scope, plainOpened]

private theorem runStatements_opening_inline (sound : Marshalable call)
    (fits : caller.Fits call.params) (inline : (InlinePlan.ofCall call).isInline = true) :
    (interpreter layouts casts caller answer).runStatements (openingOf settings call)
      { declared := parameterNames call } =
      some (inlineOpened layouts caller settings call) := by
  have sized : (interpreter layouts casts caller answer).runStatements
      [.openBuffer, .declareSize (settings.recordName call.name), .declareDataSize]
      { declared := parameterNames call } =
      some
        { declared := ["dataSize", "size", "io"] ++ parameterNames call
          tally := { size := UInt32.ofNat (layouts (settings.recordName call.name)).size } } := by
    simp [interpreter, exec, InScope, Statement.reads, Statement.declares, perform, sound.scope]
  have counts : ∀ term ∈ (InlinePlan.ofCall call).lengthTerms,
      term ∈ ["dataSize", "size", "io"] ++ parameterNames call ∧
        (caller.arguments term).count? = some (caller.lengths term) := by
    intro term member
    rw [InlinePlan.lengthTerms_of_isInline inline] at member
    obtain ⟨param, pointers, rfl⟩ := List.mem_map.mp member
    obtain ⟨inside, pointer⟩ := List.mem_filter.mp pointers
    obtain ⟨-, named, count⟩ := sound.pointer fits inside pointer
    exact ⟨List.mem_append_right _ named, count⟩
  simp only [openingOf, inline, if_true]
  rw [Interpreter.runStatements_append, Interpreter.runStatements_append, sized, Option.bind_some,
    runStatements_addLengths (by simp) counts, Option.bind_some, Tally.foldl_add,
    ← Tally.payloadLength]
  simp [interpreter, exec, InScope, Statement.reads, Statement.declares, perform, sound.scope,
    inlineOpened]

end Opening

/-! ## Stores -/

structure Kept (before after : Client) : Prop where
  declared : after.declared = before.declared
  record : after.record = before.record
  size : after.tally.size = before.tally.size
  dataSize : after.tally.dataSize = before.tally.dataSize
  reserved : after.tally.reserved = before.tally.reserved
  sent : after.sent = before.sent
  returned : after.returned = before.returned

theorem Kept.trans {first second third : Client} (before : Kept first second)
    (after : Kept second third) : Kept first third where
  declared := after.declared.trans before.declared
  record := after.record.trans before.record
  size := after.size.trans before.size
  dataSize := after.dataSize.trans before.dataSize
  reserved := after.reserved.trans before.reserved
  sent := after.sent.trans before.sent
  returned := after.returned.trans before.returned

section Stores

variable {layout : Layout} {copied : Bool}

/--
The field of a parameter holds a value, which is the argument itself or, for a copied
pointer, the address of its data behind the record and before the cursor.
-/
def Placed (layout : Layout) (caller : Caller) (copied : Bool) (client : Client)
    (param : Variable) (value : Value) : Prop :=
  client.block.read (layout.offset param.name) (layout.width param.name) =
      Layout.parts value (layout.width param.name) ∧
    if copied && param.isPointer then
      ∃ position offset,
        caller.arguments param.name = .pointer (.client position) ∧
        value = .pointer (.block offset) ∧ layout.size ≤ offset ∧
        offset + (caller.lengths param.lengthName).toNat ≤ client.cursor ∧
        client.block.read offset (caller.lengths param.lengthName).toNat =
          caller.memory.read position (caller.lengths param.lengthName).toNat
    else
      value = caller.arguments param.name

theorem Placed.frame {client next : Client} {param : Variable} {value : Value}
    (placed : Placed layout caller copied client param value)
    (field : next.block.read (layout.offset param.name) (layout.width param.name) =
      client.block.read (layout.offset param.name) (layout.width param.name))
    (data : ∀ offset count, layout.size ≤ offset → offset + count ≤ client.cursor →
      next.block.read offset count = client.block.read offset count)
    (advanced : client.cursor ≤ next.cursor) :
    Placed layout caller copied next param value := by
  refine ⟨field.trans placed.1, ?_⟩
  have right := placed.2
  split at right
  · next condition =>
      obtain ⟨position, offset, argument, address, behind, before, same⟩ := right
      rw [if_pos condition]
      exact ⟨position, offset, argument, address, behind, Nat.le_trans before advanced,
        (data offset _ behind before).trans same⟩
  · next condition =>
      rw [if_neg condition]
      exact right

/-- The stores up to some point: the fields that are filled, and where the data ends. -/
structure Filled (layout : Layout) (caller : Caller) (copied : Bool) (done : List Variable)
    (values : List Value) (client : Client) : Prop where
  cursor : copied = true → client.cursor = layout.size +
    ((done.filter Variable.isPointer).map fun param =>
      (caller.lengths param.lengthName).toNat).sum
  placed : List.Forall₂ (Placed layout caller copied client) done values

theorem Filled.snoc {done : List Variable} {values : List Value} {client next : Client}
    {param : Variable} {value : Value}
    (filled : Filled layout caller copied done values client)
    (cursor : copied = true → next.cursor = client.cursor +
      if param.isPointer then (caller.lengths param.lengthName).toNat else 0)
    (kept : ∀ other ∈ done, ∀ old, Placed layout caller copied client other old →
      Placed layout caller copied next other old)
    (placed : Placed layout caller copied next param value) :
    Filled layout caller copied (done ++ [param]) (values ++ [value]) next where
  cursor := by
    intro copying
    rw [cursor copying, filled.cursor copying]
    cases pointer : param.isPointer <;> simp [pointer, Nat.add_assoc]
  placed := by
    obtain ⟨lengths, pairs⟩ := List.forall₂_iff_zip.mp filled.placed
    refine List.rel_append (List.forall₂_iff_zip.mpr ⟨lengths, fun pair => ?_⟩)
      (.cons placed .nil)
    exact kept _ (List.of_mem_zip pair).1 _ (pairs pair)

def storeCopy (layouts : String → Layout) (caller : Caller) (client : Client)
    (param : Variable) (position : Nat) : Client :=
  let count := caller.lengths param.lengthName
  let data := caller.memory.read position count.toNat
  { client with
    tally := client.tally.copy count
    block := (layouts client.record).store (client.block.write client.cursor data)
      param.name (.pointer (.block client.cursor))
    cursor := client.cursor + count.toNat }

section Step

variable {params done : List Variable} {values : List Value} {client : Client}
  {param : Variable}

theorem Filled.storeArgument
    (filled : Filled (layouts client.record) caller copied done values client)
    (holds : (layouts client.record).Holds params) (inside : param ∈ params)
    (earlier : ∀ other ∈ done, other ∈ params ∧ other.name ≠ param.name)
    (plain : (copied && param.isPointer) = false) :
    Filled (layouts client.record) caller copied (done ++ [param])
      (values ++ [caller.arguments param.name])
      (storeField layouts client param.name (caller.arguments param.name)) := by
  refine filled.snoc ?_ ?_ ⟨Layout.read_store_self _ _ _ _, by simp [plain]⟩
  · intro copying
    have value : param.isPointer = false := by simpa [copying] using plain
    simp [value, storeField]
  · intro other member old placed
    obtain ⟨known, distinct⟩ := earlier other member
    exact placed.frame (holds.read_store_field inside known distinct _ _)
      (fun offset count behind _ => holds.read_store_behind inside _ _ behind)
      (Nat.le_refl _)

theorem Filled.storeCopy
    (filled : Filled (layouts client.record) caller true done values client)
    (holds : (layouts client.record).Holds params) (inside : param ∈ params)
    (earlier : ∀ other ∈ done, other ∈ params ∧ other.name ≠ param.name)
    (pointer : param.isPointer = true) {position : Nat}
    (argument : caller.arguments param.name = .pointer (.client position)) :
    Filled (layouts client.record) caller true (done ++ [param])
      (values ++ [.pointer (.block client.cursor)])
      (storeCopy layouts caller client param position) := by
  have behind : (layouts client.record).size ≤ client.cursor := by
    rw [filled.cursor rfl]
    exact Nat.le_add_right _ _
  refine filled.snoc ?_ ?_ ⟨Layout.read_store_self _ _ _ _, ?_⟩
  · intro _
    simp [pointer, Machine.storeCopy]
  · intro other member old placed
    obtain ⟨known, distinct⟩ := earlier other member
    refine placed.frame ?_ ?_ (Nat.le_add_right _ _)
    · -- The data lies behind the record, so it covers no field.
      have field := holds.inside other known
      exact (holds.read_store_field inside known distinct _ _).trans
        (Memory.read_write_apart _ (.inl (by omega)))
    · intro offset count after before
      exact (holds.read_store_behind inside _ _ after).trans
        (Memory.read_write_apart _ (.inl before))
  · simp only [pointer, Bool.and_true, if_true]
    refine ⟨position, client.cursor, argument, rfl, behind, Nat.le_refl _, ?_⟩
    have written := Memory.read_write_self client.block client.cursor
      (caller.memory.read position (caller.lengths param.lengthName).toNat)
    rw [Memory.length_read] at written
    exact (holds.read_store_behind inside _ _ behind).trans written

private theorem runStatements_store (holds : (layouts client.record).Holds params)
    (inside : param ∈ params)
    (earlier : ∀ other ∈ done, other ∈ params ∧ other.name ≠ param.name)
    (cmd : "cmd" ∈ client.declared) (named : param.name ∈ client.declared)
    (data : copied = true → param.isPointer = true →
      "payload" ∈ client.declared ∧ param.lengthName ∈ client.declared ∧
      (∃ position, caller.arguments param.name = .pointer (.client position)) ∧
      (caller.arguments param.lengthName).count? = some (caller.lengths param.lengthName))
    (filled : Filled (layouts client.record) caller copied done values client) :
    ∃ next value,
      (interpreter layouts casts caller answer).runStatements
        (storeOf copied param) client = some next ∧
      Kept client next ∧
      Filled (layouts client.record) caller copied (done ++ [param]) (values ++ [value])
        next := by
  cases copying : copied && param.isPointer with
  | false =>
      refine ⟨storeField layouts client param.name (caller.arguments param.name),
        caller.arguments param.name, ?_, ⟨rfl, rfl, rfl, rfl, rfl, rfl, rfl⟩,
        filled.storeArgument holds inside earlier copying⟩
      simp [storeOf, copying, interpreter, exec, InScope, Statement.reads, Statement.declares,
        perform, cmd, named, storeField]
  | true =>
      obtain ⟨rfl, pointer⟩ := (Bool.and_eq_true _ _).mp copying
      obtain ⟨payload, counter, ⟨position, argument⟩, count⟩ := data rfl pointer
      refine ⟨storeCopy layouts caller client param position,
        .pointer (.block client.cursor), ?_, ⟨rfl, rfl, rfl, rfl, rfl, rfl, rfl⟩,
        filled.storeCopy holds inside earlier pointer argument⟩
      simp [storeOf, pointer, interpreter, exec, InScope, Statement.reads, Statement.declares,
        perform, cmd, named, payload, counter, argument, count, Value.clientPosition?,
        storeField, storeCopy]

end Step

variable (casts answer) in
/-- All parameters are stored; the induction is on those still to come. -/
theorem runStatements_stores {call : Call} (sound : Marshalable call)
    (fits : caller.Fits call.params) {done rest : List Variable} {values : List Value}
    {client : Client} (holds : (layouts client.record).Holds call.params)
    (split : done ++ rest = call.params)
    (cmd : "cmd" ∈ client.declared) (payload : copied = true → "payload" ∈ client.declared)
    (names : ∀ name ∈ parameterNames call, name ∈ client.declared)
    (filled : Filled (layouts client.record) caller copied done values client) :
    ∃ next received,
      (interpreter layouts casts caller answer).runStatements
        (rest.flatMap (storeOf copied)) client = some next ∧
      Kept client next ∧
      Filled (layouts client.record) caller copied call.params received next := by
  induction rest generalizing done values client with
  | nil =>
      rw [List.append_nil] at split
      exact ⟨client, values, rfl, ⟨rfl, rfl, rfl, rfl, rfl, rfl, rfl⟩, split ▸ filled⟩
  | cons param rest ih =>
      have inside : param ∈ call.params := by simp [← split]
      -- Names are distinct, so this store leaves the fields of the earlier ones alone.
      have earlier : ∀ other ∈ done, other ∈ call.params ∧ other.name ≠ param.name := by
        intro other member
        refine ⟨by simp [← split, member], fun same => ?_⟩
        have distinct := sound.distinct
        rw [← split, List.map_append, List.map_cons, List.nodup_append] at distinct
        exact distinct.2.2 _ (List.mem_map_of_mem member) _ List.mem_cons_self same
      have named : param.name ∈ client.declared :=
        names _ (List.mem_cons_of_mem _ (List.mem_map_of_mem inside))
      obtain ⟨middle, value, first, kept, placed⟩ := runStatements_store holds inside earlier
        cmd named (fun copying pointer =>
          have ⟨position, counter, count⟩ := sound.pointer fits inside pointer
          ⟨payload copying, names _ counter, position, count⟩) filled
      rw [← kept.record] at holds placed
      rw [← kept.declared] at cmd payload names
      obtain ⟨next, received, later, kept_later, complete⟩ :=
        ih holds (by simpa using split) cmd payload names placed
      refine ⟨next, received, ?_, kept.trans kept_later, kept.record ▸ complete⟩
      rw [List.flatMap_cons, Interpreter.runStatements_append, first]
      exact later

/-! ## Playback -/

private theorem Filled.loads {params : List Variable} {received : List Value} {client : Client}
    (filled : Filled layout caller copied params received client)
    (holds : layout.Holds params) {length : Nat} (long : layout.size ≤ length) :
    List.Forall₂ (fun param value =>
      layout.load (client.block.read 0 length) param.name = some value) params received := by
  obtain ⟨lengths, pairs⟩ := List.forall₂_iff_zip.mp filled.placed
  refine List.forall₂_iff_zip.mpr ⟨lengths, fun {param value} pair => ?_⟩
  have member := (List.of_mem_zip pair).1
  apply Layout.load_eq_some (holds.occupied param member)
  rw [Memory.take_drop_read _ (Nat.le_trans (holds.inside param member) long)]
  exact (pairs pair).1

theorem Filled.delivered {params : List Variable} {received : List Value} {client : Client}
    (filled : Filled layout caller copied params received client) {message : Message}
    {length : Nat} (committed : message.bytes = client.block.read 0 length)
    (complete : copied = true → client.cursor ≤ length)
    (waits : copied = false → (∃ param ∈ params, param.isPointer = true) →
      message.waits = true) :
    List.Forall₂ (Delivered layout caller copied message) params received := by
  obtain ⟨lengths, pairs⟩ := List.forall₂_iff_zip.mp filled.placed
  refine List.forall₂_iff_zip.mpr ⟨lengths, fun {param value} pair => ?_⟩
  have right := (pairs pair).2
  cases pointer : param.isPointer with
  | false => simpa [Delivered, pointer] using right
  | true =>
      cases copied with
      | false =>
          have mode := waits rfl ⟨param, (List.of_mem_zip pair).1, pointer⟩
          simpa [Delivered, pointer, mode] using right
      | true =>
          simp only [Bool.true_and, pointer, if_true] at right
          obtain ⟨position, offset, argument, address, behind, before, same⟩ := right
          simp only [Delivered, pointer, if_true]
          refine ⟨position, offset, argument, address, behind, ?_⟩
          rw [committed, Memory.take_drop_read _ (Nat.le_trans before (complete rfl)), same]

private theorem mapM_loadArgument {message : Message} {params : List Variable}
    {received : List Value}
    (loaded : List.Forall₂ (fun param value =>
      layout.load message.bytes param.name = some value) params received) :
    (params.map fun param => .field param.name).mapM (loadArgument layout message) =
      some received := by
  induction loaded with
  | nil => rfl
  | cons field _ ih => simp [List.mapM_cons, loadArgument, field, ih]

private theorem play_eq {settings : Settings} {call : Call} (contextual : call.noContext = false)
    {message : Message} {received : List Value}
    (loaded : List.Forall₂ (fun param value =>
      (layouts (settings.recordName call.name)).load message.bytes param.name = some value)
      call.params received) :
    play layouts (functionText settings call) message =
      some ⟨settings.implPrefix ++ call.name, .context message.context :: received⟩ := by
  have context : argumentsOf call =
      .context :: call.params.map fun param => .field param.name := by
    simp [argumentsOf, contextual]
  have fields := mapM_loadArgument loaded
  rw [Settings.recordName] at fields
  simp only [play, functionText, context, List.mapM_cons, fields, Option.bind_eq_bind]
  rfl

end Stores

/-! ## The whole run -/

section Run

variable {settings : Settings} {call : Call}

def copiesData (caller : Caller) (settings : Settings) (call : Call) : Bool :=
  copies call
    (decide (Tally.payloadLength caller.lengths call < settings.inlineThreshold.toNat))

theorem isInline_of_copiesData (copied : copiesData caller settings call = true) :
    (InlinePlan.ofCall call).isInline = true := by
  rw [copiesData, copies, Bool.and_eq_true] at copied
  exact copied.1

def messageLength (layouts : String → Layout) (caller : Caller) (settings : Settings)
    (call : Call) : Nat :=
  (layouts (settings.recordName call.name)).size +
    if copiesData caller settings call then Tally.payloadLength caller.lengths call else 0

structure Opened (layouts : String → Layout) (caller : Caller) (settings : Settings)
    (call : Call) (client : Client) : Prop where
  record : client.record = settings.recordName call.name
  names : ∀ name ∈ parameterNames call, name ∈ client.declared
  common : "io" ∈ client.declared ∧ "size" ∈ client.declared ∧ "cmd" ∈ client.declared
  size : client.tally.size.toNat = (layouts (settings.recordName call.name)).size
  reserved : client.tally.reserved = messageLength layouts caller settings call
  fresh : client.sent = [] ∧ client.returned = none
  inline : (InlinePlan.ofCall call).isInline = true →
    "dataSize" ∈ client.declared ∧ "payload" ∈ client.declared ∧
    client.tally.dataSize.toNat = Tally.payloadLength caller.lengths call ∧
    client.cursor = (layouts (settings.recordName call.name)).size

variable (casts answer) in
private theorem exists_opened (sound : Marshalable call) (fits : caller.Fits call.params)
    (bounded : (layouts (settings.recordName call.name)).size +
      Tally.payloadLength caller.lengths call < 2 ^ 32) :
    ∃ client,
      (interpreter layouts casts caller answer).runStatements (openingOf settings call)
        { declared := parameterNames call } = some client ∧
      Opened layouts caller settings call client := by
  have record_size :
      (UInt32.ofNat (layouts (settings.recordName call.name)).size).toNat =
        (layouts (settings.recordName call.name)).size := by
    rw [UInt32.toNat_ofNat', Nat.mod_eq_of_lt (by omega)]
  have data_size : (UInt32.ofNat (Tally.payloadLength caller.lengths call)).toNat =
      Tally.payloadLength caller.lengths call := by
    rw [UInt32.toNat_ofNat', Nat.mod_eq_of_lt (by omega)]
  cases inline : (InlinePlan.ofCall call).isInline with
  | false =>
      refine ⟨_, runStatements_opening_plain sound inline, ?_⟩
      exact
        { record := rfl
          names := fun name member => List.mem_append_right _ member
          common := by simp [plainOpened]
          size := record_size
          reserved := by
            simp [plainOpened, Tally.reserve, messageLength, copiesData, copies, inline]
          fresh := ⟨rfl, rfl⟩
          inline := by simp [inline] }
  | true =>
      refine ⟨_, runStatements_opening_inline sound fits inline, ?_⟩
      exact
        { record := rfl
          names := fun name member => List.mem_append_right _ member
          common := by simp [inlineOpened]
          size := record_size
          reserved := by
            simp only [inlineOpened, Tally.reserve, messageLength, copiesData, copies,
              inline, Bool.true_and, decide_eq_true_eq, UInt32.toNat_add,
              record_size, data_size]
            split
            · exact Nat.mod_eq_of_lt bounded
            · rfl
          fresh := ⟨rfl, rfl⟩
          inline := fun _ => ⟨by simp [inlineOpened], by simp [inlineOpened], data_size, rfl⟩ }

private theorem Opened.filled_nil {client : Client}
    (opened : Opened layouts caller settings call client) :
    Filled (layouts client.record) caller (copiesData caller settings call) [] [] client where
  cursor copied := by
    rw [(opened.inline (isInline_of_copiesData copied)).2.2.2, opened.record]
    rfl
  placed := .nil

private theorem exec_commit {copied : Bool} {client : Client}
    (common : "io" ∈ client.declared ∧ "size" ∈ client.declared)
    (dataSize : copied = true → "dataSize" ∈ client.declared) :
    (interpreter layouts casts caller answer).exec (commitOf settings call copied) client =
      some (send caller answer client (!copied && waits call)
        (settings.commandIdName call.name)
        (if copied then client.tally.size + client.tally.dataSize
          else client.tally.size).toNat) := by
  cases copied <;>
    simp_all [interpreter, exec, InScope, commitOf, Statement.reads,
      Statement.declares, perform, send]

private theorem committed_length {client : Client}
    (opened : Opened layouts caller settings call client)
    (bounded : (layouts (settings.recordName call.name)).size +
      Tally.payloadLength caller.lengths call < 2 ^ 32) :
    (if copiesData caller settings call then client.tally.size + client.tally.dataSize
      else client.tally.size).toNat = messageLength layouts caller settings call := by
  rw [messageLength]
  split
  · next copied =>
      obtain ⟨-, -, dataSize, -⟩ := opened.inline (isInline_of_copiesData copied)
      rw [UInt32.toNat_add, opened.size, dataSize]
      exact Nat.mod_eq_of_lt bounded
  · exact opened.size

/-- The client after its commit: one message, from which every value can be read. -/
structure Committed (layouts : String → Layout) (caller : Caller)
    (answer : Message → Option Int64) (settings : Settings) (call : Call) (client : Client)
    (message : Message) (received : List Value) : Prop where
  io : "io" ∈ client.declared
  returned : client.returned = none
  sent : client.sent = [message]
  reserved : message.bytes.length = client.tally.reserved
  slot : client.slot = if message.waits then answer message else none
  id : message.id = settings.commandIdName call.name
  waits : message.waits = (!copiesData caller settings call && waits call)
  played : play layouts (functionText settings call) message =
    some ⟨settings.implPrefix ++ call.name, .context caller.context :: received⟩
  delivered : List.Forall₂ (Delivered (layouts (settings.recordName call.name)) caller
    (copiesData caller settings call) message) call.params received

variable (casts answer) in
private theorem exists_committed (sound : Marshalable call) (fits : caller.Fits call.params)
    (holds : (layouts (settings.recordName call.name)).Holds call.params)
    (bounded : (layouts (settings.recordName call.name)).size +
      Tally.payloadLength caller.lengths call < 2 ^ 32)
    {client : Client} (opened : Opened layouts caller settings call client) :
    ∃ next message received,
      (interpreter layouts casts caller answer).runStatements
        (call.params.flatMap (storeOf (copiesData caller settings call)) ++
          [commitOf settings call (copiesData caller settings call)]) client =
        some next ∧
      Committed layouts caller answer settings call next message received := by
  obtain ⟨io, size, cmd⟩ := opened.common
  have data (copied : copiesData caller settings call = true) :=
    opened.inline (isInline_of_copiesData copied)
  rw [← opened.record] at holds
  obtain ⟨filled, received, stores, kept, complete⟩ := runStatements_stores casts answer sound fits
    holds (List.nil_append _) cmd (fun copied => (data copied).2.1) opened.names opened.filled_nil
  have length := committed_length opened bounded
  rw [← kept.size, ← kept.dataSize] at length
  have ran : (interpreter layouts casts caller answer).runStatements
      (call.params.flatMap (storeOf (copiesData caller settings call)) ++
        [commitOf settings call (copiesData caller settings call)]) client =
      some (send caller answer filled
        (!copiesData caller settings call && waits call)
        (settings.commandIdName call.name) (messageLength layouts caller settings call)) := by
    rw [Interpreter.runStatements_append, stores, Option.bind_some, Interpreter.runStatements_cons,
      exec_commit (by rw [kept.declared]; exact ⟨io, size⟩)
        (fun copied => by rw [kept.declared]; exact (data copied).1), length]
    rfl
  rw [opened.record] at holds complete
  refine ⟨_, _, received, ran,
    { io := by rw [← kept.declared] at io; exact io
      returned := kept.returned.trans opened.fresh.2
      sent := by rw [send, kept.sent, opened.fresh.1]; rfl
      reserved := ?_
      slot := rfl
      id := rfl
      waits := rfl
      played := ?_
      delivered := ?_ }⟩
  · exact (Memory.length_read _ _ _).trans (opened.reserved.symm.trans kept.reserved.symm)
  · exact play_eq sound.contextual (complete.loads holds (Nat.le_add_right _ _))
  · refine complete.delivered rfl (fun copied => ?_) (fun whole pointers => ?_)
    · rw [complete.cursor copied, messageLength, if_pos copied,
        Tally.payloadLength_of_isInline caller.lengths (isInline_of_copiesData copied)]
    · have some_pointer : call.hasPointerParams = true := List.any_eq_true.mpr pointers
      simp [whole, waits, some_pointer]

private theorem copies_eq_copiesData {client : Client}
    (opened : Opened layouts caller settings call client) :
    copies call (decide (client.tally.dataSize < settings.inlineThreshold)) =
      copiesData caller settings call := by
  cases inline : (InlinePlan.ofCall call).isInline with
  | false => simp [copies, copiesData, inline]
  | true =>
      obtain ⟨-, -, dataSize, -⟩ := opened.inline inline
      rw [copiesData, ← dataSize]
      rfl

def invocationOf (settings : Settings) (call : Call) (caller : Caller) (received : List Value) :
    Invocation :=
  ⟨settings.implPrefix ++ call.name, .context caller.context :: received⟩

def returnedOf (casts : Casts) (call : Call) (value : Value) : Option Value :=
  if call.returnsValue then some (casts.result call.result.cType (casts.word value)) else none

private theorem runStatements_return {implementation : Invocation → Value} {client : Client}
    {message : Message} {received : List Value}
    (committed : Committed layouts caller
      (Machine.answer layouts casts (functionText settings call) implementation)
      settings call client message received) :
    (interpreter layouts casts caller
        (Machine.answer layouts casts (functionText settings call) implementation)).runStatements
      (returnOf call) client =
      some { client with
        returned := returnedOf casts call
          (implementation (invocationOf settings call caller received)) } := by
  cases returns : call.returnsValue with
  | false => simp [returnOf, returnedOf, returns, ← committed.returned]
  | true =>
      have whole : copiesData caller settings call = false := copies_of_returnsValue call returns
      have waiting : message.waits = true := by
        simp [committed.waits, whole, waits, returns]
      have slot : client.slot =
          some (casts.word (implementation (invocationOf settings call caller received))) := by
        rw [committed.slot, if_pos waiting, Machine.answer, committed.played]
        simp [functionText, returns, invocationOf]
      simp [returnOf, returnedOf, returns, interpreter, exec, InScope, Statement.reads,
        Statement.declares, perform, committed.io, slot]

end Run

end Delivery

/--
Marshaling followed by playback delivers the call.  The client function sends one message,
and the playback function calls the implementation on it with the context and the arguments
in declared order.  Values arrive unchanged, pointers as copies of their data or, while the
client waits, as they are.  A result comes back through the two casts: the playback function
casts it to the word that the return slot holds, and the client function casts that word to
its result type.
-/
theorem marshal_then_playback (settings : Settings) (call : Call)
    (layouts : String → Layout) (casts : Casts) (caller : Caller)
    (implementation : Invocation → Value)
    (generated : call.handcoded = false) (sound : Marshalable call)
    (fits : caller.Fits call.params)
    (holds : (layouts (settings.recordName call.name)).Holds call.params)
    (bounded : (layouts (settings.recordName call.name)).size +
      Tally.payloadLength caller.lengths call < 2 ^ 32) :
    ∃ code function,
      Written settings call code ∧ WrittenPlayback settings call function ∧
      ∃ client message received,
        runClient layouts casts caller (answer layouts casts function implementation) code =
          some client ∧
        client.sent = [message] ∧
        message.id = settings.commandIdName call.name ∧
        message.bytes.length = client.tally.reserved ∧
        play layouts function message =
          some ⟨settings.implPrefix ++ call.name, .context caller.context :: received⟩ ∧
        List.Forall₂ (Delivered (layouts (settings.recordName call.name)) caller
          (copiesData caller settings call) message) call.params received ∧
        client.returned =
          if call.returnsValue then
            some (casts.result call.result.cType (casts.word (implementation
              ⟨settings.implPrefix ++ call.name, .context caller.context :: received⟩)))
          else none := by
  let respond := answer layouts casts (functionText settings call) implementation
  obtain ⟨opened_client, opening, opened⟩ := exists_opened casts respond sound fits bounded
  obtain ⟨next, message, received, ran, committed⟩ :=
    exists_committed casts respond sound fits holds bounded opened
  refine ⟨ofCall settings call, functionText settings call, written_ofCall settings generated,
    writtenPlayback settings call,
    { next with
      returned := returnedOf casts call
        (implementation (invocationOf settings call caller received)) },
    message, received, ?_, committed.sent, committed.id, committed.reserved,
    committed.played, committed.delivered, rfl⟩
  have known (inline : (InlinePlan.ofCall call).isInline = true) :
      (interpreter layouts casts caller respond).dataSize? opened_client =
        some opened_client.tally.dataSize :=
    if_pos (opened.inline inline).1
  change (enter (parametersOf call)).bind
    ((interpreter layouts casts caller respond).run (ofCall settings call).blocks) = _
  rw [sound.enter_eq, Option.bind_some,
    Interpreter.run_ofCall keepsDataSize settings call opening known,
    copies_eq_copiesData opened, fillingPath, List.append_cons,
    Interpreter.runStatements_append, ran, Option.bind_some, runStatements_return committed]

/-! ## Two pointers whose lengths are declared crosswise, and a result -/

def blendCall : Call where
  name := "Blend"
  params :=
    [ { base := .void, pointers := 1, isConst := true, name := "source" },
      { base := .uint 32, name := "mask_length" },
      { base := .float 32, pointers := 1, isConst := true, name := "mask" },
      { base := .named "size_t", name := "source_length" } ]

def blendLayout : Layout where
  size := 32
  offset name :=
    if name = "source" then 0 else if name = "mask_length" then 8
    else if name = "mask" then 16 else 24
  width name := if name = "mask_length" then 4 else 8

def blendCaller : Caller where
  context := 7
  arguments name :=
    if name = "source" then .pointer (.client 100) else if name = "mask_length" then .number 12
    else if name = "mask" then .pointer (.client 40) else .number 5
  memory position := .plain (UInt8.ofNat position)

def countCall : Call where
  name := "Count"
  result := { base := .int 32 }
  params := [{ base := .int 32, name := "start" }]

def countCaller : Caller where
  context := 7
  arguments _ := .number 40
  memory _ := .plain 0

/-- A number is kept as a word, up to its high bits; nothing else has a word. -/
def numberCasts : Casts where
  word
    | .number value => Int64.ofInt value
    | _ => 0
  result _ word := .number word.toInt

theorem marshal_then_playback_blend :
    (∃ code function, Written {} blendCall code ∧ WrittenPlayback {} blendCall function ∧
      ∃ client message received,
        runClient (fun _ => blendLayout) numberCasts blendCaller
          (answer (fun _ => blendLayout) numberCasts function fun _ => .number 0) code =
          some client ∧
        client.sent = [message] ∧
        play (fun _ => blendLayout) function message =
          some ⟨"rsi_Blend", .context 7 :: received⟩ ∧
        List.Forall₂ (Delivered blendLayout blendCaller true message) blendCall.params received) ∧
      ∃ code function, Written {} countCall code ∧ WrittenPlayback {} countCall function ∧
        ∃ client,
          runClient (fun _ => ⟨4, fun _ => 0, fun _ => 4⟩) numberCasts countCaller
            (answer (fun _ => ⟨4, fun _ => 0, fun _ => 4⟩) numberCasts function
              fun _ => .number 41) code = some client ∧
          client.returned = some (.number 41) := by
  constructor
  · have fits : blendCaller.Fits blendCall.params := by
      constructor <;> simp [blendCall, blendCaller, Variable.isPointer, isInteger]
    obtain ⟨code, function, written, played, client, message, received, ran, sent, -, -, call,
      delivered, -⟩ := marshal_then_playback {} blendCall (fun _ => blendLayout) numberCasts
        blendCaller (fun _ => .number 0) rfl ⟨rfl, by decide, by decide, by decide⟩ fits
        ⟨by decide, by decide, by decide⟩ (by decide)
    exact ⟨code, function, written, played, client, message, received, ran, sent, call, delivered⟩
  · have fits : countCaller.Fits countCall.params := by
      constructor <;> simp [countCall, countCaller, Variable.isPointer, isInteger]
    obtain ⟨code, function, written, played, client, message, received, ran, -, -, -, -, -,
      returned⟩ := marshal_then_playback {} countCall (fun _ => ⟨4, fun _ => 0, fun _ => 4⟩)
        numberCasts countCaller (fun _ => .number 41) rfl
        ⟨rfl, by decide, by decide, by decide⟩ fits ⟨by decide, by decide, by decide⟩ (by decide)
    exact ⟨code, function, written, played, client, ran, returned.trans (by decide)⟩

end CommandProtocol.Machine
