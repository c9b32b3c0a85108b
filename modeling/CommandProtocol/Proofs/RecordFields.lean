import CommandProtocol.Proofs.Companions
import CommandProtocol.Proofs.MarshalPath
import CommandProtocol.Proofs.Numbering
import CommandProtocol.Proofs.ParsedTable

/-!
# Records of a spec

The fields of a record are the parameters that the block of its call declares, with the
length companions between them.  The reader takes parameters as they are written, so a
record has repeated or empty fields where its block declares them.  The companions add no
such field, and on either path of the marshaling body every field is stored once.
-/

namespace CommandProtocol

open ClientCode

/-! ## Companions -/

section Companions

variable {params : List Variable}

theorem Variable.forall_mem_withLengths {property : Variable → Prop}
    (companion : ∀ param : Variable, property param.lengthCompanion) :
    (∀ field ∈ withLengths params, property field) ↔ ∀ param ∈ params, property param := by
  constructor
  · intro all param inside
    exact all param (mem_withLengths.mpr (.inl inside))
  · intro all field member
    rcases mem_withLengths.mp member with inside | ⟨source, -, -, -, rfl⟩
    · exact all field inside
    · exact companion source

private theorem Variable.isVoid_withLengths :
    (∀ field ∈ withLengths params, field.isVoid = false) ↔
      ∀ param ∈ params, param.isVoid = false :=
  forall_mem_withLengths fun _ => rfl

end Companions

/-! ## The record of a block -/

/-- How a record follows from the block that declares its call. -/
structure RecordOf (settings : Settings) (block : Spec.Block) (layout : RecordLayout) : Prop where
  name : layout.name = settings.recordName block.name
  distinct : (layout.fields.map Variable.name).Nodup ↔ (block.params.map Variable.name).Nodup
  valued : (∀ field ∈ layout.fields, field.isVoid = false) ↔
    ∀ param ∈ block.params, param.isVoid = false
  /-- Only the target of a pointer is qualified, if that is so in the parameter statements. -/
  unqualified : (∀ param ∈ block.params, param.isConst = true → param.isPointer = true) →
    ∀ field ∈ layout.fields, field.isConst = true → field.isPointer = true
  stored : block.has .handcoded = false →
    ∃ code, Written settings block.call code ∧
      ∀ small, List.Forall₂ Stores layout.fields
        ((path small code.blocks).filter Statement.isStore)

private theorem recordOf_block (settings : Settings) (block : Spec.Block) (id : Nat) :
    RecordOf settings block (Structures.layout settings id block.call) where
  name := rfl
  distinct := Variable.nodup_names_withLengths
  valued := Variable.isVoid_withLengths
  unqualified := (Variable.forall_mem_withLengths (by simp [Variable.lengthCompanion])).mpr
  stored generated :=
    ⟨ofCall settings block.call, written_ofCall settings generated, fun small =>
      (safePath_ofCall settings block.call small).stores⟩

theorem Spec.calls_of_parse {text : String} {table : CallTable} (parsed : parse text = .ok table) :
    table.calls = (reading text).blocks.map Block.call := by
  obtain ⟨tokens, scanned, -, calls⟩ := parse_ok parsed
  rw [calls, reading, scanned]

/--
The record of every buffered call of a spec is as good as the parameter statements of its
block, and its marshaling body stores each field once.
-/
theorem record_of_parameter_statements (settings : Settings) (text : String) (table : CallTable)
    (parsed : Spec.parse text = .ok table) :
    ∀ layout ∈ RecordLayout.ofTable settings table,
      ∃ block ∈ (Spec.reading text).blocks,
        block.call ∈ table.calls ∧ RecordOf settings block layout := by
  intro layout member
  obtain ⟨⟨id, call⟩, buffered, rfl⟩ := List.mem_map.mp member
  have inside : call ∈ table.calls :=
    CallTable.mem_calls_of_mem_numbered (List.mem_of_mem_filter buffered)
  rw [Spec.calls_of_parse parsed] at inside
  obtain ⟨block, known, rfl⟩ := List.mem_map.mp inside
  refine ⟨block, known, ?_, recordOf_block settings block id⟩
  rw [Spec.calls_of_parse parsed]
  exact List.mem_map_of_mem known

def chainedSpec : String :=
  "Send \x7b\n param const void *a\n param uint8_t *a_length\n\x7d\n"

def chainedTable : CallTable where
  calls :=
    [ { name := "Send",
        params :=
          [ { base := .void, pointers := 1, isConst := true, name := "a" },
            { base := .uint 8, pointers := 1, name := "a_length" },
            { base := .named "size_t", name := "a_length_length" } ] } ]
  distinct := by decide

theorem record_of_parameter_statements_chained :
    Spec.parse chainedSpec = .ok chainedTable ∧
      ∃ layout ∈ RecordLayout.ofTable {} chainedTable,
        ∃ block ∈ (Spec.reading chainedSpec).blocks,
          block.call ∈ chainedTable.calls ∧ RecordOf {} block layout := by
  have parsed : Spec.parse chainedSpec = .ok chainedTable := by rfl
  refine ⟨parsed, _, List.mem_cons_self, ?_⟩
  exact record_of_parameter_statements {} chainedSpec chainedTable parsed _ List.mem_cons_self

def spoiltTable : CallTable where
  calls :=
    [ { name := "Fill",
        params :=
          [ { base := .void, name := "x" },
            { base := .float 32, isConst := true, name := "x" } ] } ]
  distinct := by decide

/-- The reader accepts a call whose record cannot be filled. -/
theorem spoilt_record :
    Spec.parse "Fill \x7b\n param void x\n param const float x\n\x7d\n" = .ok spoiltTable ∧
      ∃ layout ∈ RecordLayout.ofTable {} spoiltTable,
        ¬ (layout.fields.map Variable.name).Nodup ∧
        (∃ field ∈ layout.fields, field.isVoid = true) ∧
        ∃ field ∈ layout.fields, field.isConst = true ∧ field.isPointer = false := by
  refine ⟨by rfl, _, List.mem_cons_self, by decide, ?_, ?_⟩
  · exact ⟨_, List.mem_cons_self, rfl⟩
  · exact ⟨_, List.mem_cons_of_mem _ List.mem_cons_self, rfl, rfl⟩

end CommandProtocol
