import CommandProtocol.Proofs.MarshalPath
import CommandProtocol.Spec
import Mathlib.Algebra.Ring.Nat

/-!
# Bytes reserved and bytes copied

The sizes of a marshaling body are 32-bit words, while a length is as wide as the type
it is declared with, up to 64 bits.  This file runs a body on sizes alone: what the
words `size` and `dataSize` hold, how many bytes are reserved, and how many are copied
behind the record.  The copied bytes fit into the reservation exactly if the record and
all lengths together stay below 2^32.
-/

namespace CommandProtocol.Marshal

open ClientCode

/-! ## Running a body -/

structure Interpreter (State : Type) where
  exec : Statement → State → Option State
  dataSize? : State → Option UInt32

namespace Interpreter

variable {State : Type} (interpreter : Interpreter State)

def runStatements (statements : List Statement) (state : State) : Option State :=
  statements.foldlM (fun state statement => interpreter.exec statement state) state

def runBlock (block : Block) (state : State) : Option State :=
  match block with
  | .always statement => interpreter.exec statement state
  | .ifBelow limit below above => do
      let dataSize ← interpreter.dataSize? state
      interpreter.runStatements (if dataSize.toNat < limit then below else above) state

def run (blocks : List Block) (state : State) : Option State :=
  blocks.foldlM (fun state block => interpreter.runBlock block state) state

@[simp] theorem runStatements_nil (state : State) :
    interpreter.runStatements [] state = some state := rfl

@[simp] theorem runStatements_cons (statement : Statement) (statements : List Statement)
    (state : State) :
    interpreter.runStatements (statement :: statements) state =
      (interpreter.exec statement state).bind (interpreter.runStatements statements) := rfl

@[simp] theorem runStatements_append (first second : List Statement) (state : State) :
    interpreter.runStatements (first ++ second) state =
      (interpreter.runStatements first state).bind (interpreter.runStatements second) := by
  simp [runStatements, List.foldlM_append]
  rfl

@[simp] theorem run_append (first second : List Block) (state : State) :
    interpreter.run (first ++ second) state =
      (interpreter.run first state).bind (interpreter.run second) := by
  simp [run, List.foldlM_append]
  rfl

@[simp] theorem run_map_always (statements : List Statement) (state : State) :
    interpreter.run (statements.map .always) state =
      interpreter.runStatements statements state := by
  rw [run, List.foldlM_map]
  rfl

def setsDataSize : Statement → Bool
  | .declareDataSize | .addLength _ => true
  | _ => false

def KeepsDataSize : Prop :=
  ∀ statement state next, setsDataSize statement = false →
    interpreter.exec statement state = some next →
      interpreter.dataSize? next = interpreter.dataSize? state

variable {interpreter}

theorem KeepsDataSize.runStatements (keeps : interpreter.KeepsDataSize)
    {statements : List Statement} {state next : State}
    (steady : ∀ statement ∈ statements, setsDataSize statement = false)
    (ran : interpreter.runStatements statements state = some next) :
    interpreter.dataSize? next = interpreter.dataSize? state := by
  induction statements generalizing state with
  | nil =>
      rw [runStatements_nil, Option.some.injEq] at ran
      rw [ran]
  | cons statement statements ih =>
      rw [runStatements_cons, Option.bind_eq_some_iff] at ran
      obtain ⟨middle, first, rest⟩ := ran
      rw [ih (fun other member => steady other (List.mem_cons_of_mem _ member)) rest,
        keeps statement state middle (steady statement List.mem_cons_self) first]

def Steady (limit : Nat) : Block → Prop
  | .always statement => setsDataSize statement = false
  | .ifBelow tested below above =>
      tested = limit ∧ ∀ statement ∈ below ++ above, setsDataSize statement = false

private theorem Steady.setsDataSize_branch {limit : Nat} {block : Block}
    (steady : Steady limit block) (small : Bool) :
    ∀ statement ∈ block.branch small, setsDataSize statement = false := by
  intro statement member
  cases block with
  | always only =>
      rw [Block.branch, List.mem_singleton] at member
      rw [member]
      exact steady
  | ifBelow tested below above =>
      apply steady.2
      rw [Block.branch] at member
      split at member <;> simp [member]

private theorem runBlock_eq_runStatements {limit : Nat} {dataSize : UInt32} {block : Block}
    {state : State}
    (known : interpreter.dataSize? state = some dataSize) (steady : Steady limit block) :
    interpreter.runBlock block state =
      interpreter.runStatements (block.branch (decide (dataSize.toNat < limit))) state := by
  cases block with
  | always statement =>
      cases ran : interpreter.exec statement state <;> simp [runBlock, Block.branch, ran]
  | ifBelow tested below above =>
      obtain ⟨rfl, -⟩ := steady
      simp [runBlock, Block.branch, known]

/-- Once the data size is known, a body runs along one of its two paths. -/
theorem run_eq_runStatements_path (keeps : interpreter.KeepsDataSize)
    {limit : Nat} {dataSize : UInt32} {blocks : List Block} {state : State}
    (known : interpreter.dataSize? state = some dataSize)
    (steady : ∀ block ∈ blocks, Steady limit block) :
    interpreter.run blocks state =
      interpreter.runStatements (path (decide (dataSize.toNat < limit)) blocks) state := by
  induction blocks generalizing state with
  | nil => rfl
  | cons block rest ih =>
      have first : Steady limit block := steady block List.mem_cons_self
      change (interpreter.runBlock block state).bind (interpreter.run rest) =
        interpreter.runStatements
          (block.branch (decide (dataSize.toNat < limit)) ++
            path (decide (dataSize.toNat < limit)) rest) state
      rw [runBlock_eq_runStatements known first, runStatements_append]
      -- The branch keeps the data size, so that all later tests end as the first one.
      have quiet := first.setsDataSize_branch (decide (dataSize.toNat < limit))
      cases ran :
          interpreter.runStatements (block.branch (decide (dataSize.toNat < limit))) state with
      | none => rfl
      | some next =>
          exact ih (by rw [keeps.runStatements quiet ran, known])
            fun other member => steady other (List.mem_cons_of_mem _ member)

private theorem steady_fillingOf (settings : Settings) {call : Call}
    (inline : (InlinePlan.ofCall call).isInline = true) :
    ∀ block ∈ fillingOf settings call, Steady settings.inlineThreshold.toNat block := by
  have void := (InlinePlan.ofCall_of_isInline inline).2.1
  intro block member
  simp only [fillingOf, inline, if_true, returnOf, void, Bool.false_eq_true, if_false,
    List.map_nil, List.append_nil, List.mem_append, List.mem_map, List.mem_singleton] at member
  rcases member with ⟨param, -, rfl⟩ | rfl
  · cases pointer : param.isPointer <;>
      simp [storeBlock, storeOf, pointer, Steady, setsDataSize]
  · simp [Steady, setsDataSize, commitOf]

/--
A body opens, and then takes the path that the data size decides.  A call without an
inline plan has no data size and only one path.
-/
theorem run_ofCall (keeps : interpreter.KeepsDataSize) (settings : Settings) (call : Call)
    {start opened : State} {dataSize : UInt32}
    (opening : interpreter.runStatements (openingOf settings call) start = some opened)
    (known : (InlinePlan.ofCall call).isInline = true →
      interpreter.dataSize? opened = some dataSize) :
    interpreter.run (ofCall settings call).blocks start =
      interpreter.runStatements (fillingPath settings call
        (copies call (decide (dataSize < settings.inlineThreshold)))) opened := by
  rw [ofCall, run_append, run_map_always, opening, Option.bind_some, ← path_fillingOf]
  cases inline : (InlinePlan.ofCall call).isInline with
  | true =>
      exact run_eq_runStatements_path keeps (known inline) (steady_fillingOf settings inline)
  | false =>
      rw [path_fillingOf, copies, inline, Bool.false_and, fillingOf_eq_map inline,
        run_map_always]

end Interpreter

/-! ## Sizes -/

structure Tally where
  size : UInt32 := 0
  dataSize : UInt32 := 0
  reserved : Nat := 0
  copied : Nat := 0
  deriving DecidableEq, Repr

namespace Tally

def add (tally : Tally) (count : UInt64) : Tally :=
  { tally with dataSize := tally.dataSize + count.toUInt32 }

def reserve (tally : Tally) (recordSize : Nat) (limit : Option Nat) : Tally :=
  { tally with
    reserved :=
      match limit with
      | none => recordSize
      | some limit =>
          if tally.dataSize.toNat < limit then (tally.size + tally.dataSize).toNat
          else tally.size.toNat }

def copy (tally : Tally) (count : UInt64) : Tally :=
  { tally with copied := tally.copied + count.toNat }

variable (sizeOf : String → Nat) (lengths : String → UInt64)

def exec : Statement → Tally → Tally
  | .declareSize record, tally => { tally with size := UInt32.ofNat (sizeOf record) }
  | .declareDataSize, tally => { tally with dataSize := 0 }
  | .addLength term, tally => tally.add (lengths term)
  | .reserve record limit, tally => tally.reserve (sizeOf record) limit
  | .copy _ length, tally => tally.copy (lengths length)
  | _, tally => tally

def interpreter : Interpreter Tally where
  exec statement tally := some (exec sizeOf lengths statement tally)
  dataSize? tally := some tally.dataSize

def run (blocks : List Block) : Option Tally := (interpreter sizeOf lengths).run blocks {}

theorem keepsDataSize : (interpreter sizeOf lengths).KeepsDataSize := by
  intro statement state next quiet ran
  cases statement <;>
    simp_all [interpreter, exec, Interpreter.setsDataSize, reserve, copy] <;>
    simp [← ran]

/-- The true sum of the lengths in a call's plan; without a plan there is nothing to copy. -/
def payloadLength (call : Call) : Nat :=
  ((InlinePlan.ofCall call).lengthTerms.map fun term => (lengths term).toNat).sum

theorem payloadLength_of_isInline {call : Call}
    (inline : (InlinePlan.ofCall call).isInline = true) :
    payloadLength lengths call =
      ((call.params.filter Variable.isPointer).map fun param =>
        (lengths param.lengthName).toNat).sum := by
  rw [payloadLength, InlinePlan.lengthTerms_of_isInline inline, List.map_map]
  rfl

theorem foldl_add (tally : Tally) (terms : List String) :
    terms.foldl (fun tally term => tally.add (lengths term)) tally =
      { tally with
        dataSize := tally.dataSize +
          UInt32.ofNat (terms.map fun term => (lengths term).toNat).sum } := by
  induction terms generalizing tally with
  | nil => simp
  | cons term terms ih =>
      rw [List.foldl_cons, ih, add, List.map_cons, List.sum_cons, UInt32.ofNat_add,
        UInt32.add_assoc]
      rfl

@[simp] theorem runStatements_addLengths (terms : List String) (tally : Tally) :
    (interpreter sizeOf lengths).runStatements (terms.map .addLength) tally =
      some (terms.foldl (fun tally term => tally.add (lengths term)) tally) := by
  induction terms generalizing tally with
  | nil => rfl
  | cons term terms ih => exact ih (tally.add (lengths term))

private theorem runStatements_opening (settings : Settings) {call : Call}
    (inline : (InlinePlan.ofCall call).isInline = true) :
    (interpreter sizeOf lengths).runStatements (openingOf settings call) {} =
      some (Tally.reserve
        { size := UInt32.ofNat (sizeOf (settings.recordName call.name))
          dataSize := UInt32.ofNat (payloadLength lengths call) }
        (sizeOf (settings.recordName call.name)) (some settings.inlineThreshold.toNat)) := by
  have sized : (interpreter sizeOf lengths).runStatements
      [.openBuffer, .declareSize (settings.recordName call.name), .declareDataSize] {} =
      some { size := UInt32.ofNat (sizeOf (settings.recordName call.name)) } := rfl
  simp only [openingOf, inline, if_true]
  rw [Interpreter.runStatements_append, Interpreter.runStatements_append, sized, Option.bind_some,
    runStatements_addLengths, Option.bind_some, foldl_add, ← payloadLength, UInt32.zero_add]
  rfl

theorem runStatements_stores (copied : Bool) (params : List Variable) (tally : Tally) :
    (interpreter sizeOf lengths).runStatements (params.flatMap (storeOf copied)) tally =
      some { tally with
        copied := tally.copied +
          if copied then
            ((params.filter Variable.isPointer).map fun param =>
              (lengths param.lengthName).toNat).sum
          else 0 } := by
  induction params generalizing tally with
  | nil => cases copied <;> simp
  | cons param rest ih =>
      rw [List.flatMap_cons, Interpreter.runStatements_append]
      cases copied with
      | false =>
          change (interpreter sizeOf lengths).runStatements (rest.flatMap (storeOf false))
            tally = _
          rw [ih]
          simp
      | true =>
          cases pointer : param.isPointer with
          | false =>
              simp only [storeOf, pointer, Bool.and_false, Bool.false_eq_true, if_false,
                Interpreter.runStatements_cons]
              change (interpreter sizeOf lengths).runStatements (rest.flatMap (storeOf true))
                tally = _
              rw [ih]
              simp [pointer]
          | true =>
              simp only [storeOf, pointer, Bool.and_true, if_true]
              change (interpreter sizeOf lengths).runStatements (rest.flatMap (storeOf true))
                (tally.copy (lengths param.lengthName)) = _
              rw [ih]
              simp [copy, pointer, Nat.add_assoc]

private theorem run_of_isInline (settings : Settings) {call : Call}
    (inline : (InlinePlan.ofCall call).isInline = true) :
    run sizeOf lengths (ofCall settings call).blocks =
      some
        { size := UInt32.ofNat (sizeOf (settings.recordName call.name))
          dataSize := UInt32.ofNat (payloadLength lengths call)
          reserved :=
            (sizeOf (settings.recordName call.name) +
              if UInt32.ofNat (payloadLength lengths call) < settings.inlineThreshold then
                payloadLength lengths call
              else 0) % 2 ^ 32
          copied :=
            if UInt32.ofNat (payloadLength lengths call) < settings.inlineThreshold then
              payloadLength lengths call
            else 0 } := by
  have opened := runStatements_opening sizeOf lengths settings inline
  have stores (copied : Bool) (tally : Tally) :=
    runStatements_stores sizeOf lengths copied call.params tally
  have commit (copied : Bool) (tally : Tally) :
      (interpreter sizeOf lengths).runStatements
        (commitOf settings call copied :: returnOf call) tally = some tally := by
    rw [returnOf, (InlinePlan.ofCall_of_isInline inline).2.1]
    cases copied <;> rfl
  rw [run, Interpreter.run_ofCall (keepsDataSize sizeOf lengths) settings call opened
    (fun _ => rfl), fillingPath, Interpreter.runStatements_append, stores,
    Option.bind_some, commit, copies, inline, Bool.true_and,
    ← payloadLength_of_isInline lengths inline, reserve]
  generalize payloadLength lengths call = total
  have test : (UInt32.ofNat total).toNat < settings.inlineThreshold.toNat ↔
      UInt32.ofNat total < settings.inlineThreshold := UInt32.lt_iff_toNat_lt.symm
  by_cases small : UInt32.ofNat total < settings.inlineThreshold
  · simp [-UInt32.toNat_ofNat', test, small, ← UInt32.ofNat_add]
    rfl
  · simp [-UInt32.toNat_ofNat', test, small]
    rfl

end Tally

/--
When a call copies its data, the copied bytes stay inside the reservation exactly if
the record and all lengths together fit into 32 bits.
-/
theorem copied_fits_iff (settings : Settings) (call : Call)
    (inline : (InlinePlan.ofCall call).isInline = true)
    (sizeOf : String → Nat) (lengths : String → UInt64) :
    (call.handcoded = false → Written settings call (ofCall settings call)) ∧
      ∃ final, Tally.run sizeOf lengths (ofCall settings call).blocks = some final ∧
        (final.dataSize < settings.inlineThreshold →
          (sizeOf (settings.recordName call.name) + final.copied ≤ final.reserved ↔
            sizeOf (settings.recordName call.name) + Tally.payloadLength lengths call <
              2 ^ 32)) := by
  refine ⟨written_ofCall settings, _, Tally.run_of_isInline sizeOf lengths settings inline,
    fun small => ?_⟩
  simp only at small
  simp only [small, if_true]
  generalize sizeOf (settings.recordName call.name) + Tally.payloadLength lengths call = bytes
  constructor
  · intro fits
    exact Nat.lt_of_le_of_lt fits (Nat.mod_lt bytes (by decide))
  · intro bounded
    exact Nat.le_of_eq (Nat.mod_eq_of_lt bounded).symm

theorem copied_fits_iff_hundred :
    let call : Call :=
      { name := "Upload"
        params :=
          [ { base := .uint 8, pointers := 1, isConst := true, name := "data" },
            { base := .uint 32, name := "data_length" } ] }
    (InlinePlan.ofCall call).isInline = true ∧
      (call.handcoded = false → Written {} call (ofCall {} call)) ∧
        ∃ final, Tally.run (fun _ => 16) (fun _ => 100) (ofCall {} call).blocks = some final ∧
          (final.dataSize < 1024 →
            (16 + final.copied ≤ final.reserved ↔
              16 + Tally.payloadLength (fun _ => 100) call < 2 ^ 32)) :=
  ⟨rfl, copied_fits_iff {} _ rfl (fun _ => 16) (fun _ => 100)⟩

/--
A length of 2^32 bytes counts as no data at all, so everything is copied behind a
reservation that has room for the record alone.
-/
theorem copy_overruns_reservation :
    let call : Call :=
      { name := "A"
        params :=
          [ { base := .void, pointers := 1, isConst := true, name := "p" },
            { base := .named "size_t", name := "p_length" } ] }
    Spec.parse "A \x7b\n    param const void *p\n\x7d\n" = .ok ⟨[call], by simp⟩ ∧
      (InlinePlan.ofCall call).isInline = true ∧ Written {} call (ofCall {} call) ∧
      ∃ final,
        Tally.run (fun _ => 16) (fun _ => 4294967296) (ofCall {} call).blocks = some final ∧
        final.dataSize < 1024 ∧ ¬ 16 + final.copied ≤ final.reserved :=
  ⟨by rfl, rfl, written_ofCall {} rfl, _, rfl, by decide, by decide⟩

end CommandProtocol.Marshal
