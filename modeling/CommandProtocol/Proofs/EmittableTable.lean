import CommandProtocol.Proofs.Companions
import CommandProtocol.Proofs.InlinePlan
import CommandProtocol.Proofs.ParsedTable

/-!
# What the generated code relies on

Nothing is checked when files are generated from a table: names are written as they are, a
result type is taken to be bare, and the size of copied data is the sum of parameters that are
taken to be there.  Tables that come from a spec have all of this.
-/

namespace CommandProtocol

/-- A call whose code can be generated without any check. -/
structure Call.Emittable (call : Call) : Prop where
  name : IsName call.name
  paramNames : ∀ param ∈ call.params, IsName param.name
  bareResult : call.result.name = ""
  bases : ∀ type ∈ call.result :: call.params, type.base.WellFormed
  lengths : ∀ param ∈ call.params, 0 < param.pointers →
    ∃ length ∈ call.params, length.name = param.name ++ "_length"
  lengthTerms : ∀ term ∈ (InlinePlan.ofCall call).lengthTerms,
    ∃ param ∈ call.params, param.name = term

/-- The lengths of the pointers are all that well-formed calls may lack. -/
theorem Call.WellFormed.emittable {call : Call} (fit : call.WellFormed)
    (declared : ∀ param ∈ call.params, param.isPointer = true →
      ∃ length ∈ call.params, length.name = param.lengthName) : call.Emittable where
  name := isIdentifier_iff.mp fit.name
  paramNames param inside := isIdentifier_iff.mp (fit.params param inside).name
  bareResult := fit.result.bare
  bases := by
    rw [List.forall_mem_cons]
    exact ⟨fit.result.base, fun param inside => (fit.params param inside).base⟩
  lengths param inside pointer := declared param inside (decide_eq_true pointer)
  lengthTerms := by
    intro term listed
    obtain ⟨param, inside, pointer, rfl⟩ := InlinePlan.mem_lengthTerms listed
    exact declared param inside pointer

private theorem Spec.Block.exists_length (block : Block) {param : Variable}
    (inside : param ∈ block.call.params) (pointer : param.isPointer = true) :
    ∃ length ∈ block.call.params, length.name = param.lengthName :=
  Variable.declares_iff.mp (Variable.declares_withLengths inside pointer)

/-- The calls of a table that comes from a spec have distinct names and can be generated. -/
theorem Spec.parse_emittable {text : String} {table : CallTable}
    (parsed : parse text = .ok table) :
    (table.calls.map Call.name).Nodup ∧ ∀ call ∈ table.calls, call.Emittable := by
  refine ⟨table.distinct, fun call known => ?_⟩
  obtain ⟨tokens, -, -, calls⟩ := parse_ok parsed
  have read := known
  rw [calls] at read
  obtain ⟨block, -, rfl⟩ := List.mem_map.mp read
  exact (parse_wellFormed parsed _ known).emittable fun _ => block.exists_length

def retypedSpec : String :=
  "Put \x7b ret float\n param const void *p\n ret void\n\x7d\n" ++
    "Tag \x7b\n param uint016_t t_length\n param const _c2 *t \x7d"

def retypedTable : CallTable where
  calls :=
    [ { name := "Put",
        params :=
          [ { base := .void, pointers := 1, isConst := true, name := "p" },
            { base := .named "size_t", name := "p_length" } ] },
      { name := "Tag",
        params :=
          [ { base := .uint 16, name := "t_length" },
            { base := .named "_c2", pointers := 1, isConst := true, name := "t" } ] } ]
  distinct := by decide

theorem Spec.parse_emittable_retyped :
    parse retypedSpec = .ok retypedTable ∧
      retypedTable.calls.map (fun call => (InlinePlan.ofCall call).lengthTerms) =
        [["p_length"], ["t_length"]] ∧
      (retypedTable.calls.map Call.name).Nodup ∧ ∀ call ∈ retypedTable.calls, call.Emittable := by
  have parsed : parse retypedSpec = .ok retypedTable := rfl
  exact ⟨parsed, by decide, parse_emittable parsed⟩

end CommandProtocol
