import CommandProtocol.InlinePlan

/-!
# What an inline plan says about a call

A call has an inline plan exactly if nothing stands against it: then it returns nothing, and
its payload is the list of all its pointers.  Otherwise the plan names what stands against it
first.
-/

namespace CommandProtocol

theorem Call.returnsValue_iff {call : Call} :
    call.returnsValue = true ↔ ¬ (call.result.base = .void ∧ call.result.pointers = 0) := by
  rw [returnsValue, Variable.isVoid, Variable.isPointer]
  cases call.result.pointers <;> simp

namespace InlinePlan

/-! ## Payloads -/

def IsUnfit (param : Variable) : Prop :=
  0 < param.pointers ∧ (param.isConst = false ∨ 2 ≤ param.pointers)

instance : DecidablePred IsUnfit := fun _ => inferInstanceAs (Decidable (_ ∧ _))

def unfitness (param : Variable) : Obstacle :=
  if param.isConst then .multiLevelPointer param.name else .mutablePointer param.name

section Payload

variable {param : Variable} {params : List Variable}

private theorem payload_cons_of_isUnfit (unfit : IsUnfit param) :
    payload (param :: params) = .error (unfitness param) := by
  obtain ⟨pointer, reason⟩ := unfit
  cases constant : param.isConst with
  | false => simp [payload, unfitness, Variable.isPointer, pointer, constant]
  | true =>
      have several : 1 < param.pointers := by
        rcases reason with mutable | several
        · rw [constant] at mutable
          contradiction
        · exact several
      simp [payload, unfitness, constant, several]

private theorem payload_cons_of_not_isUnfit (fit : ¬ IsUnfit param) :
    payload (param :: params) = (payload params).map fun pointers =>
      if param.isPointer then param :: pointers else pointers := by
  have constant : (param.isPointer && !param.isConst) = false := by
    cases constant : param.isConst with
    | true => simp
    | false => simpa [IsUnfit, Variable.isPointer, constant] using fit
  have single : ¬ 1 < param.pointers := fun several => fit ⟨by omega, .inr several⟩
  -- a pointer that is not unfit is constant
  have same : param.isConstPointer = param.isPointer := by
    cases pointer : param.isPointer <;> simp_all [Variable.isConstPointer]
  rw [payload, constant, same]
  simp only [Bool.false_eq_true, if_false, single]
  cases payload params <;> rfl

/-- The payload is given up at the first unfit pointer; without one it is all pointers. -/
theorem payload_eq (params : List Variable) :
    payload params = match params.find? fun param => IsUnfit param with
      | some param => .error (unfitness param)
      | none => .ok (params.filter Variable.isPointer) := by
  induction params with
  | nil => rfl
  | cons param rest ih =>
      by_cases unfit : IsUnfit param
      · rw [payload_cons_of_isUnfit unfit, List.find?_cons_of_pos (by simpa using unfit)]
      · rw [payload_cons_of_not_isUnfit unfit, List.find?_cons_of_neg (by simpa using unfit), ih,
          List.filter_cons]
        cases rest.find? fun param => IsUnfit param <;> rfl

end Payload

/-! ## Eligible calls -/

/-- Nothing stands against copying the data of the call. -/
structure Eligible (call : Call) : Prop where
  asynchronous : call.sync = false
  returnsNothing : call.result.base = .void ∧ call.result.pointers = 0
  constant : ∀ param ∈ call.params, 0 < param.pointers → param.isConst = true
  singleLevel : ∀ param ∈ call.params, param.pointers < 2
  pointer : ∃ param ∈ call.params, 0 < param.pointers

def firstObstacle (call : Call) : Obstacle :=
  if call.sync then .synchronous
  else if ¬ (call.result.base = .void ∧ call.result.pointers = 0) then .returnsValue
  else
    match call.params.find? fun param => IsUnfit param with
    | some param => unfitness param
    | none => .noPointers

section Eligible

variable {call : Call}

theorem eligible_iff :
    Eligible call ↔ call.sync = false ∧ call.returnsValue = false ∧
      (call.params.find? fun param => IsUnfit param) = none ∧
      call.params.filter Variable.isPointer ≠ [] := by
  have void : call.returnsValue = false ↔
      call.result.base = .void ∧ call.result.pointers = 0 := by
    rw [← Bool.not_eq_true, Call.returnsValue_iff, Decidable.not_not]
  have fit : (call.params.find? fun param => IsUnfit param) = none ↔
      ∀ param ∈ call.params, ¬ IsUnfit param := by simp
  have present : call.params.filter Variable.isPointer ≠ [] ↔
      ∃ param ∈ call.params, 0 < param.pointers := by
    simp [Variable.isPointer, Nat.pos_iff_ne_zero]
  rw [void, fit, present]
  constructor
  · rintro ⟨asynchronous, nothing, constant, single, pointer⟩
    refine ⟨asynchronous, nothing, ?_, pointer⟩
    rintro param member ⟨pointer, mutable | several⟩
    · rw [constant param member pointer] at mutable
      contradiction
    · exact absurd (single param member) (by omega)
  · rintro ⟨asynchronous, nothing, fit, pointer⟩
    refine ⟨asynchronous, nothing, fun param member pointer => ?_, fun param member => ?_, pointer⟩
    · exact (Bool.not_eq_false _).mp fun mutable => fit param member ⟨pointer, .inl mutable⟩
    · exact Nat.lt_of_not_le fun several => fit param member ⟨by omega, .inr several⟩

theorem ofCall_of_eligible (eligible : Eligible call) :
    ofCall call = .inline (call.params.filter Variable.isPointer) := by
  obtain ⟨asynchronous, nothing, fit, present⟩ := eligible_iff.mp eligible
  obtain ⟨first, rest, pointers⟩ := List.exists_cons_of_ne_nil present
  simp [ofCall, asynchronous, nothing, payload_eq, fit, pointers]

theorem ofCall_of_not_eligible (hindered : ¬ Eligible call) :
    ofCall call = .notInline (firstObstacle call) := by
  rw [eligible_iff] at hindered
  rw [ofCall, firstObstacle, payload_eq]
  cases waits : call.sync with
  | true => rfl
  | false =>
      cases returns : call.returnsValue with
      | true => simp [Call.returnsValue_iff.mp returns]
      | false =>
          have void := mt Call.returnsValue_iff.mpr (Bool.eq_false_iff.mp returns)
          cases unfit : call.params.find? fun param => IsUnfit param with
          | some param => simp [void]
          | none =>
              have none : call.params.filter Variable.isPointer = [] := by
                simpa [waits, returns, unfit] using hindered
              simp [void, none]

theorem eligible_of_isInline (inline : (ofCall call).isInline = true) : Eligible call := by
  refine Classical.byContradiction fun hindered => ?_
  rw [ofCall_of_not_eligible hindered] at inline
  contradiction

theorem ofCall_of_isInline (inline : (ofCall call).isInline = true) :
    ofCall call = .inline (call.params.filter Variable.isPointer) ∧
      call.returnsValue = false ∧ call.hasPointerParams = true := by
  have eligible := eligible_of_isInline inline
  obtain ⟨param, member, pointer⟩ := eligible.pointer
  exact ⟨ofCall_of_eligible eligible, (eligible_iff.mp eligible).2.1,
    List.any_eq_true.mpr ⟨param, member, decide_eq_true pointer⟩⟩

theorem lengthTerms_of_isInline (inline : (ofCall call).isInline = true) :
    (ofCall call).lengthTerms =
      (call.params.filter Variable.isPointer).map Variable.lengthName := by
  rw [(ofCall_of_isInline inline).1, lengthTerms]

theorem mem_lengthTerms {term : String}
    (listed : term ∈ (ofCall call).lengthTerms) :
    ∃ param ∈ call.params, param.isPointer = true ∧ param.lengthName = term := by
  cases inline : (ofCall call).isInline with
  | true =>
      rw [lengthTerms_of_isInline inline] at listed
      obtain ⟨param, member, spelled⟩ := List.mem_map.mp listed
      obtain ⟨inside, pointer⟩ := List.mem_filter.mp member
      exact ⟨param, inside, pointer, spelled⟩
  | false =>
      cases plan : ofCall call with
      | inline payload =>
          rw [plan] at inline
          contradiction
      | notInline obstacle =>
          rw [plan] at listed
          contradiction

/--
A call has an inline plan exactly if it is eligible.  The payload is then the list of all its
pointers, in order, and otherwise the plan names the first obstacle.
-/
theorem ofCall_exact (call : Call) :
    ((ofCall call).isInline = true ↔ Eligible call) ∧
      (Eligible call →
        ofCall call = .inline (call.params.filter Variable.isPointer) ∧
          (ofCall call).lengthTerms =
            (call.params.filter Variable.isPointer).map fun param => param.name ++ "_length") ∧
      (¬ Eligible call → ofCall call = .notInline (firstObstacle call)) := by
  refine ⟨⟨eligible_of_isInline, fun eligible => ?_⟩, fun eligible => ?_, ofCall_of_not_eligible⟩
  · rw [ofCall_of_eligible eligible, isInline]
  · rw [ofCall_of_eligible eligible]
    exact ⟨rfl, rfl⟩

def mixedCall : Call where
  name := "Put"
  params :=
    [ { base := .void, pointers := 1, isConst := true, name := "p" },
      { base := .int 32, isConst := true, name := "c" },
      { base := .named "size_t", name := "p_length" },
      { base := .uint 8, pointers := 1, isConst := true, name := "q" } ]

theorem ofCall_exact_mixed :
    (ofCall mixedCall).lengthTerms = ["p_length", "q_length"] ∧
      ofCall (mixedCall.param { base := .void, pointers := 2, isConst := true, name := "r" }) =
        .notInline (.multiLevelPointer "r") := by
  have eligible : Eligible mixedCall := by
    refine ⟨rfl, ⟨rfl, rfl⟩, by decide, by decide, by decide⟩
  have hindered :
      ¬ Eligible (mixedCall.param { base := .void, pointers := 2, isConst := true, name := "r" }) :=
    fun eligible => absurd (eligible.singleLevel _ (List.mem_append_right _ (.head _))) (by decide)
  exact ⟨((ofCall_exact _).2.1 eligible).2, (ofCall_exact _).2.2 hindered⟩

end Eligible

end InlinePlan

end CommandProtocol
