import CommandProtocol.Variable
import Mathlib.Data.List.Nodup

/-!
# Length companions

`Variable.withLengths` completes a parameter list: afterwards the length of every pointer
is declared, so that a second pass adds nothing.  No companion takes a name that is in use,
so names that were distinct stay distinct.  Apart from the missing companions, which stand
right behind their pointers, the list is as it was.
-/

namespace CommandProtocol.Variable

variable {params : List Variable}

theorem declares_iff {name : String} :
    declares params name = true ↔ ∃ param ∈ params, param.name = name := by
  simp [declares]

/-! ## Where the companions stand -/

/--
The second list is the first with what it lacks put in: the length of each pointer whose
length is not among the declared names, right behind the pointer.
-/
inductive Completes (declared : List String) : List Variable → List Variable → Prop
  | nil : Completes declared [] []
  | keep {param : Variable} {rest completed : List Variable}
      (needless : param.pointers = 0 ∨ param.name ++ "_length" ∈ declared)
      (later : Completes declared rest completed) :
      Completes declared (param :: rest) (param :: completed)
  | insert {param : Variable} {rest completed : List Variable} (pointer : 0 < param.pointers)
      (missing : param.name ++ "_length" ∉ declared) (later : Completes declared rest completed) :
      Completes declared (param :: rest)
        (param ::
          { base := .named "size_t", pointers := 0, isConst := false,
            name := param.name ++ "_length" } :: completed)

theorem completes_iff {all completed : List Variable} :
    Completes (all.map name) params completed ↔
      completed = params.flatMap fun param =>
        if param.isPointer && !declares all param.lengthName then [param, param.lengthCompanion]
        else [param] := by
  have needed (param : Variable) : (param.isPointer && !declares all param.lengthName) = true ↔
      0 < param.pointers ∧ param.name ++ "_length" ∉ all.map name := by
    rw [Bool.and_eq_true, Bool.not_eq_true', ← Bool.not_eq_true, declares_iff, List.mem_map,
      isPointer, decide_eq_true_iff, lengthName]
  constructor
  · intro complete
    induction complete with
    | nil => rfl
    | keep needless later ih =>
        rw [List.flatMap_cons, if_neg, ih]
        · rfl
        · rw [needed]
          rintro ⟨pointer, missing⟩
          rcases needless with plain | known
          · omega
          · exact missing known
    | insert pointer missing later ih =>
        rw [List.flatMap_cons, if_pos ((needed _).mpr ⟨pointer, missing⟩), ih]
        rfl
  · rintro rfl
    induction params with
    | nil => exact .nil
    | cons param rest ih =>
        rw [List.flatMap_cons]
        split
        · next missing =>
            obtain ⟨pointer, missing⟩ := (needed param).mp missing
            exact .insert pointer missing ih
        · next needless =>
            rw [needed, not_and_or, Nat.not_lt, Nat.le_zero, not_not] at needless
            exact .keep needless ih

private theorem completes_withLengths (params : List Variable) :
    Completes (params.map name) params (withLengths params) :=
  completes_iff.mpr rfl

theorem Completes.sublist {declared : List String} {completed : List Variable}
    (complete : Completes declared params completed) : params.Sublist completed := by
  induction complete with
  | nil => exact .slnil
  | keep _ _ ih => exact ih.cons_cons _
  | insert _ _ _ ih => exact (ih.cons _).cons_cons _

private theorem sublist_withLengths (params : List Variable) :
    params.Sublist (withLengths params) :=
  (completes_withLengths params).sublist

/-! ## What is declared -/

theorem mem_withLengths {param : Variable} :
    param ∈ withLengths params ↔ param ∈ params ∨
      ∃ source ∈ params, source.isPointer = true ∧ declares params source.lengthName = false ∧
        param = source.lengthCompanion := by
  rw [withLengths, List.mem_flatMap]
  constructor
  · rintro ⟨source, inside, member⟩
    split at member
    · next missing =>
        rw [Bool.and_eq_true, Bool.not_eq_true'] at missing
        rcases List.mem_cons.mp member with rfl | member
        · exact .inl inside
        · exact .inr ⟨source, inside, missing.1, missing.2, List.mem_singleton.mp member⟩
    · rw [List.mem_singleton.mp member]
      exact .inl inside
  · rintro (inside | ⟨source, inside, pointer, missing, rfl⟩)
    · refine ⟨param, inside, ?_⟩
      split <;> exact List.mem_cons_self
    · exact ⟨source, inside, by simp [pointer, missing]⟩

theorem declares_withLengths {param : Variable} (inside : param ∈ withLengths params)
    (pointer : param.isPointer = true) :
    declares (withLengths params) param.lengthName = true := by
  rw [declares_iff]
  rcases mem_withLengths.mp inside with inside | ⟨source, -, -, -, rfl⟩
  · cases declared : declares params param.lengthName with
    | true =>
        obtain ⟨other, member, named⟩ := declares_iff.mp declared
        exact ⟨other, mem_withLengths.mpr (.inl member), named⟩
    | false =>
        exact ⟨param.lengthCompanion,
          mem_withLengths.mpr (.inr ⟨param, inside, pointer, declared, rfl⟩), rfl⟩
  · contradiction

private theorem withLengths_eq_self (declared : ∀ param ∈ params, param.isPointer = true →
    declares params param.lengthName = true) : withLengths params = params := by
  have kept : ∀ param ∈ params,
      (if param.isPointer && !declares params param.lengthName then
        [param, param.lengthCompanion] else [param]) = [param] := by
    intro param inside
    refine if_neg ?_
    rw [Bool.and_eq_true, Bool.not_eq_true']
    rintro ⟨pointer, missing⟩
    rw [declared param inside pointer] at missing
    contradiction
  rw [withLengths, List.flatMap_def, List.map_congr_left kept, ← List.flatMap_def]
  exact List.flatMap_singleton' params

@[simp] theorem withLengths_withLengths (params : List Variable) :
    withLengths (withLengths params) = withLengths params :=
  withLengths_eq_self fun _ inside pointer => declares_withLengths inside pointer

/-! ## Names -/

private theorem lengthName_ne_name (param : Variable) : param.lengthName ≠ param.name := by
  intro same
  have lengths := congrArg String.length same
  simp [lengthName] at lengths

private theorem lengthName_injective {first second : Variable}
    (same : first.lengthName = second.lengthName) : first.name = second.name := by
  simpa [lengthName, ← String.toList_inj] using same

@[simp] theorem nodup_names_withLengths :
    ((withLengths params).map name).Nodup ↔ (params.map name).Nodup := by
  refine ⟨fun nodup => nodup.sublist ((sublist_withLengths params).map name), fun nodup => ?_⟩
  have added {param : Variable} {text : String}
      (member : text ∈ (if param.isPointer && !declares params param.lengthName then
        [param, param.lengthCompanion] else [param]).map name) :
      text = param.name ∨ declares params param.lengthName = false ∧ text = param.lengthName := by
    split at member
    · next missing =>
        rw [Bool.and_eq_true, Bool.not_eq_true'] at missing
        simpa [missing.2, lengthCompanion] using member
    · exact .inl (by simpa using member)
  -- A name in use is not the name of a companion.
  have free {param other : Variable} (inside : other ∈ params)
      (missing : declares params param.lengthName = false) : other.name ≠ param.lengthName := by
    intro same
    rw [declares_iff.mpr ⟨other, inside, same⟩] at missing
    contradiction
  rw [withLengths, List.map_flatMap, List.nodup_flatMap]
  refine ⟨fun param _ => ?_, (List.pairwise_map.mp nodup).imp_of_mem fun {first second}
    inside inside_second apart => ?_⟩
  · split
    · simpa [lengthCompanion] using (lengthName_ne_name param).symm
    · simp
  · intro text member member_second
    rcases added member with rfl | ⟨missing, rfl⟩
    · rcases added member_second with same | ⟨missing, same⟩
      · exact apart same
      · exact free inside missing same
    · rcases added member_second with same | ⟨-, same⟩
      · exact free inside_second missing same.symm
      · exact apart (lengthName_injective same)

/-! ## The whole list -/

/--
The missing companions are put in and nothing else is changed.  Then no pointer lacks its
length, a second pass changes nothing, and names are distinct if they were before.
-/
theorem withLengths_adds_missing (params : List Variable) :
    (∀ completed, withLengths params = completed ↔
        Completes (params.map name) params completed) ∧
      (∀ param ∈ withLengths params, 0 < param.pointers →
        ∃ length ∈ withLengths params, length.name = param.name ++ "_length") ∧
      withLengths (withLengths params) = withLengths params ∧
      ((params.map name).Nodup → ((withLengths params).map name).Nodup) := by
  refine ⟨fun completed => ?_, fun param inside pointer => ?_, withLengths_withLengths params,
    nodup_names_withLengths.mpr⟩
  · rw [completes_iff, eq_comm]
    rfl
  · exact declares_iff.mp (declares_withLengths inside (decide_eq_true pointer))

def pointerLengths : List Variable :=
  [ { base := .void, pointers := 1, isConst := true, name := "x" },
    { base := .float 32, name := "y" },
    { base := .uint 32, pointers := 2, name := "x_length" } ]

theorem withLengths_adds_missing_chain :
    withLengths pointerLengths =
        pointerLengths ++ [{ base := .named "size_t", name := "x_length_length" }] ∧
      ((withLengths pointerLengths).map name).Nodup := by
  refine ⟨((withLengths_adds_missing _).1 _).mpr ?_, (withLengths_adds_missing _).2.2.2 (by decide)⟩
  exact .keep (.inr (by decide)) (.keep (.inl rfl) (.insert (by decide) (by decide) .nil))

end CommandProtocol.Variable
