import CommandProtocol.Proofs.Numbering
import CommandProtocol.Proofs.TableNames
import Mathlib.Data.List.Zip
import Mathlib.Order.Bounds.Basic

/-!
# Building a table and looking calls up

A list of calls makes a table unless a name repeats, and then the fault names the first call
whose name an earlier one has.  Because no name repeats, looking a name up gives back the
place of the one call that has it: lookup is the inverse of numbering.
-/

namespace CommandProtocol.CallTable

/-! ## The first repeated name -/

/-- The name at the index is also the name at some earlier one. -/
def Repeats (names : List String) (index : Nat) : Prop :=
  ∃ earlier < index, ∃ name, names[earlier]? = some name ∧ names[index]? = some name

def Known (seen names : List String) (index : Nat) : Prop :=
  ∃ name, names[index]? = some name ∧ (name ∈ seen ∨ name ∈ names.take index)

section RepeatedNames

variable {seen rest names : List String} {first name : String} {index : Nat}

@[simp] theorem known_zero : Known seen (first :: rest) 0 ↔ first ∈ seen := by
  simp [Known]

@[simp] theorem known_succ :
    Known seen (first :: rest) (index + 1) ↔ Known (first :: seen) rest index := by
  have moved (name : String) : name ∈ seen ∨ name = first ∨ name ∈ rest.take index ↔
      (name = first ∨ name ∈ seen) ∨ name ∈ rest.take index := by
    rw [or_assoc, or_left_comm]
  simp [Known, moved]

@[simp] theorem known_nil : Known [] names index ↔ Repeats names index := by
  have before (name : String) : name ∈ names.take index ↔
      ∃ earlier < index, names[earlier]? = some name := by
    simp [List.mem_iff_getElem?, List.getElem?_take]
  simp only [Known, Repeats, before, List.not_mem_nil, false_or]
  constructor
  · rintro ⟨name, here, earlier, less, there⟩
    exact ⟨earlier, less, name, there, here⟩
  · rintro ⟨earlier, less, name, there, here⟩
    exact ⟨name, here, earlier, less, there⟩

theorem isLeast_known_succ (fresh : first ∉ seen) :
    IsLeast {place | Known seen (first :: rest) place} (index + 1) ↔
      IsLeast {place | Known (first :: seen) rest place} index := by
  constructor
  · rintro ⟨known, least⟩
    refine ⟨known_succ.mp known, fun place other => ?_⟩
    exact Nat.le_of_succ_le_succ (least (known_succ.mpr other))
  · rintro ⟨known, least⟩
    refine ⟨known_succ.mpr known, fun place other => ?_⟩
    cases place with
    | zero => exact absurd (known_zero.mp other) fresh
    | succ place => exact Nat.succ_le_succ (least (known_succ.mp other))

/-- The scan stops at the first name that it knows. -/
theorem repeatedName?_eq_some : repeatedName? seen names = some name ↔
    ∃ index, IsLeast {place | Known seen names place} index ∧ names[index]? = some name := by
  induction names generalizing seen with
  | nil => simp [repeatedName?]
  | cons first rest ih =>
      rw [repeatedName?]
      split
      · next old =>
          have least : IsLeast {place | Known seen (first :: rest) place} 0 :=
            ⟨known_zero.mpr old, fun _ _ => Nat.zero_le _⟩
          constructor
          · intro same
            exact ⟨0, least, same⟩
          · rintro ⟨index, other, here⟩
            rw [other.unique least] at here
            exact here
      · next fresh =>
          rw [ih]
          constructor
          · rintro ⟨index, least, here⟩
            exact ⟨index + 1, (isLeast_known_succ fresh).mpr least, here⟩
          · rintro ⟨index, least, here⟩
            cases index with
            | zero => exact absurd (known_zero.mp least.1) fresh
            | succ index => exact ⟨index, (isLeast_known_succ fresh).mp least, here⟩

end RepeatedNames

theorem exists_ofCalls_iff {calls : List Call} :
    (∃ table, ofCalls calls = .ok table) ↔ (calls.map Call.name).Nodup := by
  constructor
  · rintro ⟨table, built⟩
    rw [← calls_of_ofCalls built]
    exact table.distinct
  · intro distinct
    exact ⟨⟨calls, distinct⟩, ofCalls_calls ⟨calls, distinct⟩⟩

private theorem ofCalls_eq_error_iff {calls : List Call} {fault : SpecError} :
    ofCalls calls = .error fault ↔
      ∃ name, repeatedName? [] (calls.map Call.name) = some name ∧
        fault = .duplicateCall name := by
  constructor
  · intro failed
    cases repeated : repeatedName? [] (calls.map Call.name) with
    | none =>
        obtain ⟨table, built⟩ := exists_ofCalls_iff.mpr (nodup_of_repeatedName? repeated).1
        rw [built] at failed
        contradiction
    | some name =>
        rw [ofCalls_eq_error repeated] at failed
        exact ⟨name, rfl, (Except.error.inj failed).symm⟩
  · rintro ⟨name, repeated, rfl⟩
    exact ofCalls_eq_error repeated

/-! ## Looking up -/

section Lookup

variable {table : CallTable}

theorem get?_eq_some {index : Nat} {call : Call} (found : table.calls[index]? = some call) :
    table.get? call.name = some (commandId index, call) := by
  obtain ⟨inside, here⟩ := List.getElem?_eq_some_iff.mp found
  have position : index < table.numbered.length := by simpa [numbered] using inside
  rw [get?, List.find?_eq_some_iff_getElem]
  refine ⟨by simp, index, position, by simp [numbered, here], ?_⟩
  intro earlier before
  -- no earlier call has the name
  have different : (table.calls[earlier]).name ≠ call.name := by
    intro same
    have late : index < (table.calls.map Call.name).length := by simpa using inside
    have early : earlier < (table.calls.map Call.name).length := by omega
    have names : (table.calls.map Call.name)[earlier] = (table.calls.map Call.name)[index] := by
      simpa [here] using same
    have positions : earlier = index := table.distinct.getElem_inj_iff.mp names
    omega
  simpa [numbered] using different

private theorem get?_eq_none {name : String} :
    table.get? name = none ↔ ∀ call ∈ table.calls, call.name ≠ name := by
  rw [get?, List.find?_eq_none, ← map_snd_numbered, List.forall_mem_map]
  simp

theorem get?_eq_some_iff (small : table.size < 2 ^ 32 - 1) {name : String} {id : Nat}
    {call : Call} :
    table.get? name = some (id, call) ↔
      0 < id ∧ table.calls[id - 1]? = some call ∧ call.name = name := by
  constructor
  · intro found
    have named : call.name = name := by simpa using List.find?_some found
    obtain ⟨index, here⟩ := List.mem_iff_getElem?.mp (List.mem_of_find?_eq_some found)
    rw [getElem?_numbered small, Option.map_eq_some_iff] at here
    obtain ⟨other, there, same⟩ := here
    cases same
    exact ⟨Nat.succ_pos index, there, named⟩
  · rintro ⟨positive, here, rfl⟩
    have inside : id - 1 < table.size := (List.getElem?_eq_some_iff.mp here).1
    rw [get?_eq_some here, commandId_eq_succ (Nat.lt_trans inside small),
      Nat.sub_add_cancel positive]

private theorem numbered_eq_zip (small : table.size < 2 ^ 32 - 1) :
    table.numbered = (List.range' 1 table.size).zip table.calls := by
  rw [numbered_eq small, List.zipIdx_eq_zip_range', List.zip_swap]
  rfl

private theorem ids_buffered_increasing (small : table.size < 2 ^ 32 - 1) :
    (table.buffered.map Prod.fst).Pairwise (· < ·) := by
  have all : (table.numbered.map Prod.fst).Pairwise (· < ·) := by
    rw [map_fst_numbered small]
    exact List.pairwise_lt_range'
  exact all.sublist (List.filter_sublist.map Prod.fst)

@[simp] theorem mem_buffered {entry : Nat × Call} :
    entry ∈ table.buffered ↔ entry ∈ table.numbered ∧ entry.2.direct = false := by
  simp [buffered, Call.isBuffered]

end Lookup

/-- The ids count the calls of the table from one, and a lookup gives the count back. -/
structure Indexed (table : CallTable) : Prop where
  numbered : table.numbered = (List.range' 1 table.size).zip table.calls
  found_iff : ∀ name id call, table.get? name = some (id, call) ↔
    0 < id ∧ table.calls[id - 1]? = some call ∧ call.name = name
  present : ∀ index call, table.calls[index]? = some call →
    table.get? call.name = some (index + 1, call)
  absent : ∀ name, name ∉ table.calls.map Call.name → table.get? name = none
  buffered_sublist : table.buffered.Sublist table.numbered
  buffered_increasing : (table.buffered.map Prod.fst).Pairwise (· < ·)
  mem_buffered : ∀ entry, entry ∈ table.buffered ↔
    entry ∈ table.numbered ∧ entry.2.direct = false

private theorem indexed_of_small {table : CallTable} (small : table.size < 2 ^ 32 - 1) :
    Indexed table where
  numbered := numbered_eq_zip small
  found_iff _ _ _ := get?_eq_some_iff small
  present index call here :=
    (get?_eq_some_iff small).mpr ⟨Nat.succ_pos index, here, rfl⟩
  absent name missing := by
    refine get?_eq_none.mpr fun call inside same => missing ?_
    exact same ▸ List.mem_map_of_mem inside
  buffered_sublist := List.filter_sublist
  buffered_increasing := ids_buffered_increasing small
  mem_buffered _ := mem_buffered

/--
Calls make a table exactly if their names are distinct, and else the fault is the first name
that an earlier call has.  A table whose ids do not run out is indexed by its names.
-/
theorem ofCalls_builds_index (calls : List Call) :
    ((∃ table, ofCalls calls = .ok table) ↔ (calls.map Call.name).Nodup) ∧
      (∀ fault, ofCalls calls = .error fault ↔
        ∃ index name, IsLeast {place | Repeats (calls.map Call.name) place} index ∧
          (calls.map Call.name)[index]? = some name ∧ fault = .duplicateCall name) ∧
      ∀ table, ofCalls calls = .ok table →
        table.calls = calls ∧ (table.size < 2 ^ 32 - 1 → Indexed table) := by
  refine ⟨exists_ofCalls_iff, fun fault => ?_, fun table built => ?_⟩
  · simp only [ofCalls_eq_error_iff, repeatedName?_eq_some, known_nil]
    constructor
    · rintro ⟨name, ⟨index, least, here⟩, rfl⟩
      exact ⟨index, name, least, here, rfl⟩
    · rintro ⟨index, name, least, here, rfl⟩
      exact ⟨name, ⟨index, least, here⟩, rfl⟩
  · exact ⟨calls_of_ofCalls built, indexed_of_small⟩

theorem ofCalls_builds_index_flush :
    (∃ table, ofCalls [{ name := "Finish" }, { name := "Destroy", direct := true },
        { name := "Flush" }] = .ok table ∧ table.size < 2 ^ 32 - 1 ∧ Indexed table) ∧
      ∃ index, IsLeast {place | Repeats ["Finish", "Destroy", "Flush", "Destroy", "Finish"] place}
        index ∧ ["Finish", "Destroy", "Flush", "Destroy", "Finish"][index]? = some "Destroy" := by
  constructor
  · let table : CallTable :=
      ⟨[{ name := "Finish" }, { name := "Destroy", direct := true }, { name := "Flush" }],
        by decide⟩
    have built : ofCalls table.calls = .ok table := by rfl
    have small : table.size < 2 ^ 32 - 1 := by decide
    exact ⟨table, built, small, ((ofCalls_builds_index _).2.2 table built).2 small⟩
  · let calls : List Call := [{ name := "Finish" }, { name := "Destroy", direct := true },
      { name := "Flush" }, { name := "Destroy" }, { name := "Finish" }]
    have failed : ofCalls calls = .error (.duplicateCall "Destroy") := by rfl
    obtain ⟨index, name, least, here, same⟩ := ((ofCalls_builds_index calls).2.1 _).mp failed
    cases same
    exact ⟨index, least, here⟩

end CommandProtocol.CallTable
