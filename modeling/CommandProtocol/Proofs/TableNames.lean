import CommandProtocol.CallTable

/-!
# Names of a call table

A list of calls makes a table exactly if no name repeats, and then the table holds the list
unchanged.  Where two tables are joined, the first name of the second that the first table
has as well is the one reported.
-/

namespace CommandProtocol.CallTable

theorem repeatedName?_eq_find? {seen names : List String} (distinct : names.Nodup) :
    repeatedName? seen names = names.find? (· ∈ seen) := by
  induction names generalizing seen with
  | nil => rfl
  | cons name rest ih =>
      rw [List.nodup_cons] at distinct
      rw [repeatedName?, List.find?_cons]
      by_cases known : name ∈ seen
      · simp [known]
      · rw [if_neg known, ih distinct.2, decide_eq_false known, ← List.head?_filter,
          ← List.head?_filter]
        -- the name itself is seen now, but it does not come again
        refine congrArg List.head? (List.filter_congr fun other member => ?_)
        have different : other ≠ name := fun same => distinct.1 (same ▸ member)
        simp [different]

private theorem repeatedName?_append {seen names others : List String}
    (distinct : repeatedName? seen names = none) :
    repeatedName? seen (names ++ others) = repeatedName? (names.reverse ++ seen) others := by
  induction names generalizing seen with
  | nil => rfl
  | cons name rest ih =>
      simp only [repeatedName?] at distinct
      split at distinct
      · contradiction
      · next fresh =>
          rw [List.cons_append, repeatedName?, if_neg fresh, ih distinct]
          simp

theorem repeatedName?_of_nodup {names : List String} (distinct : names.Nodup) :
    repeatedName? [] names = none := by
  rw [repeatedName?_eq_find? distinct]
  simp

theorem ofCalls_eq_error {calls : List Call} {name : String}
    (repeated : repeatedName? [] (calls.map Call.name) = some name) :
    ofCalls calls = .error (.duplicateCall name) := by
  unfold ofCalls
  split
  · next other found => rw [← Option.some.inj (found.symm.trans repeated)]
  · next none_found =>
      rw [none_found] at repeated
      contradiction

theorem duplicateCall_of_ofCalls {calls : List Call} {fault : SpecError}
    (failed : ofCalls calls = .error fault) : ∃ name, fault = .duplicateCall name := by
  unfold ofCalls at failed
  split at failed
  · next name found =>
      cases failed
      exact ⟨name, rfl⟩
  · contradiction

@[simp] theorem ofCalls_calls (table : CallTable) : ofCalls table.calls = .ok table := by
  unfold ofCalls
  split
  · next name found =>
      rw [repeatedName?_of_nodup table.distinct] at found
      contradiction
  · rfl

theorem calls_of_ofCalls {calls : List Call} {table : CallTable}
    (built : ofCalls calls = .ok table) : table.calls = calls := by
  unfold ofCalls at built
  split at built
  · contradiction
  · cases built
    rfl

/-- The calls of two tables make one, unless a name of the second is also in the first. -/
theorem ofCalls_append (first second : CallTable) :
    match (second.calls.map Call.name).find? (· ∈ first.calls.map Call.name) with
    | none => ∃ joined, ofCalls (first.calls ++ second.calls) = .ok joined
    | some name => ofCalls (first.calls ++ second.calls) = .error (.duplicateCall name) := by
  have repeated : repeatedName? [] ((first.calls ++ second.calls).map Call.name) =
      (second.calls.map Call.name).find? (· ∈ first.calls.map Call.name) := by
    rw [List.map_append, repeatedName?_append (repeatedName?_of_nodup first.distinct),
      repeatedName?_eq_find? second.distinct]
    simp
  split
  · next distinct =>
      rw [distinct] at repeated
      exact ⟨⟨_, (nodup_of_repeatedName? repeated).1⟩, ofCalls_calls ⟨_, _⟩⟩
  · next name common =>
      rw [common] at repeated
      exact ofCalls_eq_error repeated

end CommandProtocol.CallTable
