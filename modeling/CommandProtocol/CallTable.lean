import CommandProtocol.Call
import CommandProtocol.Spec.Error

/-!
# The call table

The calls of a protocol in order, with distinct names.  The position of a call
gives its command id; id zero is never used, so that slot zero of the dispatch
table stays empty.
-/

namespace CommandProtocol

structure CallTable where
  calls : List Call
  distinct : (calls.map Call.name).Nodup
  deriving DecidableEq, Repr

/-- Command ids are 32-bit words counted from one; the largest one is sticky. -/
def commandId (index : Nat) : Nat := min (index + 1) 4294967295

namespace CallTable

def repeatedName? (seen : List String) : List String → Option String
  | [] => none
  | name :: rest =>
      if name ∈ seen then some name else repeatedName? (name :: seen) rest

theorem nodup_of_repeatedName? {seen names : List String}
    (unseen : repeatedName? seen names = none) :
    names.Nodup ∧ ∀ name ∈ names, name ∉ seen := by
  induction names generalizing seen with
  | nil => simp
  | cons name rest ih =>
      simp only [repeatedName?] at unseen
      split at unseen
      · contradiction
      · next fresh =>
          obtain ⟨nodup, apart⟩ := ih unseen
          refine ⟨List.nodup_cons.mpr ⟨fun inside => ?_, nodup⟩, ?_⟩
          · exact apart name inside (List.mem_cons_self ..)
          · intro other inside
            rcases List.mem_cons.mp inside with rfl | inside
            · exact fresh
            · exact fun old => apart other inside (List.mem_cons_of_mem _ old)

def ofCalls (calls : List Call) : Except SpecError CallTable :=
  match names : repeatedName? [] (calls.map Call.name) with
  | some name => .error (.duplicateCall name)
  | none => .ok ⟨calls, (nodup_of_repeatedName? names).1⟩

def size (table : CallTable) : Nat := table.calls.length

def isEmpty (table : CallTable) : Bool := table.calls.isEmpty

def numbered (table : CallTable) : List (Nat × Call) :=
  table.calls.zipIdx.map fun (call, index) => (commandId index, call)

def buffered (table : CallTable) : List (Nat × Call) :=
  table.numbered.filter fun (_, call) => call.isBuffered

def get? (table : CallTable) (name : String) : Option (Nat × Call) :=
  table.numbered.find? fun (_, call) => call.name == name

def dispatchLength (table : CallTable) : Nat := table.size + 1

end CallTable

end CommandProtocol
