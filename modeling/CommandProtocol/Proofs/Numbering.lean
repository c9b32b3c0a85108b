import CommandProtocol.Record
import Mathlib.Algebra.Ring.Nat
import Mathlib.Data.List.Nodup

/-!
# Command ids of a table

As long as the ids do not run into the largest one, the calls are numbered from one, and
so each record layout meets exactly the call that it was made from.
-/

namespace CommandProtocol

theorem commandId_eq_succ {index : Nat} (small : index < 2 ^ 32 - 1) :
    commandId index = index + 1 := by
  rw [commandId]
  omega

namespace CallTable

variable {table : CallTable}

theorem numbered_eq (small : table.size < 2 ^ 32 - 1) :
    table.numbered = (table.calls.zipIdx 1).map Prod.swap := by
  refine List.ext_getElem (by simp [numbered]) fun index inside _ => ?_
  have bound : index < table.size := by simpa [numbered, size] using inside
  simp [numbered, commandId_eq_succ (Nat.lt_trans bound small), Nat.add_comm]

theorem getElem?_numbered (small : table.size < 2 ^ 32 - 1) (index : Nat) :
    table.numbered[index]? = table.calls[index]?.map fun call => (index + 1, call) := by
  rw [numbered_eq small, List.getElem?_map, List.getElem?_zipIdx, Option.map_map]
  simp [Function.comp_def, Nat.add_comm]

@[simp] theorem map_snd_numbered : table.numbered.map Prod.snd = table.calls := by
  simp [numbered, Function.comp_def]

theorem mem_calls_of_mem_numbered {entry : Nat × Call} (member : entry ∈ table.numbered) :
    entry.2 ∈ table.calls := by
  rw [← map_snd_numbered]
  exact List.mem_map_of_mem member

@[simp] theorem map_snd_buffered :
    table.buffered.map Prod.snd = table.calls.filter Call.isBuffered := by
  rw [← map_snd_numbered, List.filter_map]
  rfl

theorem map_fst_numbered (small : table.size < 2 ^ 32 - 1) :
    table.numbered.map Prod.fst = List.range' 1 table.size := by
  rw [numbered_eq small, List.map_map]
  exact List.zipIdx_map_snd 1 table.calls

private theorem nodup_ids (small : table.size < 2 ^ 32 - 1) :
    (table.numbered.map Prod.fst).Nodup := by
  rw [map_fst_numbered small]
  exact List.nodup_range'

end CallTable

/-! ## Layouts and calls -/

namespace Structures

variable (settings : Settings)

def layout (id : Nat) (call : Call) : RecordLayout :=
  { name := settings.recordName call.name, id, fields := call.params }

/-- What a single call contributes to the structures text. -/
def entryText (id : Nat) (call : Call) : List String :=
  [ idDefinition settings id call,
    if call.direct then "\n" else (layout settings id call).definition ]

private theorem definitions_eq {entries : List (Nat × Call)} (ids : (entries.map Prod.fst).Nodup) :
    definitions settings
      ((entries.filter fun entry => entry.2.isBuffered).map fun entry =>
        layout settings entry.1 entry.2) entries =
      entries.flatMap fun entry => entryText settings entry.1 entry.2 := by
  induction entries with
  | nil => rfl
  | cons entry rest ih =>
      obtain ⟨id, call⟩ := entry
      rw [List.map_cons, List.nodup_cons] at ids
      have later := ih ids.2
      cases direct : call.direct with
      | false =>
          -- a buffered call is the one that the first layout belongs to
          have kept : call.isBuffered = true := by simp [Call.isBuffered, direct]
          have own : (layout settings id call).id = id := rfl
          rw [List.filter_cons, if_pos kept, List.map_cons, definitions, if_pos own, later]
          simp [entryText, direct]
      | true =>
          have dropped : ¬ call.isBuffered = true := by simp [Call.isBuffered, direct]
          rw [List.filter_cons, if_neg dropped, List.flatMap_cons, ← later]
          -- the first layout, if any, has the id of a later call
          cases kept : rest.filter fun entry => entry.2.isBuffered with
          | nil => simp [definitions, entryText, direct]
          | cons next others =>
              have member : next ∈ rest :=
                List.mem_of_mem_filter (kept ▸ List.mem_cons_self)
              have other : (layout settings next.1 next.2).id ≠ id :=
                fun same => ids.1 (List.mem_map.mpr ⟨next, member, same⟩)
              rw [List.map_cons, definitions, if_neg other]
              simp [entryText, direct]

private theorem join_flatMap_entryText (entries : List (Nat × Call)) :
    String.join (entries.flatMap fun entry => entryText settings entry.1 entry.2) =
      String.join (entries.map fun entry => String.join (entryText settings entry.1 entry.2)) := by
  induction entries with
  | nil => rfl
  | cons entry rest ih =>
      rw [List.flatMap_cons, String.join_append, ih, List.map_cons, String.join_cons]

theorem text_eq {table : CallTable} (small : table.size < 2 ^ 32 - 1) :
    text settings table =
      String.join ((RecordLayout.ofTable settings table).map RecordLayout.typedef) ++ "\n" ++
        String.join (table.numbered.map fun entry =>
          String.join (entryText settings entry.1 entry.2)) := by
  have merged : definitions settings (RecordLayout.ofTable settings table) table.numbered = _ :=
    definitions_eq settings (CallTable.nodup_ids small)
  rw [text, merged, join_flatMap_entryText]

end Structures

end CommandProtocol
