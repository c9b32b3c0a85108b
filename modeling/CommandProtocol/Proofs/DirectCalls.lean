import CommandProtocol.Proofs.CallSites

/-!
# Direct calls in the generated sources

The generated sources know a direct call only by its place: the client source has nothing of
it, and the playback source has an empty slot.  So the client source stays the same if the
direct calls are left out, and both sources stay the same if a direct call is replaced by
another one.
-/

namespace CommandProtocol

/-! ## Places -/

namespace CallTable

variable {table : CallTable}

/-- What the sources are made from: the buffered calls, and the places of the direct ones. -/
def places (table : CallTable) : List (Option Call) :=
  table.calls.map fun call => if call.direct then none else some call

@[simp] theorem filterMap_places :
    table.places.filterMap id = table.calls.filter Call.isBuffered := by
  rw [places, List.filterMap_map]
  induction table.calls with
  | nil => rfl
  | cons call rest ih =>
      rw [List.filterMap_cons, List.filter_cons, ih]
      cases direct : call.direct <;> simp [Call.isBuffered, direct]

theorem dispatchLength_eq : table.dispatchLength = table.places.length + 1 := by
  rw [places, List.length_map]
  rfl

private theorem places_eq_of_replace {other : CallTable} {before after : List Call} {old new : Call}
    (here : table.calls = before ++ old :: after) (there : other.calls = before ++ new :: after)
    (old_direct : old.direct = true) (new_direct : new.direct = true) :
    table.places = other.places := by
  simp [places, here, there, old_direct, new_direct]

private theorem exists_ofCalls_buffered (table : CallTable) :
    ∃ core, ofCalls (table.calls.filter Call.isBuffered) = .ok core := by
  have distinct : ((table.calls.filter Call.isBuffered).map Call.name).Nodup :=
    (List.filter_sublist.map Call.name).nodup table.distinct
  exact ⟨⟨_, distinct⟩, ofCalls_calls ⟨_, distinct⟩⟩

end CallTable

def Playback.placeSlot (settings : Settings) : Option Call → Playback.Slot
  | none => .empty
  | some call => .function (Playback.functionName settings call)

theorem Playback.slots_eq (settings : Settings) (table : CallTable) :
    Playback.slots settings table = .empty :: table.places.map (Playback.placeSlot settings) := by
  rw [Playback.slots, CallTable.places, List.map_map]
  refine congrArg (Playback.Slot.empty :: ·) (List.map_congr_left fun call _ => ?_)
  cases direct : call.direct <;> simp [Playback.slot, Playback.placeSlot, direct]

/-! ## The sources -/

section Sources

variable (settings : Settings) {first second : CallTable}

theorem render_clientSource_eq
    (same : first.calls.filter Call.isBuffered = second.calls.filter Call.isBuffered) :
    Artifact.clientSource.render settings first = Artifact.clientSource.render settings second := by
  rw [ReadBack.render_clientSource, ReadBack.render_clientSource, same]

private theorem dispatchTable_eq (same : first.places = second.places) :
    Playback.dispatchTable settings first = Playback.dispatchTable settings second := by
  have slots : Playback.slots settings first = Playback.slots settings second := by
    rw [Playback.slots_eq, Playback.slots_eq, same]
  have length : first.dispatchLength = second.dispatchLength := by
    rw [CallTable.dispatchLength_eq, CallTable.dispatchLength_eq, same]
  unfold Playback.dispatchTable
  rw [slots, length]

private theorem sources_eq (same : first.places = second.places) :
    Artifact.clientSource.render settings first = Artifact.clientSource.render settings second ∧
      Artifact.playbackSource.render settings first =
        Artifact.playbackSource.render settings second := by
  have buffered : first.calls.filter Call.isBuffered = second.calls.filter Call.isBuffered := by
    rw [← CallTable.filterMap_places, same, CallTable.filterMap_places]
  refine ⟨render_clientSource_eq settings buffered, ?_⟩
  rw [ReadBack.render_playbackSource, ReadBack.render_playbackSource, buffered,
    dispatchTable_eq settings same]

end Sources

/-! ## Records -/

def RecordLayout.shape (layout : RecordLayout) : String × List Variable :=
  (layout.name, layout.fields)

theorem RecordLayout.map_shape_ofTable (settings : Settings) (table : CallTable) :
    (RecordLayout.ofTable settings table).map RecordLayout.shape =
      (table.calls.filter Call.isBuffered).map fun call =>
        (settings.recordName call.name, call.params) := by
  rw [RecordLayout.ofTable, ← CallTable.map_snd_buffered, List.map_map, List.map_map]
  rfl

/--
Without its direct calls a table has the same client source, playback functions and record
shapes.  In place of a direct call any other one may stand.
-/
theorem direct_calls_leave_no_trace (settings : Settings) (table : CallTable) :
    (∃ core, CallTable.ofCalls (table.calls.filter Call.isBuffered) = .ok core ∧
      Artifact.clientSource.render settings table = Artifact.clientSource.render settings core ∧
      (∀ either ∈ [table, core],
        Artifact.playbackSource.render settings either =
          ReadBack.sourceOpening settings ++
            (String.join (core.calls.map fun call => (Playback.ofCall settings call).text) ++
              (Playback.dispatchTable settings either ++
                Code.closeNamespaces settings.namespaces))) ∧
      (RecordLayout.ofTable settings table).map RecordLayout.shape =
        (RecordLayout.ofTable settings core).map RecordLayout.shape) ∧
    ∀ before old after new other, table.calls = before ++ old :: after →
      CallTable.ofCalls (before ++ new :: after) = .ok other →
      old.direct = true → new.direct = true →
        Artifact.clientSource.render settings table = Artifact.clientSource.render settings other ∧
        Artifact.playbackSource.render settings table =
          Artifact.playbackSource.render settings other := by
  constructor
  · obtain ⟨core, built⟩ := table.exists_ofCalls_buffered
    have calls := CallTable.calls_of_ofCalls built
    have same : core.calls.filter Call.isBuffered = table.calls.filter Call.isBuffered := by
      simp [calls]
    refine ⟨core, built, render_clientSource_eq settings same.symm, ?_, ?_⟩
    · intro either member
      have buffered : either.calls.filter Call.isBuffered = core.calls := by
        simp only [List.mem_cons, List.not_mem_nil, or_false] at member
        rcases member with rfl | rfl
        · exact calls.symm
        · rw [same, calls]
      rw [ReadBack.render_playbackSource, buffered]
    · rw [RecordLayout.map_shape_ofTable, RecordLayout.map_shape_ofTable, same]
  · intro before old after new other here built old_direct new_direct
    exact sources_eq settings
      (CallTable.places_eq_of_replace here (CallTable.calls_of_ofCalls built) old_direct new_direct)

def peekTable : CallTable where
  calls :=
    [ { name := "Clear", params := [{ base := .float 32, name := "r" }] },
      { name := "Peek", direct := true, result := { base := .uint 32 } },
      { name := "Flush", sync := true } ]
  distinct := by decide

def probeTable : CallTable where
  calls :=
    [ { name := "Clear", params := [{ base := .float 32, name := "r" }] },
      { name := "Probe", direct := true, noContext := true, handcoded := true,
        params := [{ base := .void, pointers := 1, name := "at" }] },
      { name := "Flush", sync := true } ]
  distinct := by decide

theorem direct_calls_leave_no_trace_probe :
    CallTable.ofCalls probeTable.calls = .ok probeTable ∧
      Artifact.clientSource.render {} peekTable = Artifact.clientSource.render {} probeTable ∧
      Artifact.playbackSource.render {} peekTable =
        Artifact.playbackSource.render {} probeTable := by
  have built := CallTable.ofCalls_calls probeTable
  exact ⟨built, (direct_calls_leave_no_trace {} peekTable).2 [_] _ [_] _ probeTable rfl built
    rfl rfl⟩

end CommandProtocol
