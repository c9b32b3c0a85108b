import CommandProtocol.Proofs.HeaderReader
import CommandProtocol.Proofs.MarshalPath
import Mathlib.Data.List.Nodup

/-!
# Agreement between the generated files

Ids, dispatch slots, records and functions are numbered and named in four places, two of
which leave out the direct calls.  Read back from the finished files, all of them agree:
the id of a call is the number of its slot, and the function in that slot expects the
record that the header defines for the call and that its client function commits.

A playback function may have the name `NULL` of an empty slot.  Only then the slots that
are not empty, as far as the text shows, differ from the functions.
-/

namespace CommandProtocol

/-! ## Slots -/

namespace Playback

section Slots

variable (settings : Settings) (table : CallTable)

@[simp] theorem map_text_slots :
    (slots settings table).map Slot.text =
      "NULL" :: table.calls.map fun call =>
        if call.direct then "NULL" else settings.playbackPrefix ++ call.name := by
  rw [slots, List.map_cons, List.map_map]
  refine congrArg _ (List.map_congr_left fun call _ => ?_)
  cases direct : call.direct <;> simp [slot, functionName, Slot.text, direct]

private theorem filter_text_slots :
    ((slots settings table).map Slot.text).filter (· ≠ "NULL") =
      ((table.calls.filter Call.isBuffered).map fun call =>
        settings.playbackPrefix ++ call.name).filter (· ≠ "NULL") := by
  rw [map_text_slots, List.filter_cons_of_neg (by simp)]
  induction table.calls with
  | nil => rfl
  | cons call rest ih =>
      cases direct : call.direct with
      -- The slot of a direct call is empty and left out.
      | true => simpa [Call.isBuffered, direct] using ih
      | false =>
          rw [List.filter_cons_of_pos (by simp [Call.isBuffered, direct]), List.map_cons,
            List.map_cons, List.filter_cons, List.filter_cons, direct, ih]
          rfl

end Slots

end Playback

/-! ## Agreement -/

namespace ReadBack

open ClientCode

/-- What is read from the playback source, the header and the client source fits together. -/
structure Agree (settings : Settings) (table : CallTable) (source : SourceText)
    (header : HeaderText) (client : List Definition) : Prop where
  sizes : header.array = source.array ∧ source.array.2 = source.slots.length
  slot_count : source.slots.length = table.size + 1
  slot_zero : source.slots[0]? = some "NULL"
  entry_count : header.entries.length = table.size
  ids : ∀ index call, table.calls[index]? = some call →
    ∃ entry, header.entries[index]? = some entry ∧
      entry.idName = settings.recordPrefix ++ "ID_" ++ call.name ∧ entry.id = index + 1
  slots : ∀ index call, table.calls[index]? = some call →
    source.slots[index + 1]? =
      some (if call.direct then "NULL" else settings.playbackPrefix ++ call.name)
  functions : source.functions.map FunctionText.name = header.playback
  nodup : header.playback.Nodup
  /-- What stands in the other slots, unless a function has the name of the empty slot. -/
  filled : source.slots.filter (· ≠ "NULL") = header.playback ↔ "NULL" ∉ header.playback
  /-- The function in the slot of a call casts to the record that the header defines. -/
  records : ∀ index call, table.calls[index]? = some call → call.direct = false →
    ∃ function ∈ source.functions, ∃ entry record,
      source.slots[index + 1]? = some function.name ∧
      function.record = settings.recordPrefix ++ call.name ∧
      function.implementation = settings.implPrefix ++ call.name ∧
      header.entries[index]? = some entry ∧ entry.record = some record ∧
      (record.tag, function.record) ∈ header.typedefs ∧
      record.fields = call.params.map fun param => (param.cType, param.name)
  typedefs : (header.typedefs.map Prod.snd).Nodup
  definitions : client.map Definition.name =
    (table.calls.filter Call.isBuffered).map fun call => settings.clientPrefix ++ call.name
  /-- The client function of a call reserves that record and commits under that id. -/
  marshaled : ∀ call ∈ table.calls, call.direct = false → call.handcoded = false →
    ∃ definition ∈ client, ∃ code,
      definition.name = settings.clientPrefix ++ call.name ∧
      definition.code? = some code ∧
      ∀ small,
        (path small code.blocks).filterMap Statement.reserved? =
            [settings.recordPrefix ++ call.name] ∧
          (path small code.blocks).filterMap Statement.committed? =
            [settings.recordPrefix ++ "ID_" ++ call.name]

structure AllIdentifiers (settings : Settings) : Prop extends HasIdentifiers settings where
  clientPrefix : isIdentifier settings.clientPrefix = true
  handcodePrefix : isIdentifier settings.handcodePrefix = true

section Tables

variable {settings : Settings} {table : CallTable}

theorem getElem?_entries (small : table.size < 2 ^ 32 - 1) {index : Nat} {call : Call}
    (found : table.calls[index]? = some call) :
    (headerText settings table).entries[index]? = some (entryOf settings (index + 1) call) := by
  simp [headerText, CallTable.getElem?_numbered small, found]

theorem getElem?_slots {index : Nat} {call : Call} (found : table.calls[index]? = some call) :
    (sourceText settings table).slots[index + 1]? =
      some (if call.direct then "NULL" else settings.playbackPrefix ++ call.name) := by
  simp [sourceText, found]

theorem nodup_names (start : String) :
    ((table.calls.filter Call.isBuffered).map fun call => start ++ call.name).Nodup := by
  have names : ((table.calls.filter Call.isBuffered).map Call.name).Nodup :=
    table.distinct.sublist (List.filter_sublist.map Call.name)
  have injective : Function.Injective fun name : String => start ++ name := by
    intro first second same
    simpa [← String.toList_inj] using same
  have mapped := names.map injective
  rw [List.map_map] at mapped
  exact mapped

private theorem agree (small : table.size < 2 ^ 32 - 1) (names : AllIdentifiers settings)
    (fit : ∀ call ∈ table.calls, call.WellFormed) :
    Agree settings table (sourceText settings table) (headerText settings table)
      ((table.calls.filter Call.isBuffered).map (definitionOf settings)) where
  sizes := ⟨rfl, by simp [sourceText, CallTable.dispatchLength, CallTable.size]⟩
  slot_count := by simp [sourceText, CallTable.size]
  slot_zero := by simp [sourceText]
  entry_count := by simp [headerText, CallTable.numbered, CallTable.size]
  ids index call found := ⟨_, getElem?_entries small found, rfl, rfl⟩
  slots index call found := getElem?_slots found
  functions := by
    rw [sourceText, List.map_map]
    rfl
  nodup := nodup_names settings.playbackPrefix
  filled := by
    change List.filter _ ((Playback.slots settings table).map Playback.Slot.text) = _ ↔ _
    rw [Playback.filter_text_slots, headerText, List.filter_eq_self]
    constructor
    · intro other member
      simpa using other _ member
    · intro absent name member
      exact decide_eq_true fun same => absent (same ▸ member)
  records index call found buffered := by
    have member : call ∈ table.calls.filter Call.isBuffered :=
      List.mem_filter.mpr ⟨List.mem_of_getElem? found, by simp [Call.isBuffered, buffered]⟩
    refine ⟨functionText settings call, List.mem_map_of_mem member, _,
      ⟨settings.recordName call.name ++ "_rec", _⟩, ?_, rfl, rfl,
      getElem?_entries small found, ?_, List.mem_map.mpr ⟨call, member, rfl⟩, rfl⟩
    · rw [getElem?_slots found, buffered]
      rfl
    · simp [entryOf, buffered]
  typedefs := by
    rw [headerText, List.map_map]
    exact nodup_names settings.recordPrefix
  definitions := by
    rw [List.map_map]
    rfl
  marshaled call known buffered generated := by
    have member : call ∈ table.calls.filter Call.isBuffered :=
      List.mem_filter.mpr ⟨known, by simp [Call.isBuffered, buffered]⟩
    exact ⟨definitionOf settings call, List.mem_map_of_mem member, ofCall settings call, rfl,
      code?_definitionOf names.recordPrefix generated (fit call known), fun small =>
        ⟨reserved_path settings call small, committed_path settings call small⟩⟩

end Tables

/--
In the files that are generated from a spec, ids, slots, records and functions agree.  The
slots that are not empty spell the playback functions unless one of them is named `NULL`.
-/
theorem artifacts_agree (settings : Settings) (text : String) (table : CallTable)
    (parsed : Spec.parse text = .ok table) (small : table.size < 2 ^ 32 - 1)
    (names : AllIdentifiers settings) :
    ∃ source header client,
      readSource? settings (Artifact.playbackSource.render settings table) = some source ∧
      readHeader? settings (Artifact.structsHeader.render settings table) = some header ∧
      readClient? settings (Artifact.clientSource.render settings table) = some client ∧
      Agree settings table source header client := by
  have fit := Spec.parse_wellFormed parsed
  exact ⟨sourceText settings table, headerText settings table, _,
    readSource?_render names.toHasIdentifiers fit,
    readHeader?_render names.toHasIdentifiers fit small,
    readClient?_render names.clientPrefix names.recordPrefix names.handcodePrefix fit,
    agree small names fit⟩

def mixedTable : CallTable where
  calls :=
    [ { name := "Clear", params := [{ base := .float 32, name := "r" }] },
      { name := "Peek", direct := true, result := { base := .uint 32 } },
      { name := "Upload",
        params :=
          [ { base := .void, pointers := 1, isConst := true, name := "data" },
            { base := .named "size_t", name := "data_length" } ] } ]
  distinct := by decide

def mixedSpec : String :=
  "Clear \x7b\n    param float r\n\x7d\nPeek \x7b\n    direct\n    ret uint32_t\n\x7d\n" ++
    "Upload \x7b\n    param const void *data\n\x7d\n"

theorem artifacts_agree_mixed :
    Spec.parse mixedSpec = .ok mixedTable ∧ mixedTable.size < 2 ^ 32 - 1 ∧
      ∃ source header client,
        readSource? {} (Artifact.playbackSource.render {} mixedTable) = some source ∧
        readHeader? {} (Artifact.structsHeader.render {} mixedTable) = some header ∧
        readClient? {} (Artifact.clientSource.render {} mixedTable) = some client ∧
        Agree {} mixedTable source header client := by
  have parsed : Spec.parse mixedSpec = .ok mixedTable := by rfl
  have small : mixedTable.size < 2 ^ 32 - 1 := by decide
  exact ⟨parsed, small, artifacts_agree {} mixedSpec mixedTable parsed small
    ⟨⟨by decide, by decide, by decide, by decide⟩, by decide, by decide⟩⟩

def nullSettings : Settings := { playbackPrefix := "NU" }

def nullTable : CallTable := ⟨[{ name := "LL" }], by decide⟩

/-- The playback function of the call `LL` is named `NULL`, so both slots look empty. -/
theorem null_is_a_function :
    Spec.parse "LL \x7b\n\x7d\n" = .ok nullTable ∧ AllIdentifiers nullSettings ∧
      ∃ source header,
        readSource? nullSettings (Artifact.playbackSource.render nullSettings nullTable) =
          some source ∧
        readHeader? nullSettings (Artifact.structsHeader.render nullSettings nullTable) =
          some header ∧
        source.functions.map FunctionText.name = ["NULL"] ∧ header.playback = ["NULL"] ∧
        source.slots = ["NULL", "NULL"] := by
  have parsed : Spec.parse "LL \x7b\n\x7d\n" = .ok nullTable := by rfl
  have names : AllIdentifiers nullSettings :=
    ⟨⟨by decide, by decide, by decide, by decide⟩, by decide, by decide⟩
  have fit := Spec.parse_wellFormed parsed
  exact ⟨parsed, names, sourceText nullSettings nullTable, headerText nullSettings nullTable,
    readSource?_render names.toHasIdentifiers fit,
    readHeader?_render names.toHasIdentifiers fit (by decide), by decide, by decide, by decide⟩

end ReadBack

end CommandProtocol
