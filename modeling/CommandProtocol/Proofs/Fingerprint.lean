import CommandProtocol.Proofs.SignatureReader

/-!
# The structures header as a fingerprint

Whether a call is synchronous, or written by hand, only shows in its client function.  The
other three files are the same with and without these two flags, and everything else about
the calls of a table can be read back from its structures header.  So two tables have the
same header exactly if they describe the same protocol.
-/

namespace CommandProtocol

/-! ## What the core sees of a call -/

/-- A call without the flags that concern its client function alone. -/
def Call.protocol (call : Call) : Call := { call with sync := false, handcoded := false }

def CallTable.protocol (table : CallTable) : CallTable where
  calls := table.calls.map Call.protocol
  distinct := by
    rw [List.map_map]
    exact table.distinct

section Independence

variable (settings : Settings) (table : CallTable)

@[simp] theorem CallTable.numbered_protocol :
    table.protocol.numbered = table.numbered.map fun entry => (entry.1, entry.2.protocol) := by
  simp [numbered, protocol, List.zipIdx_map]

@[simp] theorem CallTable.buffered_protocol :
    table.protocol.buffered = table.buffered.map fun entry => (entry.1, entry.2.protocol) := by
  rw [buffered, numbered_protocol, List.filter_map]
  rfl

@[simp] theorem CallTable.dispatchLength_protocol :
    table.protocol.dispatchLength = table.dispatchLength := by
  simp [dispatchLength, size, protocol]

@[simp] theorem RecordLayout.ofTable_protocol :
    ofTable settings table.protocol = ofTable settings table := by
  rw [ofTable, CallTable.buffered_protocol, List.map_map]
  rfl

@[simp] theorem Structures.definitions_protocol (layouts : List RecordLayout)
    (entries : List (Nat × Call)) :
    definitions settings layouts (entries.map fun entry => (entry.1, entry.2.protocol)) =
      definitions settings layouts entries := by
  induction entries generalizing layouts with
  | nil => cases layouts <;> rfl
  | cons entry rest ih =>
      obtain ⟨id, call⟩ := entry
      have same : idDefinition settings id call.protocol = idDefinition settings id call := rfl
      cases layouts with
      | nil => simp only [List.map_cons, definitions, same, ih]
      | cons layout later => simp only [List.map_cons, definitions, same, ih]

@[simp] theorem Structures.text_protocol : text settings table.protocol = text settings table := by
  rw [text, RecordLayout.ofTable_protocol, CallTable.numbered_protocol, definitions_protocol]
  rfl

@[simp] theorem Declaration.functions_protocol (start : String) (form : ContextForm) :
    functions table.protocol start form = functions table start form := by
  rw [functions, CallTable.protocol, List.map_map]
  rfl

@[simp] theorem Declaration.playback_protocol :
    playback settings table.protocol = playback settings table := by
  rw [playback, CallTable.buffered_protocol, List.map_map]
  rfl

@[simp] theorem Declaration.dispatch_protocol :
    dispatch settings table.protocol = dispatch settings table := by
  unfold dispatch
  rw [CallTable.dispatchLength_protocol]

@[simp] theorem Playback.slots_protocol : slots settings table.protocol = slots settings table := by
  rw [slots, CallTable.protocol, List.map_map]
  rfl

@[simp] theorem Playback.source_protocol :
    source settings table.protocol = source settings table := by
  have functions : (table.protocol.buffered.map fun entry =>
      (ofCall settings entry.2).text) =
      table.buffered.map fun entry => (ofCall settings entry.2).text := by
    rw [CallTable.buffered_protocol, List.map_map]
    rfl
  have slots : dispatchTable settings table.protocol = dispatchTable settings table := by
    unfold dispatchTable
    rw [CallTable.dispatchLength_protocol, slots_protocol]
  rw [source, functions, slots]
  rfl

theorem Artifact.render_protocol {artifact : Artifact} (core : artifact ≠ .clientSource) :
    artifact.render settings table.protocol = artifact.render settings table := by
  cases artifact with
  | structsHeader =>
      rw [render, body, recordHeader, Structures.text_protocol, Declaration.functions_protocol,
        Declaration.playback_protocol, Declaration.dispatch_protocol]
      rfl
  | declarationHeader =>
      rw [render, body, Declaration.client, Declaration.functions_protocol]
      rfl
  | clientSource => contradiction
  | playbackSource =>
      rw [render, body, Playback.source_protocol]
      rfl

end Independence

/-! ## Reading the calls back -/

namespace ReadBack

structure HasPrefixes (settings : Settings) : Prop where
  implPrefix : isIdentifier settings.implPrefix = true
  playbackPrefix : isIdentifier settings.playbackPrefix = true
  recordPrefix : isIdentifier settings.recordPrefix = true

def arrayOpening (settings : Settings) : String :=
  "typedef void (*RsPlaybackFunc)(Context *, const void *, size_t sizeBytes);" ++ "\n" ++
    "extern RsPlaybackFunc " ++ settings.dispatchTable

def arrayClosing (table : CallTable) : String := toString table.dispatchLength ++ "];" ++ "\n"

def coreCall? (settings : Settings) (line : String) : Option Call := do
  let signature ← between? "" ";" line
  signature? settings.implPrefix signature

/-- A call is direct if the entry with its id has no record. -/
def protocol? (settings : Settings) : List (List String) → Option (List Call)
  | [] => none
  | _ :: rest =>
      match rest.reverse with
      | _ :: _ :: _ :: _ :: core :: entries => do
          let calls ← core.mapM (coreCall? settings)
          let entries ← entries.reverse.mapM entry?
          return List.zipWith (fun call entry => { call with direct := entry.record.isNone })
            calls entries
      | _ => none

def readProtocol? (settings : Settings) (text : String) : Option (List Call) := do
  let inner ← between? (headerOpening settings) (Code.closeNamespaces settings.namespaces) text
  let (before, _) ← cutLast? '[' inner
  let front ← between? "" (arrayOpening settings) before
  protocol? settings (paragraphs front)

section Reading

variable {settings : Settings} {table : CallTable}

theorem HasPrefixes.hasIdentifiers (named : HasPrefixes settings) :
    HasIdentifiers { settings with dispatchTable := "table" } :=
  ⟨named.implPrefix, named.playbackPrefix, named.recordPrefix,
    (by decide : isIdentifier "table" = true)⟩

def headerFront (settings : Settings) (table : CallTable) : String :=
  unlines ((headerGroups settings table).flatMap (· ++ [""]))

private theorem render_structsHeader (settings : Settings) (small : table.size < 2 ^ 32 - 1) :
    Artifact.structsHeader.render settings table =
      headerOpening settings ++
        (headerFront settings table ++ arrayOpening settings ++ "[" ++ arrayClosing table ++
          Code.closeNamespaces settings.namespaces) := by
  have array : unlines (arrayLines settings table) =
      arrayOpening settings ++ ("[" ++ arrayClosing table) := by
    unfold arrayLines arrayOpening arrayClosing
    simp only [unlines_cons, String.append_assoc]
    rfl
  have inner : headerFront settings table ++ arrayOpening settings ++ "[" ++ arrayClosing table =
      Structures.text settings table ++
        (Declaration.functions table settings.implPrefix .core ++
          (Declaration.playback settings table ++ Declaration.dispatch settings table)) := by
    rw [header_text settings small, unlines_append, array, headerFront]
    simp only [String.append_assoc]
  rw [inner, render_recordHeader]

private theorem coreCall?_coreLine {call : Call} (named : HasPrefixes settings)
    (fit : call.WellFormed) (readable : call.Readable) :
    coreCall? settings (coreLine settings call) =
      some { name := call.name, result := call.result, params := call.params,
             noContext := call.noContext } := by
  have signature : between? "" ";" (coreLine settings call) =
      some (call.signature settings.implPrefix .core) := between?_eq_some (by simp [coreLine])
  simp only [coreCall?, signature, Option.bind_eq_bind, Option.bind_some,
    signature?_signature named.implPrefix fit readable]

private theorem protocol?_headerGroups (named : HasPrefixes settings)
    (fit : ∀ call ∈ table.calls, call.WellFormed)
    (readable : ∀ call ∈ table.calls, call.Readable) :
    protocol? settings (headerGroups settings table ++ [[]]) =
      some (table.calls.map Call.protocol) := by
  have core : (table.calls.map (coreLine settings)).mapM (coreCall? settings) = some _ :=
    mapM_map_eq_some fun call known =>
      coreCall?_coreLine named (fit call known) (readable call known)
  have entries : (table.numbered.map fun entry => entryLines settings entry.1 entry.2).mapM
      entry? = some (table.numbered.map fun entry => entryOf settings entry.1 entry.2) :=
    mapM_map_eq_some fun entry known =>
      entry?_entryLines named.hasIdentifiers
        (fit entry.2 (CallTable.mem_calls_of_mem_numbered known)) entry.1
  have joined : List.zipWith (fun (call : Call) (entry : EntryText) =>
      { call with direct := entry.record.isNone })
      (table.calls.map fun call =>
        ({ name := call.name, result := call.result, params := call.params,
           noContext := call.noContext } : Call))
      (table.numbered.map fun entry => entryOf settings entry.1 entry.2) =
      table.calls.map Call.protocol := by
    rw [← CallTable.map_snd_numbered, List.map_map, List.map_map, List.zipWith_map,
      List.zipWith_self]
    refine List.map_congr_left fun entry _ => ?_
    cases direct : entry.2.direct <;> simp [entryOf, Call.protocol, direct]
  simp only [headerGroups, protocol?, List.cons_append, List.append_assoc, List.nil_append,
    List.reverse_append, List.reverse_cons, List.reverse_nil, List.reverse_reverse,
    Option.bind_eq_bind, core, entries, Option.bind_some, joined]
  rfl

theorem readProtocol?_render (named : HasPrefixes settings)
    (fit : ∀ call ∈ table.calls, call.WellFormed)
    (readable : ∀ call ∈ table.calls, call.Readable) (small : table.size < 2 ^ 32 - 1) :
    readProtocol? settings (Artifact.structsHeader.render settings table) =
      some (table.calls.map Call.protocol) := by
  have inner : between? (headerOpening settings) (Code.closeNamespaces settings.namespaces)
      (Artifact.structsHeader.render settings table) =
      some (headerFront settings table ++ arrayOpening settings ++ "[" ++ arrayClosing table) := by
    refine between?_eq_some ?_
    rw [render_structsHeader settings small, String.toList_append, String.toList_append]
  have before : cutLast? '['
      (headerFront settings table ++ arrayOpening settings ++ "[" ++ arrayClosing table) =
      some (headerFront settings table ++ arrayOpening settings, arrayClosing table) := by
    have digits : '[' ∉ (toString table.dispatchLength).toList := by
      rw [Nat.toString_eq_repr, Nat.toList_repr]
      intro member
      have digit := Nat.isDigit_of_mem_toDigits (by decide) (by decide) member
      contradiction
    refine cutLast?_eq_some (by simp) ?_
    rw [arrayClosing, String.append_assoc, String.toList_append, List.mem_append, not_or]
    exact ⟨digits, by decide⟩
  have front : between? "" (arrayOpening settings)
      (headerFront settings table ++ arrayOpening settings) = some (headerFront settings table) :=
    between?_eq_some (by simp)
  have groups : paragraphs (headerFront settings table) = headerGroups settings table ++ [[]] := by
    have final : ∀ line ∈ ([] : List String), IsLine line := by simp
    have cut := paragraphs_unlines (isLine_headerGroups named.hasIdentifiers fit) final
    rw [List.append_nil] at cut
    exact cut
  simp only [readProtocol?, inner, before, front, groups, Option.bind_eq_bind, Option.bind_some,
    protocol?_headerGroups named fit readable]

end Reading

end ReadBack

namespace Spec

theorem parse_readable {text : String} {table : CallTable} (parsed : parse text = .ok table) :
    ∀ call ∈ table.calls, call.Readable := by
  intro call member
  obtain ⟨_, block, whole, rfl⟩ := exists_block_of_parse parsed call member
  exact whole.readable (parse_wellFormed parsed _ member)

end Spec

/-! ## The fingerprint -/

namespace ReadBack

/--
Two specs have the same structures header exactly if their calls are the same but for the
flags of the client functions, and then they also have the same client declarations and the
same playback source.
-/
theorem structsHeader_fingerprint (settings : Settings) (named : HasPrefixes settings)
    (first second : String) (table other : CallTable)
    (parsed : Spec.parse first = .ok table) (parsed_other : Spec.parse second = .ok other)
    (small : table.size < 2 ^ 32 - 1) (small_other : other.size < 2 ^ 32 - 1) :
    (Artifact.structsHeader.render settings table =
        Artifact.structsHeader.render settings other ↔
      table.calls.map Call.protocol = other.calls.map Call.protocol) ∧
    (table.calls.map Call.protocol = other.calls.map Call.protocol →
      Artifact.declarationHeader.render settings table =
          Artifact.declarationHeader.render settings other ∧
        Artifact.playbackSource.render settings table =
          Artifact.playbackSource.render settings other) := by
  have shared {artifact : Artifact} (core : artifact ≠ .clientSource)
      (same : table.calls.map Call.protocol = other.calls.map Call.protocol) :
      artifact.render settings table = artifact.render settings other := by
    have tables : table.protocol = other.protocol := by
      simp only [CallTable.protocol, same]
    rw [← Artifact.render_protocol settings table core, tables,
      Artifact.render_protocol settings other core]
  have read := readProtocol?_render named (Spec.parse_wellFormed parsed)
    (Spec.parse_readable parsed) small
  have read_other := readProtocol?_render named (Spec.parse_wellFormed parsed_other)
    (Spec.parse_readable parsed_other) small_other
  refine ⟨⟨fun same => ?_, shared (by decide)⟩, fun same =>
    ⟨shared (by decide) same, shared (by decide) same⟩⟩
  rw [same, read_other] at read
  exact (Option.some.inj read).symm

def drawSpec : String :=
  "Draw \x7b\n nocontext\n param Context *c\n param const const *d\n\x7d\n" ++
    "Peek \x7b\n direct\n ret const double\n\x7d\n"

def flaggedSpec : String :=
  "Draw\x7bsync\nhandcodeApi\nparam Context*c\nparam const const*d\nnocontext\x7d" ++
    "Peek\x7bret const double\ndirect\x7d"

def drawTable (sync handcoded : Bool) : CallTable where
  calls :=
    [ { name := "Draw", noContext := true, sync, handcoded,
        params :=
          [ { base := .named "Context", pointers := 1, name := "c" },
            { base := .named "size_t", name := "c_length" },
            { base := .named "const", pointers := 1, isConst := true, name := "d" },
            { base := .named "size_t", name := "d_length" } ] },
      { name := "Peek", direct := true, result := { base := .float 64, isConst := true } } ]
  distinct := by simp

theorem structsHeader_fingerprint_draw :
    Spec.parse drawSpec = .ok (drawTable false false) ∧
      Spec.parse flaggedSpec = .ok (drawTable true true) ∧
      ∀ artifact ∈ [Artifact.structsHeader, .declarationHeader, .playbackSource],
        artifact.render { dispatchTable := "[0\n" } (drawTable false false) =
          artifact.render { dispatchTable := "[0\n" } (drawTable true true) := by
  have parsed : Spec.parse drawSpec = .ok (drawTable false false) := by rfl
  have flagged : Spec.parse flaggedSpec = .ok (drawTable true true) := by rfl
  have same : (drawTable false false).calls.map Call.protocol =
      (drawTable true true).calls.map Call.protocol := rfl
  obtain ⟨header, rest⟩ := structsHeader_fingerprint { dispatchTable := "[0\n" }
    ⟨by decide, by decide, by decide⟩ _ _ _ _ parsed flagged (by decide) (by decide)
  refine ⟨parsed, flagged, ?_⟩
  simpa using ⟨header.mpr same, rest same⟩

end ReadBack

end CommandProtocol
