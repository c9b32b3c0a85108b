import CommandProtocol.Artifact
import CommandProtocol.Proofs.Numbering
import CommandProtocol.Proofs.SignatureReader
import Mathlib.Data.List.Infix

/-!
# Names that the calls of a table introduce

The structures header introduces up to five names for a call, all of them made from the
name of the call.  A table keeps the names of its calls apart, which leaves three ways for
two names of different kinds to meet: a call may be named like the tag or the id of another.
-/

namespace CommandProtocol

inductive NameKind where
  | record
  | tag
  | commandId
  | implementation
  | playback
  deriving DecidableEq, Repr

namespace NameKind

def name (settings : Settings) (call : Call) : NameKind → String
  | record => settings.recordName call.name
  | tag => settings.recordName call.name ++ "_rec"
  | commandId => settings.commandIdName call.name
  | implementation => settings.implPrefix ++ call.name
  | playback => Playback.functionName settings call

def introduced (call : Call) : NameKind → Bool
  | record | tag | playback => call.isBuffered
  | commandId | implementation => true

/-- The text in which the header introduces the name. -/
def declaration (settings : Settings) (call : Call) (kind : NameKind) : String :=
  match kind with
  | record | tag =>
      "typedef struct " ++ name settings call tag ++ " " ++ name settings call record ++ ";\n"
  | commandId => "#define " ++ name settings call commandId ++ " "
  | implementation =>
      call.result.declaration ++ " " ++ name settings call implementation ++ " ("
  | playback => "void " ++ name settings call playback ++ " (Context *, const void *, size_t);\n"

end NameKind

/-! ## Where the names are introduced -/

def Occurs (part text : String) : Prop := part.toList <:+: text.toList

namespace Occurs

variable {part text other : String}

theorem trans (inner : Occurs part text) (outer : Occurs text other) : Occurs part other :=
  List.IsInfix.trans inner outer

theorem left (text other : String) : Occurs text (text ++ other) := by
  rw [Occurs, String.toList_append]
  exact (List.prefix_append _ _).isInfix

theorem right (text other : String) : Occurs other (text ++ other) := by
  rw [Occurs, String.toList_append]
  exact (List.suffix_append _ _).isInfix

theorem join {texts : List String} (member : text ∈ texts) : Occurs text (String.join texts) := by
  rw [Occurs, String.toList_join, List.flatMap_def]
  exact List.infix_of_mem_flatten (List.mem_map_of_mem member)

end Occurs

section Header

variable {settings : Settings} {table : CallTable} {call : Call}

private theorem Structures.idDefinition_mem {id : Nat} {entries : List (Nat × Call)}
    (member : (id, call) ∈ entries) (layouts : List RecordLayout) :
    idDefinition settings id call ∈ definitions settings layouts entries := by
  induction entries generalizing layouts with
  | nil => contradiction
  | cons entry rest ih =>
      rcases List.mem_cons.mp member with rfl | later
      · cases layouts with
        | nil => simp [definitions]
        | cons layout others =>
            rw [definitions]
            split <;> simp
      · cases layouts with
        | nil => simp [definitions, ih later]
        | cons layout others =>
            rw [definitions]
            split <;> simp [ih later]

private theorem Structures.occurs_id (known : call ∈ table.calls) :
    Occurs (NameKind.commandId.declaration settings call) (text settings table) := by
  rw [← CallTable.map_snd_numbered] at known
  obtain ⟨⟨id, call⟩, member, rfl⟩ := List.mem_map.mp known
  have defined : Occurs (idDefinition settings id call) (text settings table) :=
    (Occurs.join (idDefinition_mem member _)).trans (.right _ _)
  exact ((Occurs.left _ _).trans (.left _ _)).trans defined

private theorem Structures.occurs_typedef (known : call ∈ table.calls.filter Call.isBuffered) :
    Occurs (NameKind.record.declaration settings call) (text settings table) := by
  rw [← CallTable.map_snd_buffered] at known
  obtain ⟨⟨id, call⟩, member, rfl⟩ := List.mem_map.mp known
  have kept : layout settings id call ∈ RecordLayout.ofTable settings table :=
    List.mem_map.mpr ⟨(id, call), member, rfl⟩
  have spelled : NameKind.record.declaration settings call =
      (layout settings id call).typedef := by
    unfold NameKind.declaration NameKind.name RecordLayout.typedef layout
    simp [← String.toList_inj]
  rw [spelled]
  exact ((Occurs.join (List.mem_map_of_mem kept)).trans (.left _ _)).trans (.left _ _)

private theorem Declaration.occurs_function (known : call ∈ table.calls) :
    Occurs (NameKind.implementation.declaration settings call)
      (functions table settings.implPrefix .core) := by
  have line : call.signature settings.implPrefix .core ++ ";\n" ∈
      table.calls.map fun call => call.signature settings.implPrefix .core ++ ";\n" :=
    List.mem_map_of_mem known
  have opening : Occurs (NameKind.implementation.declaration settings call)
      (call.signature settings.implPrefix .core) := by
    rw [Call.signature_eq]
    exact (Occurs.left _ _).trans (.left _ _)
  exact (opening.trans (.left _ _)).trans ((Occurs.join line).trans (.left _ _))

private theorem Declaration.occurs_playback (known : call ∈ table.calls.filter Call.isBuffered) :
    Occurs (NameKind.playback.declaration settings call) (playback settings table) := by
  rw [← CallTable.map_snd_buffered] at known
  obtain ⟨⟨id, call⟩, member, rfl⟩ := List.mem_map.mp known
  refine Occurs.join (List.mem_map.mpr ⟨(id, call), member, ?_⟩)
  unfold NameKind.declaration NameKind.name Playback.functionName
  simp [← String.toList_inj]

private theorem NameKind.occurs_declaration (known : call ∈ table.calls) {kind : NameKind}
    (introduced : kind.introduced call = true) :
    Occurs (kind.declaration settings call) (Artifact.structsHeader.render settings table) := by
  have structures : Occurs (Structures.text settings table)
      (Artifact.recordHeader settings table) :=
    ((((Occurs.right _ _).trans (.left _ _)).trans (.left _ _)).trans (.left _ _)).trans (.left _ _)
  have functions : Occurs (Declaration.functions table settings.implPrefix .core)
      (Artifact.recordHeader settings table) :=
    (((Occurs.right _ _).trans (.left _ _)).trans (.left _ _)).trans (.left _ _)
  have playbacks : Occurs (Declaration.playback settings table)
      (Artifact.recordHeader settings table) :=
    ((Occurs.right _ _).trans (.left _ _)).trans (.left _ _)
  have inside : Occurs (kind.declaration settings call) (Artifact.recordHeader settings table) := by
    cases kind with
    | record | tag =>
        have buffered : call ∈ table.calls.filter Call.isBuffered :=
          List.mem_filter.mpr ⟨known, introduced⟩
        exact (Structures.occurs_typedef buffered).trans structures
    | commandId => exact (Structures.occurs_id known).trans structures
    | implementation => exact (Declaration.occurs_function known).trans functions
    | playback =>
        have buffered : call ∈ table.calls.filter Call.isBuffered :=
          List.mem_filter.mpr ⟨known, introduced⟩
        exact (Declaration.occurs_playback buffered).trans playbacks
  exact inside.trans (.right _ _)

end Header

/-! ## Clashes -/

/-- A name of the first call is a name of another kind of the second. -/
inductive Clash (first second : Call) : Prop where
  | record_tag (buffered : first.isBuffered = true) (other : second.isBuffered = true)
      (same : first.name = second.name ++ "_rec")
  | record_id (buffered : first.isBuffered = true) (same : first.name = "ID_" ++ second.name)
  | tag_id (buffered : first.isBuffered = true)
      (same : first.name ++ "_rec" = "ID_" ++ second.name)

/-- No two kinds or calls share a name. -/
def NamesApart (settings : Settings) (table : CallTable) : Prop :=
  ∀ first ∈ table.calls, ∀ second ∈ table.calls, ∀ kind other : NameKind,
    kind.introduced first = true → other.introduced second = true →
      kind.name settings first = other.name settings second → kind = other ∧ first = second

namespace NameKind

def start (settings : Settings) : NameKind → String
  | record | tag | commandId => settings.recordPrefix
  | implementation => settings.implPrefix
  | playback => settings.playbackPrefix

def stem (call : Call) : NameKind → String
  | tag => call.name ++ "_rec"
  | commandId => "ID_" ++ call.name
  | record | implementation | playback => call.name

theorem name_eq (settings : Settings) (call : Call) (kind : NameKind) :
    kind.name settings call = kind.start settings ++ kind.stem call := by
  cases kind with
  | tag | commandId => exact String.append_assoc
  | record | implementation | playback => rfl

variable {first second : Call} {kind other : NameKind}

theorem start_eq_of_name_eq (same : kind.name {} first = other.name {} second) :
    kind.start {} = other.start {} := by
  rw [name_eq, name_eq, ← String.toList_inj, String.toList_append, String.toList_append] at same
  -- the first three characters tell the starts apart
  have fronts := congrArg (List.take 3) same
  cases kind <;> cases other <;> simp_all [start]

theorem stem_eq_of_name_eq (same : kind.name {} first = other.name {} second) :
    kind.stem first = other.stem second := by
  have starts := start_eq_of_name_eq same
  rw [name_eq, name_eq, starts, ← String.toList_inj, String.toList_append,
    String.toList_append] at same
  exact String.toList_inj.mp (List.append_cancel_left same)

private theorem call_name_eq (same : kind.stem first = kind.stem second) :
    first.name = second.name := by
  cases kind with
  | tag | commandId => simpa [stem, ← String.toList_inj] using same
  | record | implementation | playback => exact same

private theorem clash_of_name_eq (differ : kind ≠ other) (introduced : kind.introduced first = true)
    (present : other.introduced second = true) (same : kind.name {} first = other.name {} second) :
    Clash first second ∨ Clash second first := by
  have starts := start_eq_of_name_eq same
  have stems := stem_eq_of_name_eq same
  cases kind with
  | record =>
      cases other with
      | record => contradiction
      | tag => exact .inl (.record_tag introduced present stems)
      | commandId => exact .inl (.record_id introduced stems)
      | implementation | playback => exact absurd starts (by decide)
  | tag =>
      cases other with
      | record => exact .inr (.record_tag present introduced stems.symm)
      | tag => contradiction
      | commandId => exact .inl (.tag_id introduced stems)
      | implementation | playback => exact absurd starts (by decide)
  | commandId =>
      cases other with
      | record => exact .inr (.record_id present stems.symm)
      | tag => exact .inr (.tag_id present stems.symm)
      | commandId => contradiction
      | implementation | playback => exact absurd starts (by decide)
  | implementation | playback => cases other <;> contradiction

theorem name_eq_of_stem_eq {settings : Settings}
    (starts : kind.start settings = other.start settings)
    (stems : kind.stem first = other.stem second) :
    kind.name settings first = other.name settings second := by
  rw [name_eq, name_eq, starts, stems]

private theorem name_eq_of_clash (settings : Settings) (clash : Clash first second) :
    ∃ kind other : NameKind, kind ≠ other ∧ kind.introduced first = true ∧
      other.introduced second = true ∧ kind.name settings first = other.name settings second := by
  cases clash with
  | record_tag buffered present same =>
      exact ⟨record, tag, by decide, buffered, present, name_eq_of_stem_eq rfl same⟩
  | record_id buffered same =>
      exact ⟨record, commandId, by decide, buffered, rfl, name_eq_of_stem_eq rfl same⟩
  | tag_id buffered same =>
      exact ⟨tag, commandId, by decide, buffered, rfl, name_eq_of_stem_eq rfl same⟩

end NameKind

private theorem CallTable.call_eq_of_name_eq {table : CallTable} {first second : Call}
    (known : first ∈ table.calls) (present : second ∈ table.calls)
    (same : first.name = second.name) : first = second :=
  List.inj_on_of_nodup_map table.distinct known present same

/--
The header introduces every name of every call, and no name twice, exactly if no call of
the table clashes with another.
-/
theorem names_apart_iff (table : CallTable) :
    (∀ call ∈ table.calls, ∀ kind : NameKind, kind.introduced call = true →
      Occurs (kind.declaration {} call) (Artifact.structsHeader.render {} table)) ∧
    (NamesApart {} table ↔
      ∀ first ∈ table.calls, ∀ second ∈ table.calls, ¬ Clash first second) := by
  refine ⟨fun call known kind => NameKind.occurs_declaration known, ?_, ?_⟩
  · intro apart first known second present clash
    obtain ⟨kind, other, differ, introduced, shown, same⟩ := NameKind.name_eq_of_clash {} clash
    exact differ (apart first known second present kind other introduced shown same).1
  · intro free first known second present kind other introduced shown same
    by_cases kinds : kind = other
    · subst kinds
      have names := NameKind.call_name_eq (NameKind.stem_eq_of_name_eq same)
      exact ⟨rfl, CallTable.call_eq_of_name_eq known present names⟩
    · rcases NameKind.clash_of_name_eq kinds introduced shown same with clash | clash
      · exact absurd clash (free first known second present)
      · exact absurd clash (free second present first known)

def clashingTable : CallTable where
  calls := [{ name := "Foo" }, { name := "ID_Foo" }]
  distinct := by decide

theorem clashing_names :
    (∀ call ∈ clashingTable.calls, isIdentifier call.name = true) ∧
      ¬ NamesApart {} clashingTable := by
  refine ⟨by decide, fun apart => ?_⟩
  have meet := apart { name := "ID_Foo" } (by decide) { name := "Foo" } (by decide)
    .record .commandId rfl rfl (by decide)
  exact absurd meet.1 (by decide)

end CommandProtocol
