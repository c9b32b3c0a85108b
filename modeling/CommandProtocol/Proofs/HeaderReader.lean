import CommandProtocol.Proofs.PlaybackReader

/-!
# Reading the structures header back

The header has a paragraph of type names, one paragraph for each call with its id and,
if the call is buffered, its record, then the declarations of the core functions, of the
playback functions and of the dispatch table.  What the calls of a table wrote is what is
read: `readHeader?_render`.
-/

namespace CommandProtocol.ReadBack

/-! ## Spelling -/

section Spelling

variable {var : Variable} {type : BaseType}

theorem isIdentifier_cName (fit : type.WellFormed) : isIdentifier type.cName = true := by
  cases type with
  | void => decide
  | int bits | uint bits =>
      simp only [BaseType.WellFormed, BaseType.integerWidths, List.mem_cons, List.not_mem_nil,
        or_false] at fit
      rcases fit with rfl | rfl | rfl | rfl <;> decide
  | float bits => rcases fit with rfl | rfl <;> decide
  | named name => exact fit.1

theorem newline_not_mem_cType (fit : var.base.WellFormed) : '\n' ∉ var.cType.toList := by
  have base : '\n' ∉ var.base.cName.toList :=
    newline_not_mem_of_isIdentifier (isIdentifier_cName fit)
  rw [Variable.cType]
  split <;> split <;> simp [base]

theorem toList_declaration (fit : var.WellFormed) :
    var.declaration.toList = var.cType.toList ++ ' ' :: var.name.toList := by
  have named : var.name ≠ "" := by
    intro empty
    have word := fit.name
    rw [empty] at word
    contradiction
  simp [Variable.declaration, named]

theorem newline_not_mem_declaration (fit : var.WellFormed) :
    '\n' ∉ var.declaration.toList := by
  have name : '\n' ∉ var.name.toList := newline_not_mem_of_isIdentifier fit.name
  simp [toList_declaration fit, newline_not_mem_cType fit.base, name]

theorem not_mem_intercalate {char : Char} {separator : String} {texts : List String}
    (between : char ∉ separator.toList) (inside : ∀ text ∈ texts, char ∉ text.toList) :
    char ∉ (separator.intercalate texts).toList := by
  induction texts with
  | nil => simp
  | cons text rest ih =>
      have first := inside text List.mem_cons_self
      have later := ih fun other member => inside other (List.mem_cons_of_mem _ member)
      cases rest with
      | nil => simpa using first
      | cons next rest =>
          simp only [String.intercalate_cons_cons, String.toList_append, List.mem_append, first,
            between, later, or_self, not_false_eq_true]

private theorem newline_not_mem_argumentList {params : List Variable} (afterContext : Bool)
    (fit : ∀ param ∈ params, param.WellFormed) :
    '\n' ∉ (argumentList params afterContext).toList := by
  have inside : ∀ text ∈ params.map Variable.declaration, '\n' ∉ text.toList := by
    intro text member
    obtain ⟨param, known, rfl⟩ := List.mem_map.mp member
    exact newline_not_mem_declaration (fit param known)
  cases afterContext with
  | false => exact not_mem_intercalate (by simp) inside
  | true =>
      simp only [argumentList, if_true, String.toList_join, List.mem_flatMap, not_exists, not_and]
      intro text member
      obtain ⟨declaration, known, rfl⟩ := List.mem_map.mp member
      simp [inside declaration known]

theorem newline_not_mem_signature {call : Call} {start : String} (form : ContextForm)
    (fit : call.WellFormed) (word : isIdentifier start = true) :
    '\n' ∉ (call.signature start form).toList := by
  have result : '\n' ∉ call.result.declaration.toList := by
    simpa [Variable.declaration, fit.result.bare] using newline_not_mem_cType fit.result.base
  have start : '\n' ∉ start.toList := newline_not_mem_of_isIdentifier word
  have name : '\n' ∉ call.name.toList := newline_not_mem_of_isIdentifier fit.name
  have arguments := newline_not_mem_argumentList (!call.noContext) fit.params
  rw [Call.signature]
  cases form <;> split <;> simp [result, start, name, arguments, ContextForm.declaration]

end Spelling

/-! ## Records and ids -/

structure RecordText where
  tag : String
  fields : List (String × String)
  deriving DecidableEq, Repr

structure EntryText where
  idName : String
  id : Nat
  record : Option RecordText
  deriving DecidableEq, Repr

def typedef? (line : String) : Option (String × String) := do
  let inner ← between? "typedef struct " ";" line
  cut? ' ' inner

def idDefinition? (line : String) : Option (String × Nat) := do
  let inner ← between? "#define " "" line
  let (name, numeral) ← cut? ' ' inner
  let id ← number? numeral
  return (name, id)

def field? (line : String) : Option (String × String) := do
  let inner ← between? "    " ";" line
  cutLast? ' ' inner

def record? : List String → Option RecordText
  | [] => none
  | header :: rest => do
      guard (rest.getLast? = some "\x7d;")
      let tag ← between? "struct " " \x7b" header
      let fields ← rest.dropLast.mapM field?
      return { tag, fields }

def entry? : List String → Option EntryText
  | [] => none
  | [definition] => do
      let (idName, id) ← idDefinition? definition
      return { idName, id, record := none }
  | definition :: body => do
      let (idName, id) ← idDefinition? definition
      let record ← record? body
      return { idName, id, record := some record }

def typedefLine (name : String) : String :=
  "typedef struct " ++ name ++ "_rec " ++ name ++ ";"

def recordLines (name : String) (fields : List Variable) : List String :=
  ("struct " ++ name ++ "_rec \x7b") ::
    (fields.map (fun field => "    " ++ (field.declaration ++ ";")) ++ ["\x7d;"])

def entryLines (settings : Settings) (id : Nat) (call : Call) : List String :=
  ("#define " ++ settings.commandIdName call.name ++ " " ++ toString id) ::
    if call.direct then [] else recordLines (settings.recordName call.name) call.params

def entryOf (settings : Settings) (id : Nat) (call : Call) : EntryText where
  idName := settings.commandIdName call.name
  id := id
  record :=
    if call.direct then none
    else
      some
        { tag := settings.recordName call.name ++ "_rec"
          fields := call.params.map fun param => (param.cType, param.name) }

section Entries

variable {settings : Settings} {call : Call} {name : String} {fields : List Variable}

private theorem typedef?_typedefLine (word : isIdentifier name = true) :
    typedef? (typedefLine name) = some (name ++ "_rec", name) := by
  have inner : between? "typedef struct " ";" (typedefLine name) =
      some (name ++ "_rec " ++ name) := between?_eq_some (by unfold typedefLine; simp)
  have tag : isIdentifier (name ++ "_rec") = true := isIdentifier_append word (by decide)
  have parts : cut? ' ' (name ++ "_rec " ++ name) = some (name ++ "_rec", name) :=
    cut?_eq_some (by simp) (not_mem_of_isIdentifier tag (by decide))
  simp only [typedef?, inner, Option.bind_eq_bind, Option.bind_some, parts]

private theorem record?_recordLines (fit : ∀ field ∈ fields, field.WellFormed) :
    record? (recordLines name fields) =
      some ⟨name ++ "_rec", fields.map fun field => (field.cType, field.name)⟩ := by
  have tag : between? "struct " " \x7b" ("struct " ++ name ++ "_rec \x7b") =
      some (name ++ "_rec") := between?_eq_some (by simp)
  have inside : (fields.map fun field => "    " ++ (field.declaration ++ ";")).mapM field? =
      some (fields.map fun field => (field.cType, field.name)) := by
    refine mapM_map_eq_some fun field known => ?_
    have inner : between? "    " ";" ("    " ++ (field.declaration ++ ";")) =
        some field.declaration := between?_eq_some (by simp)
    have parts : cutLast? ' ' field.declaration = some (field.cType, field.name) :=
      cutLast?_eq_some (toList_declaration (fit field known))
        (not_mem_of_isIdentifier (fit field known).name (by decide))
    simp only [field?, inner, Option.bind_eq_bind, Option.bind_some, parts]
  simp [record?, recordLines, tag, inside]

theorem isIdentifier_commandIdName (names : HasIdentifiers settings) (fit : call.WellFormed) :
    isIdentifier (settings.commandIdName call.name) = true := by
  have start : isIdentifier (settings.recordPrefix ++ "ID_") = true :=
    isIdentifier_append names.recordPrefix (by decide)
  exact isIdentifier_name start fit

theorem entry?_entryLines (names : HasIdentifiers settings) (fit : call.WellFormed) (id : Nat) :
    entry? (entryLines settings id call) = some (entryOf settings id call) := by
  have inner : between? "#define " ""
      ("#define " ++ settings.commandIdName call.name ++ " " ++ toString id) =
      some (settings.commandIdName call.name ++ " " ++ toString id) := between?_eq_some (by simp)
  have parts : cut? ' ' (settings.commandIdName call.name ++ " " ++ toString id) =
      some (settings.commandIdName call.name, toString id) :=
    cut?_eq_some (by simp)
      (not_mem_of_isIdentifier (isIdentifier_commandIdName names fit) (by decide))
  have definition : idDefinition?
      ("#define " ++ settings.commandIdName call.name ++ " " ++ toString id) =
      some (settings.commandIdName call.name, id) := by
    simp only [idDefinition?, inner, parts, number?_toString, Option.bind_eq_bind,
      Option.bind_some]
    rfl
  rw [entryLines, entryOf]
  cases direct : call.direct with
  | true =>
      simp only [if_true, entry?, definition, Option.bind_eq_bind, Option.bind_some]
      rfl
  | false =>
      have record : record? (recordLines (settings.recordName call.name) call.params) = _ :=
        record?_recordLines fit.params
      simp only [Bool.false_eq_true, if_false, recordLines, entry?, definition,
        Option.bind_eq_bind, Option.bind_some] at record ⊢
      rw [record]
      rfl

private theorem isLine_entryLines (names : HasIdentifiers settings) (fit : call.WellFormed)
    (id : Nat) :
    ∀ line ∈ entryLines settings id call, IsLine line := by
  have idName : '\n' ∉ (settings.commandIdName call.name).toList :=
    newline_not_mem_of_isIdentifier (isIdentifier_commandIdName names fit)
  have record : '\n' ∉ (settings.recordName call.name).toList :=
    newline_not_mem_of_isIdentifier (isIdentifier_name names.recordPrefix fit)
  intro line member
  rw [entryLines] at member
  rcases List.mem_cons.mp member with rfl | member
  · exact ⟨by simp [idName, newline_not_mem_toDigits], by simp⟩
  split at member
  · contradiction
  rw [recordLines] at member
  rcases List.mem_cons.mp member with rfl | member
  · exact ⟨by simp [record], by simp⟩
  rcases List.mem_append.mp member with member | member
  · obtain ⟨field, known, rfl⟩ := List.mem_map.mp member
    have declaration := newline_not_mem_declaration (fit.params field known)
    exact ⟨by simp [declaration], by simp⟩
  · rw [List.mem_singleton.mp member]
    exact ⟨by simp, by simp⟩

private theorem typedef_text (layout : RecordLayout) :
    layout.typedef = typedefLine layout.name ++ "\n" := by
  unfold RecordLayout.typedef typedefLine
  simp [← String.toList_inj]

private theorem definition_text (layout : RecordLayout) :
    layout.definition = unlines (recordLines layout.name layout.fields ++ [""]) := by
  have inside := unlines_map_indented (fun field : Variable => field.declaration ++ ";")
    layout.fields
  unfold RecordLayout.definition
  rw [recordLines, List.cons_append, unlines_cons, unlines_append, unlines_append, inside]
  generalize String.join (layout.fields.map _) = middle
  simp [unlines, ← String.toList_inj]

private theorem entryText_text (settings : Settings) (id : Nat) (call : Call) :
    String.join (Structures.entryText settings id call) =
      unlines (entryLines settings id call ++ [""]) := by
  have definition := definition_text (Structures.layout settings id call)
  unfold Structures.entryText Structures.idDefinition
  rw [entryLines, List.cons_append, unlines_cons]
  cases direct : call.direct with
  | true => simp [unlines]
  | false =>
      simp only [Bool.false_eq_true, if_false, definition, String.join_cons]
      simp [Structures.layout, String.join, String.append_assoc]

end Entries

/-! ## The structures header -/

structure HeaderText where
  typedefs : List (String × String)
  entries : List EntryText
  playback : List String
  array : String × Nat
  deriving DecidableEq, Repr

def headerOpening (settings : Settings) : String :=
  settings.licenseHeader ++ ("\n" ++ Code.includes ["rsContext.h"] ++ "\n" ++
    Code.openNamespaces settings.namespaces)

def arrayDeclaration? : List String → Option (String × Nat)
  | [_, declaration] => array? "extern RsPlaybackFunc " "];" declaration
  | _ => none

/--
Type names, the entries, core declarations, playback declarations and the dispatch table;
each group of declarations is followed by two empty lines.
-/
def header? : List (List String) → Option HeaderText
  | [] => none
  | typedefs :: rest =>
      match rest.reverse with
      | dispatch :: _ :: playback :: _ :: _ :: entries => do
          let typedefs ← typedefs.mapM typedef?
          let entries ← entries.reverse.mapM entry?
          let playback ← playback.mapM (between? "void " " (Context *, const void *, size_t);")
          let array ← arrayDeclaration? dispatch
          return { typedefs, entries, playback, array }
      | _ => none

def readHeader? (settings : Settings) (text : String) : Option HeaderText := do
  let inner ← between? (headerOpening settings) (Code.closeNamespaces settings.namespaces) text
  header? (paragraphs inner)

def coreLine (settings : Settings) (call : Call) : String :=
  call.signature settings.implPrefix .core ++ ";"

def playbackLine (settings : Settings) (call : Call) : String :=
  "void " ++ settings.playbackPrefix ++ call.name ++ " (Context *, const void *, size_t);"

def arrayLines (settings : Settings) (table : CallTable) : List String :=
  [ "typedef void (*RsPlaybackFunc)(Context *, const void *, size_t sizeBytes);",
    "extern RsPlaybackFunc " ++ settings.dispatchTable ++ "[" ++ toString table.dispatchLength ++
      "];" ]

def headerGroups (settings : Settings) (table : CallTable) : List (List String) :=
  (table.calls.filter Call.isBuffered).map
      (fun call => typedefLine (settings.recordName call.name)) ::
    (table.numbered.map (fun entry => entryLines settings entry.1 entry.2) ++
      [ table.calls.map (coreLine settings), [],
        (table.calls.filter Call.isBuffered).map (playbackLine settings), [] ])

section Header

variable {settings : Settings} {table : CallTable}

theorem structures_text (small : table.size < 2 ^ 32 - 1) :
    Structures.text settings table =
      unlines (((table.calls.filter Call.isBuffered).map
          (fun call => typedefLine (settings.recordName call.name)) ::
        table.numbered.map fun entry => entryLines settings entry.1 entry.2).flatMap
          (· ++ [""])) := by
  have typedefs : String.join ((RecordLayout.ofTable settings table).map RecordLayout.typedef) =
      unlines ((table.calls.filter Call.isBuffered).map
        fun call => typedefLine (settings.recordName call.name)) := by
    rw [RecordLayout.ofTable, ← CallTable.map_snd_buffered, unlines]
    simp only [List.map_map]
    exact congrArg String.join (List.map_congr_left fun entry _ => typedef_text _)
  have entries : String.join (table.numbered.map fun entry =>
      String.join (Structures.entryText settings entry.1 entry.2)) =
      unlines ((table.numbered.map fun entry => entryLines settings entry.1 entry.2).flatMap
        (· ++ [""])) := by
    rw [unlines_flatMap, List.map_map]
    exact congrArg String.join (List.map_congr_left fun entry _ => entryText_text _ _ _)
  rw [Structures.text_eq settings small, typedefs, entries, List.flatMap_cons, unlines_append,
    unlines_append]
  rfl

def structureLines (settings : Settings) (calls : List Call) : List String :=
  (calls.filter fun call => !call.direct).map
      (fun call => typedefLine (settings.recordName call.name)) ++
    "" :: calls.zipIdx.flatMap fun (call, index) => entryLines settings (index + 1) call ++ [""]

/--
The layouts are taken up in step with the calls, wherever the direct ones stand: the text is
what the calls give one by one.
-/
theorem structures_eq_unlines (settings : Settings) {table : CallTable}
    (small : table.size < 2 ^ 32 - 1) :
    Structures.text settings table = unlines (structureLines settings table.calls) := by
  have numbers : (table.numbered.map fun entry => entryLines settings entry.1 entry.2) =
      table.calls.zipIdx.map fun (call, index) => entryLines settings (index + 1) call := by
    rw [CallTable.numbered_eq small, List.zipIdx_succ]
    simp [Function.comp_def]
  rw [structures_text small, numbers, List.flatMap_cons, List.flatMap_map, List.append_assoc]
  rfl

def directRuns : CallTable where
  calls :=
    [ { name := "Probe", direct := true },
      { name := "Put",
        params :=
          [ { base := .void, pointers := 1, isConst := true, name := "p" },
            { base := .named "size_t", name := "p_length" } ] },
      { name := "Stop", direct := true },
      { name := "Flush" },
      { name := "Wait", direct := true },
      { name := "Leave", direct := true } ]
  distinct := by decide

theorem structures_eq_unlines_directRuns :
    directRuns.size < 2 ^ 32 - 1 ∧
      Structures.text {} directRuns = unlines
        [ "typedef struct RS_CMD_Put_rec RS_CMD_Put;",
          "typedef struct RS_CMD_Flush_rec RS_CMD_Flush;", "",
          "#define RS_CMD_ID_Probe 1", "",
          "#define RS_CMD_ID_Put 2", "struct RS_CMD_Put_rec \x7b", "    const void * p;",
          "    size_t p_length;", "\x7d;", "",
          "#define RS_CMD_ID_Stop 3", "",
          "#define RS_CMD_ID_Flush 4", "struct RS_CMD_Flush_rec \x7b", "\x7d;", "",
          "#define RS_CMD_ID_Wait 5", "",
          "#define RS_CMD_ID_Leave 6", "" ] := by
  have small : directRuns.size < 2 ^ 32 - 1 := by decide
  exact ⟨small, (structures_eq_unlines {} small).trans (congrArg unlines rfl)⟩

private theorem functions_text (settings : Settings) (table : CallTable) :
    Declaration.functions table settings.implPrefix .core =
      unlines ([table.calls.map (coreLine settings), []].flatMap (· ++ [""])) := by
  have calls : String.join (table.calls.map fun call =>
      call.signature settings.implPrefix .core ++ ";\n") =
      unlines (table.calls.map (coreLine settings)) := by
    rw [unlines, List.map_map]
    refine congrArg String.join (List.map_congr_left fun call _ => ?_)
    simp [coreLine, ← String.toList_inj]
  unfold Declaration.functions
  rw [calls, List.flatMap_cons, List.append_assoc, unlines_append]
  rfl

private theorem playback_text (settings : Settings) (table : CallTable) :
    Declaration.playback settings table ++ Declaration.dispatch settings table =
      unlines ([(table.calls.filter Call.isBuffered).map (playbackLine settings), []].flatMap
        (· ++ [""]) ++ arrayLines settings table) := by
  have functions : Declaration.playback settings table =
      unlines ((table.calls.filter Call.isBuffered).map (playbackLine settings)) := by
    rw [Declaration.playback, ← CallTable.map_snd_buffered, unlines, List.map_map, List.map_map]
    refine congrArg String.join (List.map_congr_left fun entry _ => ?_)
    unfold playbackLine
    simp [← String.toList_inj]
  have array : Declaration.dispatch settings table =
      unlines ("" :: "" :: arrayLines settings table) := by
    unfold Declaration.dispatch
    simp [arrayLines, unlines, ← String.toList_inj]
  rw [functions, array, ← unlines_append]
  simp

theorem header_text (settings : Settings) (small : table.size < 2 ^ 32 - 1) :
    Structures.text settings table ++
        (Declaration.functions table settings.implPrefix .core ++
          (Declaration.playback settings table ++ Declaration.dispatch settings table)) =
      unlines ((headerGroups settings table).flatMap (· ++ [""]) ++ arrayLines settings table) := by
  rw [structures_text small, functions_text, playback_text, ← unlines_append, ← unlines_append,
    headerGroups]
  simp

theorem render_recordHeader (settings : Settings) (table : CallTable) :
    Artifact.structsHeader.render settings table =
      headerOpening settings ++
        (Structures.text settings table ++
            (Declaration.functions table settings.implPrefix .core ++
              (Declaration.playback settings table ++ Declaration.dispatch settings table)) ++
          Code.closeNamespaces settings.namespaces) := by
  rw [Artifact.render, Artifact.body, Artifact.recordHeader, headerOpening]
  simp only [String.append_assoc]

theorem isLine_headerGroups (names : HasIdentifiers settings)
    (fit : ∀ call ∈ table.calls, call.WellFormed) :
    ∀ group ∈ headerGroups settings table, ∀ line ∈ group, IsLine line := by
  have kept : ∀ call ∈ table.calls.filter Call.isBuffered, call.WellFormed :=
    fun call member => fit call (List.mem_of_mem_filter member)
  have typedefs : ∀ line ∈ (table.calls.filter Call.isBuffered).map
      (fun call => typedefLine (settings.recordName call.name)), IsLine line := by
    intro line member
    obtain ⟨call, known, rfl⟩ := List.mem_map.mp member
    have record : '\n' ∉ (settings.recordName call.name).toList :=
      newline_not_mem_of_isIdentifier (isIdentifier_name names.recordPrefix (kept call known))
    unfold typedefLine
    exact ⟨by simp [record], by simp⟩
  have core : ∀ line ∈ table.calls.map (coreLine settings), IsLine line := by
    intro line member
    obtain ⟨call, known, rfl⟩ := List.mem_map.mp member
    have signature := newline_not_mem_signature .core (fit call known) names.implPrefix
    exact ⟨by simp [coreLine, signature], by simp [coreLine]⟩
  have playback : ∀ line ∈ (table.calls.filter Call.isBuffered).map (playbackLine settings),
      IsLine line := by
    intro line member
    obtain ⟨call, known, rfl⟩ := List.mem_map.mp member
    have function : '\n' ∉ (settings.playbackPrefix ++ call.name).toList :=
      newline_not_mem_of_isIdentifier (isIdentifier_name names.playbackPrefix (kept call known))
    rw [String.toList_append, List.mem_append, not_or] at function
    unfold playbackLine
    exact ⟨by simp [function], by simp⟩
  intro group member
  rw [headerGroups] at member
  rcases List.mem_cons.mp member with rfl | member
  · exact typedefs
  rcases List.mem_append.mp member with member | member
  · obtain ⟨entry, known, rfl⟩ := List.mem_map.mp member
    exact isLine_entryLines names (fit entry.2 (CallTable.mem_calls_of_mem_numbered known)) entry.1
  · simp only [List.mem_cons, List.not_mem_nil, or_false] at member
    rcases member with rfl | rfl | rfl | rfl
    · exact core
    · simp
    · exact playback
    · simp

private theorem isLine_arrayLines (names : HasIdentifiers settings) :
    ∀ line ∈ arrayLines settings table, IsLine line := by
  have name : '\n' ∉ settings.dispatchTable.toList :=
    newline_not_mem_of_isIdentifier names.dispatchTable
  intro line member
  simp only [arrayLines, List.mem_cons, List.not_mem_nil, or_false] at member
  rcases member with rfl | rfl
  · exact ⟨by simp, by simp⟩
  · exact ⟨by simp [name, newline_not_mem_toDigits], by simp⟩

def headerText (settings : Settings) (table : CallTable) : HeaderText where
  typedefs := (table.calls.filter Call.isBuffered).map fun call =>
    (settings.recordName call.name ++ "_rec", settings.recordName call.name)
  entries := table.numbered.map fun entry => entryOf settings entry.1 entry.2
  playback := (table.calls.filter Call.isBuffered).map fun call =>
    settings.playbackPrefix ++ call.name
  array := (settings.dispatchTable, table.dispatchLength)

private theorem header?_headerGroups (names : HasIdentifiers settings)
    (fit : ∀ call ∈ table.calls, call.WellFormed) :
    header? (headerGroups settings table ++ [arrayLines settings table]) =
      some (headerText settings table) := by
  have typedefs : ((table.calls.filter Call.isBuffered).map
      fun call => typedefLine (settings.recordName call.name)).mapM typedef? = some _ :=
    mapM_map_eq_some fun call known =>
      typedef?_typedefLine (isIdentifier_name names.recordPrefix
        (fit call (List.mem_of_mem_filter known)))
  have entries : (table.numbered.map fun entry => entryLines settings entry.1 entry.2).mapM
      entry? = some (table.numbered.map fun entry => entryOf settings entry.1 entry.2) := by
    refine mapM_map_eq_some fun entry known => ?_
    exact entry?_entryLines names (fit entry.2 (CallTable.mem_calls_of_mem_numbered known)) entry.1
  have playback : ((table.calls.filter Call.isBuffered).map (playbackLine settings)).mapM
      (between? "void " " (Context *, const void *, size_t);") =
      some ((table.calls.filter Call.isBuffered).map
        fun call => settings.playbackPrefix ++ call.name) := by
    refine mapM_map_eq_some fun call _ => between?_eq_some ?_
    unfold playbackLine
    simp
  have array : arrayDeclaration? (arrayLines settings table) =
      some (settings.dispatchTable, table.dispatchLength) :=
    array?_eq_some _ names.dispatchTable
  simp only [headerGroups, header?, List.cons_append, List.append_assoc, List.nil_append,
    List.reverse_append, List.reverse_cons, List.reverse_nil, List.reverse_reverse,
    Option.bind_eq_bind, typedefs, entries, playback, array, Option.bind_some]
  rfl

/-- The header reads as an entry for each call, in order, and the declarations. -/
theorem readHeader?_render (names : HasIdentifiers settings)
    (fit : ∀ call ∈ table.calls, call.WellFormed) (small : table.size < 2 ^ 32 - 1) :
    readHeader? settings (Artifact.structsHeader.render settings table) =
      some (headerText settings table) := by
  have inner : between? (headerOpening settings) (Code.closeNamespaces settings.namespaces)
      (Artifact.structsHeader.render settings table) =
      some (unlines ((headerGroups settings table).flatMap (· ++ [""]) ++
        arrayLines settings table)) := by
    refine between?_eq_some ?_
    rw [← header_text settings small, render_recordHeader, String.toList_append,
      String.toList_append]
  have parts : paragraphs (unlines ((headerGroups settings table).flatMap (· ++ [""]) ++
      arrayLines settings table)) = headerGroups settings table ++ [arrayLines settings table] :=
    paragraphs_unlines (isLine_headerGroups names fit) (isLine_arrayLines names)
  rw [readHeader?, inner, Option.bind_eq_bind, Option.bind_some, parts]
  exact header?_headerGroups names fit

end Header

end CommandProtocol.ReadBack
