import CommandProtocol.Artifact
import CommandProtocol.Proofs.Numbering
import CommandProtocol.Proofs.TextLines

/-!
# Reading the playback source back

A reader that knows the layout of the file and nothing of the calls behind it.  What the
buffered calls of a table and its dispatch slots wrote is what is read: `readSource?_render`.
-/

namespace CommandProtocol.ReadBack

/-! ## Playback functions -/

inductive ArgumentText where
  | context
  | field (name : String)
  deriving DecidableEq, Repr

structure FunctionText where
  name : String
  record : String
  implementation : String
  arguments : List ArgumentText
  storesResult : Bool
  deriving DecidableEq, Repr

def ArgumentText.text : ArgumentText → String
  | .context => "con"
  | .field name => "cmd->" ++ name

def resultSlot : String := "con->mIO.mToCoreRet = (intptr_t)"

def callLines (opening : String) : List String → List String
  | [] => [opening ++ ");"]
  | [last] => [opening ++ last ++ ");"]
  | argument :: next :: rest =>
      (opening ++ argument ++ ",") :: callLines "           " (next :: rest)

namespace FunctionText

def lines (function : FunctionText) : List String :=
  [ "void " ++ function.name ++ "(Context *con, const void *vp, size_t cmdSizeBytes)",
    "\x7b",
    "    const " ++ function.record ++ " *cmd = static_cast<const " ++ function.record ++
      " *>(vp);" ] ++
  callLines ("    " ++ (if function.storesResult then resultSlot else "") ++
    function.implementation ++ "(") (function.arguments.map ArgumentText.text) ++
  ["\x7d"]

def text (function : FunctionText) : String := unlines (function.lines ++ [""])

end FunctionText

def cast? (line : String) : Option String := do
  let inner ← between? "    const " " *>(vp);" line
  let (declared, rest) ← cut? ' ' inner
  let record ← between? "*cmd = static_cast<const " "" rest
  guard (declared = record)
  return record

def argument? (text : String) : Option ArgumentText :=
  if text = "con" then some .context else (between? "cmd->" "" text).map .field

/-- The function that a statement calls and its arguments, after a store of the result. -/
def call? (lines : List String) : Option (Bool × String × List ArgumentText) := do
  let statement ← between? "    " ");\n\x7d\n" (unlines lines)
  let stored := between? resultSlot "" statement
  let (callee, list) ← cut? '(' (stored.getD statement)
  let texts ← separated? "\n           " list
  let arguments ← texts.mapM argument?
  return (stored.isSome, callee, arguments)

def function? : List String → Option FunctionText
  | header :: opening :: cast :: call => do
      guard (opening = "\x7b")
      let name ← between? "void " "(Context *con, const void *vp, size_t cmdSizeBytes)" header
      let record ← cast? cast
      let (storesResult, implementation, arguments) ← call? call
      return { name, record, implementation, arguments, storesResult }
  | _ => none

@[simp] theorem unlines_callLines (opening : String) (arguments : List String) :
    unlines (callLines opening arguments) =
      opening ++ ",\n           ".intercalate arguments ++ ");\n" := by
  fun_induction callLines opening arguments with
  | case1 opening => simp [unlines, String.append_assoc]
  | case2 opening last => simp [unlines, String.append_assoc]
  | case3 opening argument next rest ih =>
      rw [unlines_cons, ih, String.intercalate_cons_cons]
      simp [← String.toList_inj]

private theorem isLine_callLines {opening : String} {arguments : List String}
    (single : '\n' ∉ opening.toList) (inside : ∀ text ∈ arguments, '\n' ∉ text.toList) :
    ∀ line ∈ callLines opening arguments, IsLine line := by
  fun_induction callLines opening arguments with
  | case1 opening => simpa using ⟨by simpa using single, by simp⟩
  | case2 opening last =>
      have last := inside last List.mem_cons_self
      simpa using ⟨by simp [single, last], by simp⟩
  | case3 opening argument next rest ih =>
      intro line member
      rcases List.mem_cons.mp member with rfl | member
      · have first := inside argument List.mem_cons_self
        exact ⟨by simp [single, first], by simp⟩
      · have later := fun text known => inside text (List.mem_cons_of_mem _ known)
        exact ih (by simp) later line member

section Function

variable {function : FunctionText}

private theorem cast?_eq_some {record : String} (word : isIdentifier record = true) :
    cast? ("    const " ++ record ++ " *cmd = static_cast<const " ++ record ++ " *>(vp);") =
      some record := by
  have inner : between? "    const " " *>(vp);"
      ("    const " ++ record ++ " *cmd = static_cast<const " ++ record ++ " *>(vp);") =
      some (record ++ " *cmd = static_cast<const " ++ record) :=
    between?_eq_some (by simp)
  have parts : cut? ' ' (record ++ " *cmd = static_cast<const " ++ record) =
      some (record, "*cmd = static_cast<const " ++ record) :=
    cut?_eq_some (by simp) (not_mem_of_isIdentifier word (by decide))
  have target : between? "*cmd = static_cast<const " ""
      ("*cmd = static_cast<const " ++ record) = some record :=
    between?_eq_some (by simp)
  simp [cast?, inner, parts, target]

private theorem between?_eq_none_of_call {name tail : String} (word : isIdentifier name = true) :
    between? resultSlot "" (name ++ ("(" ++ tail)) = none := by
  refine between?_eq_none fun ⟨rest, whole⟩ => ?_
  -- both sides consist of a word and the character that ends it
  have same := congrArg (List.dropWhile Spec.isWordChar) whole
  rw [String.toList_append, List.dropWhile_append_of_pos (isWordChar_of_mem word)] at same
  have heads := congrArg List.head? same
  simp [resultSlot, Spec.isWordChar, List.dropWhile] at heads

@[simp] theorem argument?_text (argument : ArgumentText) :
    argument? argument.text = some argument := by
  cases argument with
  | context => rfl
  | field name =>
      have other : "cmd->" ++ name ≠ "con" := by simp [← String.toList_inj]
      have field : between? "cmd->" "" ("cmd->" ++ name) = some name := between?_eq_some (by simp)
      simp [ArgumentText.text, argument?, other, field]

private theorem isItem_argument {argument : ArgumentText}
    (word : ∀ name, argument = .field name → isIdentifier name = true) :
    IsItem argument.text := by
  cases argument with
  | context => exact ⟨by decide, by decide, by decide⟩
  | field name =>
      have comma : ',' ∉ name.toList := not_mem_of_isIdentifier (word name rfl) (by decide)
      have parenthesis : '(' ∉ name.toList := not_mem_of_isIdentifier (word name rfl) (by decide)
      exact ⟨by simp [ArgumentText.text], by simp [ArgumentText.text, comma],
        by simp [ArgumentText.text, parenthesis]⟩

structure FunctionText.Spelled (function : FunctionText) : Prop where
  name : isIdentifier function.name = true
  record : isIdentifier function.record = true
  implementation : isIdentifier function.implementation = true
  arguments : ∀ name, .field name ∈ function.arguments → isIdentifier name = true

private theorem call?_callLines (spelled : function.Spelled) :
    call? (callLines ("    " ++ (if function.storesResult then resultSlot else "") ++
        function.implementation ++ "(") (function.arguments.map ArgumentText.text) ++ ["\x7d"]) =
      some (function.storesResult, function.implementation, function.arguments) := by
  let list := ",\n           ".intercalate (function.arguments.map ArgumentText.text)
  let call := function.implementation ++ ("(" ++ list)
  have statement : between? "    " ");\n\x7d\n" (unlines (callLines ("    " ++
      (if function.storesResult then resultSlot else "") ++ function.implementation ++ "(")
      (function.arguments.map ArgumentText.text) ++ ["\x7d"])) =
      some ((if function.storesResult then resultSlot else "") ++ call) := by
    refine between?_eq_some ?_
    rw [unlines_append, unlines_callLines]
    simp [call, list, unlines]
  have stored :
      between? resultSlot "" ((if function.storesResult then resultSlot else "") ++ call) =
        if function.storesResult then some call else none := by
    cases function.storesResult with
    | false => simpa using between?_eq_none_of_call spelled.implementation
    | true => exact between?_eq_some (by simp)
  have callee : cut? '(' call = some (function.implementation, list) :=
    cut?_eq_some (by simp [call]) (not_mem_of_isIdentifier spelled.implementation (by decide))
  have proper : ∀ item ∈ function.arguments.map ArgumentText.text, IsItem item := by
    rw [List.forall_mem_map]
    exact fun argument known => isItem_argument fun name same =>
      spelled.arguments name (same ▸ known)
  have texts : separated? "\n           " list =
      some (function.arguments.map ArgumentText.text) :=
    separated?_intercalate (by decide) proper
  have arguments : (function.arguments.map ArgumentText.text).mapM argument? =
      some function.arguments := by
    have reads : ∀ argument ∈ function.arguments, argument? argument.text = some (id argument) :=
      fun argument _ => argument?_text argument
    simpa using mapM_map_eq_some reads
  simp only [call?, statement, Option.bind_eq_bind, Option.bind_some, stored]
  cases function.storesResult <;> simp [callee, texts, arguments]

theorem function?_lines (spelled : function.Spelled) :
    function? function.lines = some function := by
  have name : between? "void " "(Context *con, const void *vp, size_t cmdSizeBytes)"
      ("void " ++ function.name ++ "(Context *con, const void *vp, size_t cmdSizeBytes)") =
      some function.name := between?_eq_some (by simp)
  have call := call?_callLines spelled
  rw [FunctionText.lines, List.append_assoc]
  simp [function?, name, cast?_eq_some spelled.record, call]

theorem isLine_lines (spelled : function.Spelled) : ∀ line ∈ function.lines, IsLine line := by
  have name : '\n' ∉ function.name.toList := newline_not_mem_of_isIdentifier spelled.name
  have record : '\n' ∉ function.record.toList := newline_not_mem_of_isIdentifier spelled.record
  have implementation : '\n' ∉ function.implementation.toList :=
    newline_not_mem_of_isIdentifier spelled.implementation
  have arguments : ∀ text ∈ function.arguments.map ArgumentText.text, '\n' ∉ text.toList := by
    rw [List.forall_mem_map]
    intro argument known
    cases argument with
    | context => simp [ArgumentText.text]
    | field field =>
        have field : '\n' ∉ field.toList :=
          newline_not_mem_of_isIdentifier (spelled.arguments field known)
        simp [ArgumentText.text, field]
  have call : ∀ line ∈ callLines ("    " ++ (if function.storesResult then resultSlot else "") ++
      function.implementation ++ "(") (function.arguments.map ArgumentText.text), IsLine line :=
    isLine_callLines
      (by cases function.storesResult <;> simp [resultSlot, implementation]) arguments
  intro line member
  rw [FunctionText.lines, List.append_assoc] at member
  rcases List.mem_append.mp member with member | member
  · simp only [List.mem_cons, List.not_mem_nil, or_false] at member
    rcases member with rfl | rfl | rfl
    · exact ⟨by simp [name], by simp⟩
    · exact ⟨by simp, by simp⟩
    · exact ⟨by simp [record], by simp⟩
  · rcases List.mem_append.mp member with member | member
    · exact call line member
    · rw [List.mem_singleton.mp member]
      exact ⟨by simp, by simp⟩

end Function

/-! ## The dispatch table -/

def array? (opening closing line : String) : Option (String × Nat) := do
  let inner ← between? opening closing line
  let (name, numeral) ← cut? '[' inner
  let size ← number? numeral
  return (name, size)

theorem array?_eq_some {opening closing name : String} (size : Nat)
    (word : isIdentifier name = true) :
    array? opening closing (opening ++ name ++ "[" ++ toString size ++ closing) =
      some (name, size) := by
  have inner : between? opening closing (opening ++ name ++ "[" ++ toString size ++ closing) =
      some (name ++ "[" ++ toString size) := between?_eq_some (by simp)
  have parts : cut? '[' (name ++ "[" ++ toString size) = some (name, toString size) :=
    cut?_eq_some (by simp) (not_mem_of_isIdentifier word (by decide))
  simp only [array?, inner, parts, number?_toString, Option.bind_eq_bind, Option.bind_some]
  rfl

def dispatch? : List String → Option ((String × Nat) × List String)
  | [] => none
  | header :: rest => do
      guard (rest.getLast? = some "\x7d;")
      let array ← array? "RsPlaybackFunc " "] = \x7b" header
      let slots ← rest.dropLast.mapM (between? "    " ",")
      return (array, slots)

def dispatchLines (settings : Settings) (table : CallTable) : List String :=
  ("RsPlaybackFunc " ++ settings.dispatchTable ++ "[" ++ toString table.dispatchLength ++
    "] = \x7b") ::
  ((Playback.slots settings table).map (fun slot => "    " ++ slot.text ++ ",") ++ ["\x7d;"])

private theorem dispatch?_dispatchLines (settings : Settings) (table : CallTable)
    (word : isIdentifier settings.dispatchTable = true) :
    dispatch? (dispatchLines settings table) =
      some ((settings.dispatchTable, table.dispatchLength),
        (Playback.slots settings table).map Playback.Slot.text) := by
  have array : array? "RsPlaybackFunc " "] = \x7b" ("RsPlaybackFunc " ++ settings.dispatchTable ++
      "[" ++ toString table.dispatchLength ++ "] = \x7b") =
      some (settings.dispatchTable, table.dispatchLength) := array?_eq_some _ word
  have slots : ((Playback.slots settings table).map fun slot => "    " ++ slot.text ++ ",").mapM
      (between? "    " ",") = some ((Playback.slots settings table).map Playback.Slot.text) :=
    mapM_map_eq_some fun slot _ => between?_eq_some (by simp)
  simp only [dispatch?, dispatchLines, List.getLast?_concat, List.dropLast_concat, array, slots]
  rfl

private theorem dispatchTable_text (settings : Settings) (table : CallTable) :
    Playback.dispatchTable settings table = unlines (dispatchLines settings table) := by
  have slots := unlines_map_indented (fun slot : Playback.Slot => slot.text ++ ",")
    (Playback.slots settings table)
  simp only [← String.append_assoc] at slots
  unfold Playback.dispatchTable
  rw [dispatchLines, unlines_cons, unlines_append, slots]
  generalize String.join ((Playback.slots settings table).map _) = middle
  generalize toString table.dispatchLength = size
  simp [unlines, ← String.toList_inj]

/-! ## The playback source -/

structure HasIdentifiers (settings : Settings) : Prop where
  implPrefix : isIdentifier settings.implPrefix = true
  playbackPrefix : isIdentifier settings.playbackPrefix = true
  recordPrefix : isIdentifier settings.recordPrefix = true
  dispatchTable : isIdentifier settings.dispatchTable = true

structure SourceText where
  functions : List FunctionText
  array : String × Nat
  slots : List String
  deriving DecidableEq, Repr

def sourceOpening (settings : Settings) : String :=
  settings.licenseHeader ++ (Code.includes settings.sourceIncludes ++ "\n" ++
    Code.openNamespaces settings.namespaces ++ Code.includes [settings.handcodeInclude] ++ "\n")

def readSource? (settings : Settings) (text : String) : Option SourceText := do
  let inner ← between? (sourceOpening settings) (Code.closeNamespaces settings.namespaces) text
  let functions ← (paragraphs inner).dropLast.mapM function?
  let (array, slots) ← dispatch? ((paragraphs inner).getLastD [])
  return { functions, array, slots }

def argumentsOf (call : Call) : List ArgumentText :=
  (if call.noContext then [] else [.context]) ++ call.params.map fun param => .field param.name

def functionText (settings : Settings) (call : Call) : FunctionText where
  name := settings.playbackPrefix ++ call.name
  record := settings.recordPrefix ++ call.name
  implementation := settings.implPrefix ++ call.name
  arguments := argumentsOf call
  storesResult := call.returnsValue

section Source

variable {settings : Settings} {table : CallTable} {call : Call}

@[simp] theorem text_functionText (settings : Settings) (call : Call) :
    (functionText settings call).text = (Playback.ofCall settings call).text := by
  have arguments : (argumentsOf call).map ArgumentText.text =
      (Playback.arguments call).map Playback.Argument.text := by
    rw [argumentsOf, Playback.arguments, List.map_append, List.map_append, List.map_map,
      List.map_map]
    cases call.noContext <;> rfl
  rw [FunctionText.text, FunctionText.lines, Playback.Function.text, line_one, line_one,
    List.append_assoc, List.append_assoc, unlines_append, unlines_append, unlines_callLines]
  simp only [functionText, Playback.ofCall, Playback.functionName, Settings.recordName, arguments]
  by_cases returned : call.returnsValue = true <;>
    simp [returned, unlines, resultSlot, ← String.toList_inj]

theorem isIdentifier_name {start : String} (start_word : isIdentifier start = true)
    (fit : call.WellFormed) : isIdentifier (start ++ call.name) = true :=
  isIdentifier_append start_word (List.all_eq_true.mpr (isWordChar_of_mem fit.name))

theorem spelled_functionText (names : HasIdentifiers settings) (fit : call.WellFormed) :
    (functionText settings call).Spelled where
  name := isIdentifier_name names.playbackPrefix fit
  record := isIdentifier_name names.recordPrefix fit
  implementation := isIdentifier_name names.implPrefix fit
  arguments name member := by
    have known : ∃ param ∈ call.params, param.name = name := by
      cases context : call.noContext <;>
        simpa [functionText, argumentsOf, context] using member
    obtain ⟨param, inside, rfl⟩ := known
    exact (fit.params param inside).name

def readFunction? (text : String) : Option FunctionText :=
  match paragraphs text with
  | [lines, []] => function? lines
  | _ => none

private theorem readFunction?_ofCall (names : HasIdentifiers settings) (fit : call.WellFormed) :
    readFunction? (Playback.ofCall settings call).text = some (functionText settings call) := by
  have spelled := spelled_functionText names fit
  have parts : paragraphs (Playback.ofCall settings call).text =
      [(functionText settings call).lines, []] := by
    have only := @paragraphs_unlines [(functionText settings call).lines] []
      (by simpa using isLine_lines spelled) (by simp)
    rw [← text_functionText, FunctionText.text]
    simpa using only
  rw [readFunction?, parts]
  exact function?_lines spelled

/--
What the playback function of a call says: a function with the same text.  If the names
are identifiers, the text can be read in no other way.
-/
structure WrittenPlayback (settings : Settings) (call : Call) (function : FunctionText) :
    Prop where
  text : function.text = (Playback.ofCall settings call).text
  read : HasIdentifiers settings → call.WellFormed →
    readFunction? (Playback.ofCall settings call).text = some function

theorem writtenPlayback (settings : Settings) (call : Call) :
    WrittenPlayback settings call (functionText settings call) where
  text := text_functionText settings call
  read names fit := readFunction?_ofCall names fit

private theorem isLine_dispatchLines (names : HasIdentifiers settings)
    (fit : ∀ call ∈ table.calls, call.WellFormed) :
    ∀ line ∈ dispatchLines settings table, IsLine line := by
  intro line member
  rw [dispatchLines] at member
  rcases List.mem_cons.mp member with rfl | member
  · have name : '\n' ∉ settings.dispatchTable.toList :=
      newline_not_mem_of_isIdentifier names.dispatchTable
    exact ⟨by simp [name, newline_not_mem_toDigits], by simp⟩
  rcases List.mem_append.mp member with member | member
  · obtain ⟨slot, known, rfl⟩ := List.mem_map.mp member
    have text : '\n' ∉ slot.text.toList := by
      rw [Playback.slots] at known
      rcases List.mem_cons.mp known with rfl | known
      · simp [Playback.Slot.text]
      · obtain ⟨call, inside, rfl⟩ := List.mem_map.mp known
        rw [Playback.slot]
        split
        · simp [Playback.Slot.text]
        · exact newline_not_mem_of_isIdentifier
            (isIdentifier_name names.playbackPrefix (fit call inside))
    exact ⟨by simp [text], by simp⟩
  · rw [List.mem_singleton.mp member]
    exact ⟨by simp, by simp⟩

def sourceText (settings : Settings) (table : CallTable) : SourceText where
  functions := (table.calls.filter Call.isBuffered).map (functionText settings)
  array := (settings.dispatchTable, table.dispatchLength)
  slots := (Playback.slots settings table).map Playback.Slot.text

theorem render_playbackSource (settings : Settings) (table : CallTable) :
    Artifact.playbackSource.render settings table =
      sourceOpening settings ++
        (String.join ((table.calls.filter Call.isBuffered).map fun call =>
            (Playback.ofCall settings call).text) ++
          (Playback.dispatchTable settings table ++ Code.closeNamespaces settings.namespaces)) := by
  rw [Artifact.render, Artifact.body, Playback.source, sourceOpening,
    ← CallTable.map_snd_buffered, List.map_map]
  simp only [String.append_assoc]
  rfl

/-- The playback source reads as a function for each buffered call, and the slots. -/
theorem readSource?_render (names : HasIdentifiers settings)
    (fit : ∀ call ∈ table.calls, call.WellFormed) :
    readSource? settings (Artifact.playbackSource.render settings table) =
      some (sourceText settings table) := by
  let groups := (table.calls.filter Call.isBuffered).map fun call =>
    (functionText settings call).lines
  have known : ∀ call ∈ table.calls.filter Call.isBuffered, call.WellFormed :=
    fun call member => fit call (List.mem_of_mem_filter member)
  have definitions : String.join ((table.calls.filter Call.isBuffered).map fun call =>
      (Playback.ofCall settings call).text) = unlines (groups.flatMap (· ++ [""])) := by
    rw [unlines_flatMap, List.map_map]
    simp only [← text_functionText]
    rfl
  have inner : between? (sourceOpening settings) (Code.closeNamespaces settings.namespaces)
      (Artifact.playbackSource.render settings table) =
      some (unlines (groups.flatMap (· ++ [""]) ++ dispatchLines settings table)) := by
    refine between?_eq_some ?_
    rw [unlines_append, ← definitions, ← dispatchTable_text, render_playbackSource]
    simp only [String.toList_append, List.append_assoc]
  have parts : paragraphs (unlines (groups.flatMap (· ++ [""]) ++ dispatchLines settings table)) =
      groups ++ [dispatchLines settings table] := by
    refine paragraphs_unlines (fun group member => ?_) (isLine_dispatchLines names fit)
    obtain ⟨call, inside, rfl⟩ := List.mem_map.mp member
    exact isLine_lines (spelled_functionText names (known call inside))
  have functions : groups.mapM function? =
      some ((table.calls.filter Call.isBuffered).map (functionText settings)) :=
    mapM_map_eq_some fun call inside =>
      function?_lines (spelled_functionText names (known call inside))
  simp only [readSource?, inner, parts, Option.bind_eq_bind, Option.bind_some,
    List.dropLast_concat, List.getLastD_concat, functions,
    dispatch?_dispatchLines settings table names.dispatchTable]
  rfl

end Source

end CommandProtocol.ReadBack
