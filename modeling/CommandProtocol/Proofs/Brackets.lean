import CommandProtocol.Artifact
import CommandProtocol.Proofs.CallSites
import CommandProtocol.Proofs.EmittableTable

/-!
# Nested brackets

The generated files open and close braces and parentheses in many places, often the two in
different functions.  A text is read with the brackets that are open so far; a piece of code
shifts what is open by a fixed amount, whatever is open around it.  Put together, the pieces of
each file close what they open.
-/

namespace CommandProtocol

inductive BracketKind where
  | brace
  | parenthesis
  deriving DecidableEq, Repr

inductive BracketMark where
  | opening (bracket : BracketKind)
  | closing (bracket : BracketKind)
  deriving DecidableEq, Repr

namespace BracketMark

def bracket : BracketMark → BracketKind
  | .opening bracket | .closing bracket => bracket

/--
The open brackets, innermost first, after one more.  A closing bracket must be of the kind that
was opened last.
-/
def apply (opened : List BracketKind) : BracketMark → Option (List BracketKind)
  | .opening bracket => some (bracket :: opened)
  | .closing bracket => if opened.head? = some bracket then some opened.tail else none

variable {mark : BracketMark} {opened after : List BracketKind}

private theorem apply_frame (applied : mark.apply opened = some after) (outer : List BracketKind) :
    mark.apply (opened ++ outer) = some (after ++ outer) := by
  cases mark with
  | opening bracket =>
      cases applied
      rfl
  | closing bracket =>
      rw [apply] at applied ⊢
      split at applied
      · next innermost =>
          cases applied
          obtain ⟨rest, rfl⟩ := List.head?_eq_some_iff.mp innermost
          simp
      · contradiction

private theorem apply_filter {counts : BracketKind → Bool}
    (applied : mark.apply opened = some after) :
    (if counts mark.bracket then mark.apply (opened.filter counts)
      else some (opened.filter counts)) = some (after.filter counts) := by
  cases mark with
  | opening bracket =>
      cases applied
      cases counted : counts bracket <;> simp [BracketMark.bracket, apply, counted]
  | closing bracket =>
      rw [apply] at applied
      split at applied
      · next innermost =>
          cases applied
          obtain ⟨rest, rfl⟩ := List.head?_eq_some_iff.mp innermost
          cases counted : counts bracket <;> simp [BracketMark.bracket, apply, counted]
      · contradiction

end BracketMark

namespace Brackets

def mark? (char : Char) : Option BracketMark :=
  if char = '\x7b' then some (.opening .brace)
  else if char = '\x7d' then some (.closing .brace)
  else if char = '(' then some (.opening .parenthesis)
  else if char = ')' then some (.closing .parenthesis)
  else none

def step (counts : BracketKind → Bool) (opened : List BracketKind) (char : Char) :
    Option (List BracketKind) :=
  match mark? char with
  | none => some opened
  | some mark => if counts mark.bracket then mark.apply opened else some opened

def read (counts : BracketKind → Bool) (opened : List BracketKind) (text : String) :
    Option (List BracketKind) :=
  text.toList.foldlM (step counts) opened

/-- Every bracket that counts is closed in turn, and none is closed that was not opened. -/
def Balanced (counts : BracketKind → Bool) (text : String) : Prop := read counts [] text = some []

instance (counts : BracketKind → Bool) (text : String) : Decidable (Balanced counts text) :=
  inferInstanceAs (Decidable (read counts [] text = some []))

/-! ## Reading with more open, or with fewer kinds -/

section Reading

variable {counts : BracketKind → Bool} {opened after : List BracketKind}

theorem step_frame {char : Char} (stepped : step counts opened char = some after)
    (outer : List BracketKind) : step counts (opened ++ outer) char = some (after ++ outer) := by
  rw [step] at stepped ⊢
  cases marked : mark? char with
  | none =>
      simp only [marked] at stepped
      cases stepped
      rfl
  | some mark =>
      simp only [marked] at stepped
      split at stepped
      · next counted => simpa only [counted, if_true] using BracketMark.apply_frame stepped outer
      · next passed =>
          cases stepped
          exact if_neg passed

private theorem step_filter (counts : BracketKind → Bool) {char : Char}
    (stepped : step (fun _ => true) opened char = some after) :
    step counts (opened.filter counts) char = some (after.filter counts) := by
  rw [step] at stepped ⊢
  cases marked : mark? char with
  | none =>
      simp only [marked] at stepped
      cases stepped
      rfl
  | some mark =>
      simp only [marked, if_true] at stepped
      exact BracketMark.apply_filter stepped

theorem steps_map {others : BracketKind → Bool} {change : List BracketKind → List BracketKind}
    (each : ∀ {opened after char}, step counts opened char = some after →
      step others (change opened) char = some (change after))
    {chars : List Char} (ran : chars.foldlM (step counts) opened = some after) :
    chars.foldlM (step others) (change opened) = some (change after) := by
  induction chars generalizing opened with
  | nil =>
      cases ran
      rfl
  | cons char rest ih =>
      rw [List.foldlM_cons, Option.bind_eq_bind, Option.bind_eq_some_iff] at ran
      obtain ⟨next, stepped, later⟩ := ran
      rw [List.foldlM_cons, each stepped]
      exact ih later

end Reading

/-! ## Pieces of code -/

/-- Whatever is open around, the text leaves `after` open where `before` was open. -/
def Shifts (counts : BracketKind → Bool) (text : String) (before after : List BracketKind) : Prop :=
  ∀ outer, read counts (before.filter counts ++ outer) text = some (after.filter counts ++ outer)

abbrev Neutral (counts : BracketKind → Bool) (text : String) : Prop := Shifts counts text [] []

theorem balanced_iff {counts : BracketKind → Bool} {text : String} :
    Balanced counts text ↔ Neutral counts text :=
  ⟨fun balanced outer => steps_map (step_frame · outer) balanced, fun neutral => neutral []⟩

section Pieces

variable {counts : BracketKind → Bool} {first second text : String}
  {before middle after : List BracketKind}

/-- A fixed text is read once, with all brackets counting and nothing open around. -/
theorem Shifts.literal {chars : List Char}
    (checked : chars.foldlM (step fun _ => true) before = some after) :
    Shifts counts (String.ofList chars) before after := by
  intro outer
  rw [read, String.toList_ofList]
  have counted := steps_map (step_filter counts) checked
  exact steps_map (step_frame · outer) counted

theorem Shifts.append (early : Shifts counts first before middle)
    (late : Shifts counts second middle after) : Shifts counts (first ++ second) before after := by
  intro outer
  rw [read, String.toList_append, List.foldlM_append]
  have ran := early outer
  rw [read] at ran
  rw [ran]
  exact late outer

theorem Shifts.within (shifts : Shifts counts text before after) (around : List BracketKind) :
    Shifts counts text (before ++ around) (after ++ around) := by
  intro outer
  rw [List.filter_append, List.filter_append, List.append_assoc, List.append_assoc]
  exact shifts (around.filter counts ++ outer)

theorem Shifts.inside (early : Shifts counts first before after) (inner : Neutral counts text) :
    Shifts counts (first ++ text) before after :=
  early.append (inner.within after)

theorem neutral_of_plain (plain : ∀ char ∈ text.toList, mark? char = none) :
    Neutral counts text := by
  have quiet {chars : List Char} (plain : ∀ char ∈ chars, mark? char = none)
      (opened : List BracketKind) : chars.foldlM (step counts) opened = some opened := by
    induction chars with
    | nil => rfl
    | cons char rest ih =>
        rw [List.forall_mem_cons] at plain
        have stepped : step counts opened char = some opened := by rw [step, plain.1]
        rw [List.foldlM_cons, stepped]
        exact ih plain.2
  exact fun outer => quiet plain outer

theorem neutral_join {texts : List String} (each : ∀ text ∈ texts, Neutral counts text) :
    Neutral counts (String.join texts) := by
  induction texts with
  | nil => exact .literal rfl
  | cons text rest ih =>
      rw [List.forall_mem_cons] at each
      rw [String.join_cons]
      exact each.1.append (ih each.2)

theorem neutral_intercalate {separator : String} {texts : List String}
    (between : Neutral counts separator) (each : ∀ text ∈ texts, Neutral counts text) :
    Neutral counts (separator.intercalate texts) := by
  induction texts with
  | nil => exact .literal rfl
  | cons text rest ih =>
      rw [List.forall_mem_cons] at each
      cases rest with
      | nil => simpa using each.1
      | cons next rest =>
          rw [String.intercalate_cons_cons]
          exact (each.1.append between).append (ih each.2)

theorem neutral_ite {condition : Prop} [Decidable condition] (yes : Neutral counts first)
    (no : Neutral counts second) : Neutral counts (if condition then first else second) := by
  split
  · exact yes
  · exact no

theorem mark?_of_isWordChar {char : Char} (word : Spec.isWordChar char = true) :
    mark? char = none := by
  have other (symbol : Char) (not_word : Spec.isWordChar symbol = false) : char ≠ symbol := by
    rintro rfl
    rw [word] at not_word
    contradiction
  simp [mark?, other '\x7b' rfl, other '\x7d' rfl, other '(' rfl, other ')' rfl]

theorem neutral_identifier {name : String} (word : isIdentifier name = true) :
    Neutral counts name :=
  neutral_of_plain fun char member => mark?_of_isWordChar (isWordChar_of_mem word char member)

theorem neutral_replicate (count : Nat) {char : Char} (plain : mark? char = none) :
    Neutral counts (String.ofList (List.replicate count char)) := by
  refine neutral_of_plain fun other member => ?_
  rw [String.toList_ofList] at member
  rwa [List.eq_of_mem_replicate member]

theorem neutral_toString (value : Nat) : Neutral counts (toString value) := by
  refine neutral_of_plain fun char member => mark?_of_isWordChar ?_
  rw [Nat.toString_eq_repr, Nat.toList_repr] at member
  have digit := Nat.isDigit_of_mem_toDigits (by decide) (by decide) member
  simp [Spec.isWordChar, Char.isAlphanum, digit]

end Pieces

end Brackets

/-! ## Types and signatures -/

open Brackets

section Signatures

variable {counts : BracketKind → Bool}

theorem Variable.neutral_cType {var : Variable} (fit : var.base.WellFormed) :
    Neutral counts var.cType := by
  have base : Neutral counts var.base.cName := neutral_identifier (ReadBack.isIdentifier_cName fit)
  have stars : Neutral counts (" " ++ String.ofList (List.replicate var.pointers '*')) :=
    .append (.literal rfl) (neutral_replicate _ rfl)
  exact ((neutral_ite (.literal rfl) (.literal rfl)).append base).append
    (neutral_ite stars (.literal rfl))

theorem Variable.neutral_declaration {var : Variable} (fit : var.base.WellFormed)
    (name : Neutral counts var.name) : Neutral counts var.declaration :=
  (neutral_cType fit).append (neutral_ite (.literal rfl) (.append (.literal rfl) name))

theorem Variable.WellFormed.neutral {var : Variable} (fit : var.WellFormed) :
    Neutral counts var.declaration :=
  neutral_declaration fit.base (neutral_identifier fit.name)

theorem Call.neutral_items {call : Call} {separator context : String} {write : Variable → String}
    (between : Neutral counts separator) (first : Neutral counts context)
    (later : ∀ param ∈ call.params, Neutral counts (write param)) :
    Neutral counts (separator.intercalate (call.items context write)) :=
  neutral_intercalate between (forall_mem_items first later)

theorem Call.neutral_signature {call : Call} (fit : call.WellFormed) {start : String}
    (begun : Neutral counts start) (form : ContextForm) :
    Neutral counts (call.signature start form) := by
  have result : Neutral counts call.result.declaration :=
    Variable.neutral_declaration fit.result.base (by rw [fit.result.bare]; exact .literal rfl)
  have name : Neutral counts (start ++ call.name) := begun.append (neutral_identifier fit.name)
  have context : Neutral counts form.declaration := by cases form <;> exact .literal rfl
  have arguments : Neutral counts (", ".intercalate (call.argumentTexts form)) :=
    neutral_items (.literal rfl) context fun param known => (fit.params param known).neutral
  have opening : Shifts counts " (" [] [.parenthesis] := .literal rfl
  rw [signature_eq]
  exact ((((result.append (.literal rfl)).append name).append opening).inside arguments).append
    (.literal rfl)

private theorem Call.neutral_forwardedArguments {call : Call} (fit : call.WellFormed)
    {context : String} (present : context ≠ "") (begun : Neutral counts context) :
    Neutral counts (call.forwardedArguments context) := by
  have filled : ∀ param ∈ call.params, param.name ≠ "" :=
    fun param known => (ReadBack.isItem_of_isIdentifier (fit.params param known).name).filled
  rw [forwardedArguments_eq present filled]
  exact neutral_items (.literal rfl) begun fun param known =>
    neutral_identifier (fit.params param known).name

end Signatures

/-! ## Parts of the files -/

def Settings.texts (settings : Settings) : List String :=
  [settings.clientPrefix, settings.implPrefix, settings.playbackPrefix, settings.handcodePrefix,
    settings.recordPrefix, settings.dispatchTable, settings.handcodeInclude,
    settings.licenseHeader] ++ settings.namespaces ++ settings.sourceIncludes

structure Settings.Quiet (counts : BracketKind → Bool) (settings : Settings) : Prop where
  clientPrefix : Neutral counts settings.clientPrefix
  implPrefix : Neutral counts settings.implPrefix
  playbackPrefix : Neutral counts settings.playbackPrefix
  handcodePrefix : Neutral counts settings.handcodePrefix
  recordPrefix : Neutral counts settings.recordPrefix
  dispatchTable : Neutral counts settings.dispatchTable
  handcodeInclude : Neutral counts settings.handcodeInclude
  licenseHeader : Neutral counts settings.licenseHeader
  namespaces : ∀ name ∈ settings.namespaces, Neutral counts name
  sourceIncludes : ∀ file ∈ settings.sourceIncludes, Neutral counts file

theorem Settings.quiet_iff {counts : BracketKind → Bool} {settings : Settings} :
    settings.Quiet counts ↔ ∀ text ∈ settings.texts, Balanced counts text := by
  simp only [texts, balanced_iff, List.forall_mem_append, List.forall_mem_cons]
  constructor
  · intro quiet
    exact ⟨⟨⟨quiet.clientPrefix, quiet.implPrefix, quiet.playbackPrefix, quiet.handcodePrefix,
      quiet.recordPrefix, quiet.dispatchTable, quiet.handcodeInclude, quiet.licenseHeader,
      by simp⟩, quiet.namespaces⟩, quiet.sourceIncludes⟩
  · rintro ⟨⟨⟨client, impl, playback, handcode, record, dispatch, header, license, -⟩, scopes⟩,
      files⟩
    exact ⟨client, impl, playback, handcode, record, dispatch, header, license, scopes, files⟩

namespace Code

variable {counts : BracketKind → Bool} {before after : List BracketKind}

theorem shifts_line (depth : Nat) {text : String} (shifts : Shifts counts text before after) :
    Shifts counts (line depth text) before after := by
  have indentation : Neutral counts (String.ofList (List.replicate (4 * depth) ' ')) :=
    neutral_replicate _ rfl
  have ending : Neutral counts "\n" := .literal rfl
  exact ((indentation.within before).append shifts).inside ending

theorem neutral_includes {files : List String} (each : ∀ file ∈ files, Neutral counts file) :
    Neutral counts (includes files) :=
  neutral_join (List.forall_mem_map.mpr fun file known =>
    (Shifts.append (.literal rfl) (each file known)).append (.literal rfl))

private theorem neutral_usingNamespaces {names : List String}
    (each : ∀ name ∈ names, Neutral counts name) :
    Neutral counts (usingNamespaces names) := by
  refine neutral_join (List.forall_mem_map.mpr fun depth _ => ?_)
  have path : Neutral counts ("::".intercalate (names.take (depth + 1))) :=
    neutral_intercalate (.literal rfl) fun name member => each name (List.mem_of_mem_take member)
  exact (Shifts.append (.literal rfl) path).append (.literal rfl)

theorem shifts_openNamespaces {names : List String}
    (each : ∀ name ∈ names, Neutral counts name) :
    Shifts counts (openNamespaces names) [] (List.replicate names.length .brace) := by
  induction names with
  | nil => exact .literal rfl
  | cons name rest ih =>
      rw [List.forall_mem_cons] at each
      have opened : Shifts counts ("namespace " ++ name ++ " \x7b\n") [] [.brace] :=
        (Shifts.append (.literal rfl) each.1).append (.literal rfl)
      rw [openNamespaces, List.map_cons, String.join_cons, List.length_cons, List.replicate_succ']
      exact opened.append ((ih each.2).within [.brace])

theorem shifts_closeNamespaces (names : List String) :
    Shifts counts (closeNamespaces names) (List.replicate names.length .brace) [] := by
  induction names with
  | nil => exact .literal rfl
  | cons name rest ih =>
      have closed : Shifts counts "\x7d\n" [.brace] [] := .literal rfl
      rw [closeNamespaces, List.map_cons, String.join_cons]
      exact (closed.within (List.replicate rest.length .brace)).append ih

end Code

/-! ## Records and declarations -/

section Header

variable {counts : BracketKind → Bool}

private theorem RecordLayout.neutral_typedef {layout : RecordLayout}
    (name : Neutral counts layout.name) :
    Neutral counts layout.typedef :=
  (((Shifts.append (.literal rfl) name).append (.literal rfl)).append name).append (.literal rfl)

private theorem RecordLayout.neutral_definition {layout : RecordLayout}
    (name : Neutral counts layout.name) (fields : ∀ field ∈ layout.fields, field.WellFormed) :
    Neutral counts layout.definition := by
  have opening : Shifts counts "_rec \x7b\n" [] [.brace] := .literal rfl
  have closing : Shifts counts "\x7d;\n\n" [.brace] [] := .literal rfl
  have each : Neutral counts (String.join (layout.fields.map fun field =>
      Code.line 1 (field.declaration ++ ";"))) :=
    neutral_join (List.forall_mem_map.mpr fun field known =>
      Code.shifts_line 1 ((fields field known).neutral.append (.literal rfl)))
  exact (((Shifts.append (.literal rfl) name).append opening).inside each).append closing

private theorem Structures.neutral_definitions {settings : Settings} {layouts : List RecordLayout}
    {entries : List (Nat × Call)}
    (ids : ∀ entry ∈ entries, Neutral counts (idDefinition settings entry.1 entry.2))
    (records : ∀ layout ∈ layouts, Neutral counts layout.definition) :
    ∀ text ∈ definitions settings layouts entries, Neutral counts text := by
  fun_induction definitions settings layouts entries with
  | case1 => simp
  | case2 id call rest ih =>
      rw [List.forall_mem_cons] at ids
      rw [List.forall_mem_cons, List.forall_mem_cons]
      exact ⟨ids.1, .literal rfl, ih ids.2 records⟩
  | case3 layout later call rest ih =>
      rw [List.forall_mem_cons] at ids records
      rw [List.forall_mem_cons, List.forall_mem_cons]
      exact ⟨ids.1, records.1, ih ids.2 records.2⟩
  | case4 layout later id call rest other ih =>
      rw [List.forall_mem_cons] at ids
      rw [List.forall_mem_cons, List.forall_mem_cons]
      exact ⟨ids.1, .literal rfl, ih ids.2 records⟩

variable {settings : Settings} {table : CallTable} (named : settings.Quiet counts)

include named in
theorem neutral_recordName {call : Call} (fit : call.WellFormed) :
    Neutral counts (settings.recordName call.name) :=
  named.recordPrefix.append (neutral_identifier fit.name)

include named in
theorem neutral_commandIdName {call : Call} (fit : call.WellFormed) :
    Neutral counts (settings.commandIdName call.name) :=
  (named.recordPrefix.append (.literal rfl)).append (neutral_identifier fit.name)

variable (fit : ∀ call ∈ table.calls, call.WellFormed)

include fit in
theorem wellFormed_of_mem_buffered {entry : Nat × Call} (known : entry ∈ table.buffered) :
    entry.2.WellFormed :=
  fit entry.2 (CallTable.mem_calls_of_mem_numbered (List.mem_of_mem_filter known))

include named fit in
theorem Structures.neutral_text : Neutral counts (text settings table) := by
  have layouts : ∀ layout ∈ RecordLayout.ofTable settings table, Neutral counts layout.name ∧
      ∀ field ∈ layout.fields, field.WellFormed :=
    List.forall_mem_map.mpr fun entry known =>
      have proper := wellFormed_of_mem_buffered fit known
      ⟨neutral_recordName named proper, proper.params⟩
  have ids : ∀ entry ∈ table.numbered,
      Neutral counts (idDefinition settings entry.1 entry.2) := by
    intro entry known
    have name : Neutral counts (settings.commandIdName entry.2.name) :=
      neutral_commandIdName named (fit entry.2 (CallTable.mem_calls_of_mem_numbered known))
    exact (((Shifts.append (.literal rfl) name).append (.literal rfl)).append
      (neutral_toString entry.1)).append (.literal rfl)
  have typedefs : Neutral counts (String.join
      ((RecordLayout.ofTable settings table).map RecordLayout.typedef)) :=
    neutral_join (List.forall_mem_map.mpr fun layout known =>
      RecordLayout.neutral_typedef (layouts layout known).1)
  refine (typedefs.append (.literal rfl)).append (neutral_join (neutral_definitions ids ?_))
  exact fun layout known => RecordLayout.neutral_definition (layouts layout known).1
    (layouts layout known).2

include fit in
theorem Declaration.neutral_functions {start : String} (begun : Neutral counts start)
    (form : ContextForm) : Neutral counts (functions table start form) := by
  refine (neutral_join (List.forall_mem_map.mpr fun call known => ?_)).append (.literal rfl)
  exact (Call.neutral_signature (fit call known) begun form).append (.literal rfl)

include named fit in
private theorem Declaration.neutral_playback : Neutral counts (playback settings table) := by
  refine neutral_join (List.forall_mem_map.mpr fun entry known => ?_)
  have name : Neutral counts entry.2.name :=
    neutral_identifier (wellFormed_of_mem_buffered fit known).name
  exact ((Shifts.append (.literal rfl) named.playbackPrefix).append name).append (.literal rfl)

include named in
private theorem Declaration.neutral_dispatch : Neutral counts (dispatch settings table) := by
  have typedef : Neutral counts
      "\n\ntypedef void (*RsPlaybackFunc)(Context *, const void *, size_t sizeBytes);\n" :=
    .literal rfl
  exact ((((typedef.append (.literal rfl)).append named.dispatchTable).append
    (.literal rfl)).append (neutral_toString table.dispatchLength)).append (.literal rfl)

end Header

/-! ## Client functions -/

namespace Marshal

section Steps

variable {counts : BracketKind → Bool}

def Action.Quiet (counts : BracketKind → Bool) : Action → Prop
  | .openBuffer | .declareDataSize | .declarePayload => True
  | .declareSize record | .reserve record _ => Neutral counts record
  | .addLength term => Neutral counts term
  | .copyPayload param | .advancePayload param | .storeArgument param => Neutral counts param.name
  | .storePayload param => Neutral counts param.name ∧ Neutral counts param.cType
  | .commit _ id _ => Neutral counts id
  | .returnResult type => Neutral counts type

theorem neutral_lengthName {param : Variable} (name : Neutral counts param.name) :
    Neutral counts param.lengthName :=
  name.append (.literal rfl)

private theorem neutral_reservation {record amount : String} (named : Neutral counts record)
    (sized : Neutral counts amount) :
    Neutral counts (record ++ " *cmd = static_cast<" ++ record ++ " *>(io->mToCore.reserve(" ++
      amount ++ "));") := by
  have cast : Shifts counts " *>(io->mToCore.reserve(" [] [.parenthesis, .parenthesis] :=
    .literal rfl
  exact ((((named.append (.literal rfl)).append named).append cast).inside sized).append
    (.literal rfl)

theorem Action.neutral_text {action : Action} (quiet : action.Quiet counts) :
    Neutral counts action.text := by
  cases action with
  | openBuffer => exact .literal rfl
  | declareSize record =>
      have opening : Shifts counts "uint32_t size = sizeof(" [] [.parenthesis] := .literal rfl
      exact (opening.inside quiet).append (.literal rfl)
  | declareDataSize => exact .literal rfl
  | addLength term => exact (Shifts.append (.literal rfl) quiet).append (.literal rfl)
  | reserve record limit =>
      refine neutral_reservation quiet ?_
      cases limit with
      | some limit =>
          have number : Neutral counts (toString limit.toNat) := neutral_toString _
          exact (Shifts.append (.literal rfl) number).append (.literal rfl)
      | none =>
          have opening : Shifts counts "sizeof(" [] [.parenthesis] := .literal rfl
          exact (opening.inside quiet).append (.literal rfl)
  | declarePayload => exact .literal rfl
  | copyPayload param =>
      have opening : Shifts counts "memcpy(payload, " [] [.parenthesis] := .literal rfl
      exact (((opening.inside quiet).inside (.literal rfl)).inside
        (neutral_lengthName quiet)).append (.literal rfl)
  | storePayload param =>
      have opening : Shifts counts " = (" [] [.parenthesis] := .literal rfl
      exact (((Shifts.append (.literal rfl) quiet.1).append opening).inside quiet.2).append
        (.literal rfl)
  | advancePayload param =>
      exact (Shifts.append (.literal rfl) (neutral_lengthName quiet)).append (.literal rfl)
  | storeArgument param =>
      exact (((Shifts.append (.literal rfl) quiet).append (.literal rfl)).append quiet).append
        (.literal rfl)
  | commit mode id withData =>
      have function : Neutral counts mode.function := by cases mode <;> exact .literal rfl
      have opening : Shifts counts "(" [] [.parenthesis] := .literal rfl
      have amount : Neutral counts (if withData then "size + dataSize" else "size") :=
        neutral_ite (.literal rfl) (.literal rfl)
      exact (((((Shifts.append (.literal rfl) function).append opening).inside quiet).inside
        (.literal rfl)).inside amount).append (.literal rfl)
  | returnResult type => exact (Shifts.append (.literal rfl) quiet).append (.literal rfl)

def Step.Quiet (counts : BracketKind → Bool) : Step → Prop
  | .always action => action.Quiet counts
  | .ifBelow _ small large => ∀ action ∈ small ++ large, action.Quiet counts

theorem neutral_actionLines (depth : Nat) {actions : List Action}
    (quiet : ∀ action ∈ actions, action.Quiet counts) :
    Neutral counts (actionLines depth actions) :=
  neutral_join (List.forall_mem_map.mpr fun action known =>
    Code.shifts_line depth (Action.neutral_text (quiet action known)))

theorem Step.neutral_text {step : Step} (quiet : step.Quiet counts) :
    Neutral counts step.text := by
  cases step with
  | always action => exact Code.shifts_line 1 (Action.neutral_text quiet)
  | ifBelow limit small large =>
      rw [Step.Quiet, List.forall_mem_append] at quiet
      have test : Shifts counts "if (dataSize < " [] [.parenthesis] := .literal rfl
      have opening : Shifts counts ") \x7b" [.parenthesis] [.brace] := .literal rfl
      have turning : Shifts counts "\x7d else \x7b" [.brace] [.brace] := .literal rfl
      have closing : Shifts counts "\x7d" [.brace] [] := .literal rfl
      have number : Neutral counts (toString limit.toNat) := neutral_toString _
      have head := Code.shifts_line 1 ((test.inside number).append opening)
      have before := (head.inside (neutral_actionLines 2 quiet.1)).append
        (Code.shifts_line 1 turning)
      exact (before.inside (neutral_actionLines 2 quiet.2)).append (Code.shifts_line 1 closing)

end Steps

private theorem quiet_inlineStore {counts : BracketKind → Bool} {param : Variable}
    (fit : param.WellFormed) (limit : UInt32) : (inlineStore limit param).Quiet counts := by
  have name : Neutral counts param.name := neutral_identifier fit.name
  have type : Neutral counts param.cType := Variable.neutral_cType fit.base
  rw [inlineStore]
  split
  · simp only [Step.Quiet, List.forall_mem_append, List.forall_mem_cons]
    exact ⟨⟨name, ⟨name, type⟩, name, by simp⟩, name, by simp⟩
  · exact name

section Functions

variable {counts : BracketKind → Bool} {settings : Settings} {call : Call}
  (named : settings.Quiet counts) (fit : call.WellFormed)
include named fit

private theorem quiet_plainSteps : ∀ step ∈ plainSteps settings call, step.Quiet counts := by
  have record : Neutral counts (settings.recordName call.name) := neutral_recordName named fit
  have id : Neutral counts (settings.commandIdName call.name) := neutral_commandIdName named fit
  have stores : ∀ step ∈ call.params.map fun param => Step.always (.storeArgument param),
      step.Quiet counts :=
    List.forall_mem_map.mpr fun param known => neutral_identifier (fit.params param known).name
  simp only [plainSteps, List.forall_mem_append, List.forall_mem_cons]
  exact ⟨⟨⟨trivial, record, record, by simp⟩, stores⟩, id, by simp⟩

private theorem quiet_inlineSteps {terms : List String}
    (lengths : ∀ term ∈ terms, Neutral counts term) :
    ∀ step ∈ inlineSteps settings call terms, step.Quiet counts := by
  have record : Neutral counts (settings.recordName call.name) := neutral_recordName named fit
  have id : Neutral counts (settings.commandIdName call.name) := neutral_commandIdName named fit
  have sums : ∀ step ∈ terms.map fun term => Step.always (.addLength term), step.Quiet counts :=
    List.forall_mem_map.mpr lengths
  have stores : ∀ step ∈ call.params.map (inlineStore settings.inlineThreshold),
      step.Quiet counts :=
    List.forall_mem_map.mpr fun param known => quiet_inlineStore (fit.params param known) _
  have commits : ∀ action ∈ [Action.commit .async (settings.commandIdName call.name) true] ++
      [.commit .sync (settings.commandIdName call.name) false], action.Quiet counts := by
    simp only [List.forall_mem_append, List.forall_mem_cons]
    exact ⟨⟨id, by simp⟩, id, by simp⟩
  simp only [inlineSteps, List.forall_mem_append, List.forall_mem_cons]
  exact ⟨⟨⟨⟨⟨trivial, record, trivial, by simp⟩, sums⟩, record, trivial, by simp⟩, stores⟩,
    commits, by simp⟩

private theorem quiet_steps : ∀ step ∈ steps settings call, step.Quiet counts := by
  have returned : ∀ step ∈ returnSteps call, step.Quiet counts := by
    rw [returnSteps]
    split
    · rw [List.forall_mem_singleton]
      exact Variable.neutral_cType fit.result.base
    · simp
  have lengths : ∀ term ∈ (InlinePlan.ofCall call).lengthTerms, Neutral counts term := by
    intro term listed
    obtain ⟨param, inside, -, rfl⟩ := InlinePlan.mem_lengthTerms listed
    exact neutral_lengthName (neutral_identifier (fit.params param inside).name)
  rw [steps, List.forall_mem_append]
  refine ⟨?_, returned⟩
  split
  · exact quiet_inlineSteps named fit lengths
  · exact quiet_plainSteps named fit

theorem neutral_body : Neutral counts (body settings call).text := by
  rw [body]
  split
  · have target : Neutral counts (settings.handcodePrefix ++ call.name) :=
      named.handcodePrefix.append (neutral_identifier fit.name)
    have arguments : Neutral counts (call.forwardedArguments "rsc") :=
      Call.neutral_forwardedArguments fit (by decide) (.literal rfl)
    have start : Neutral counts (if call.returnsValue then "return " else "") :=
      neutral_ite (.literal rfl) (.literal rfl)
    have opening : Shifts counts "(" [] [.parenthesis] := .literal rfl
    have closing : Shifts counts ");" [.parenthesis] [] := .literal rfl
    exact Code.shifts_line 1
      ((((start.append target).append opening).inside arguments).append closing)
  · exact neutral_join (List.forall_mem_map.mpr fun step known =>
      Step.neutral_text (quiet_steps named fit step known))

theorem neutral_function : Neutral counts (function settings call) := by
  have signature : Neutral counts (call.signature settings.clientPrefix .client) :=
    Call.neutral_signature fit named.clientPrefix _
  have opening : Shifts counts "\n\x7b\n" [] [.brace] := .literal rfl
  have closing : Shifts counts "\x7d\n\n" [.brace] [] := .literal rfl
  exact ((signature.append opening).inside (neutral_body named fit)).append closing

end Functions

theorem neutral_source {counts : BracketKind → Bool} {settings : Settings} {table : CallTable}
    (named : settings.Quiet counts) (fit : ∀ call ∈ table.calls, call.WellFormed) :
    Neutral counts (source settings table) := by
  have headers : Neutral counts (Code.includes settings.sourceIncludes) :=
    Code.neutral_includes named.sourceIncludes
  have handcoded : Neutral counts (Code.includes [settings.handcodeInclude]) :=
    Code.neutral_includes (List.forall_mem_singleton.mpr named.handcodeInclude)
  have scopes : Neutral counts (Code.usingNamespaces settings.namespaces) :=
    Code.neutral_usingNamespaces named.namespaces
  have functions : Neutral counts
      (String.join (table.buffered.map fun entry => function settings entry.2)) :=
    neutral_join (List.forall_mem_map.mpr fun _ known =>
      neutral_function named (wellFormed_of_mem_buffered fit known))
  exact ((((headers.append (.literal rfl)).append scopes).append handcoded).append
    (.literal rfl)).append functions

end Marshal

/-! ## Playback functions -/

namespace Playback

section Functions

variable {counts : BracketKind → Bool} {settings : Settings} (named : settings.Quiet counts)
include named

theorem neutral_functionName {call : Call} (fit : call.WellFormed) :
    Neutral counts (functionName settings call) :=
  named.playbackPrefix.append (neutral_identifier fit.name)

omit named in
private theorem neutral_arguments {call : Call} (fit : call.WellFormed) :
    Neutral counts (",\n           ".intercalate ((arguments call).map Argument.text)) := by
  rw [ReadBack.text_arguments]
  exact Call.neutral_items (.literal rfl) (.literal rfl) fun param known =>
    .append (.literal rfl) (neutral_identifier (fit.params param known).name)

theorem neutral_function {call : Call} (fit : call.WellFormed) :
    Neutral counts (ofCall settings call).text := by
  have record : Neutral counts (settings.recordName call.name) := neutral_recordName named fit
  have target : Neutral counts (settings.implPrefix ++ call.name) :=
    named.implPrefix.append (neutral_identifier fit.name)
  have type : Neutral counts "void " := .literal rfl
  have opening : Shifts counts "(Context *con, const void *vp, size_t cmdSizeBytes)\n\x7b\n" []
      [.brace] :=
    .literal rfl
  have cast : Neutral counts ("const " ++ settings.recordName call.name ++
      " *cmd = static_cast<const " ++ settings.recordName call.name ++ " *>(vp);") :=
    (((Shifts.append (.literal rfl) record).append (.literal rfl)).append record).append
      (.literal rfl)
  have result : Neutral counts
      (if call.returnsValue then "con->mIO.mToCoreRet = (intptr_t)" else "") :=
    neutral_ite (.literal rfl) (.literal rfl)
  have entering : Shifts counts "(" [] [.parenthesis] := .literal rfl
  have leaving : Shifts counts ");" [.parenthesis] [] := .literal rfl
  have closing : Shifts counts "\x7d\n\n" [.brace] [] := .literal rfl
  have head := (type.append (neutral_functionName named fit)).append opening
  have invoked := (((result.append target).append entering).inside
    (neutral_arguments fit)).append leaving
  exact ((head.inside (Code.shifts_line 1 cast)).inside (Code.shifts_line 1 invoked)).append closing

variable {table : CallTable} (fit : ∀ call ∈ table.calls, call.WellFormed)
include fit

private theorem neutral_dispatchTable : Neutral counts (dispatchTable settings table) := by
  have slot_text : ∀ slot ∈ slots settings table, Neutral counts slot.text := by
    rw [slots, List.forall_mem_cons, List.forall_mem_map]
    refine ⟨.literal rfl, fun call known => ?_⟩
    rw [slot]
    split
    · exact .literal rfl
    · exact neutral_functionName named (fit call known)
  have entries : Neutral counts (String.join ((slots settings table).map fun slot =>
      Code.line 1 (slot.text ++ ","))) :=
    neutral_join (List.forall_mem_map.mpr fun slot known =>
      Code.shifts_line 1 ((slot_text slot known).append (.literal rfl)))
  have opening : Shifts counts "] = \x7b\n" [] [.brace] := .literal rfl
  have closing : Shifts counts "\x7d;\n" [.brace] [] := .literal rfl
  exact (((((Shifts.append (.literal rfl) named.dispatchTable).append (.literal rfl)).append
    (neutral_toString table.dispatchLength)).append opening).inside entries).append closing

theorem neutral_source : Neutral counts (source settings table) := by
  have headers : Neutral counts (Code.includes settings.sourceIncludes) :=
    Code.neutral_includes named.sourceIncludes
  have handcoded : Neutral counts (Code.includes [settings.handcodeInclude]) :=
    Code.neutral_includes (List.forall_mem_singleton.mpr named.handcodeInclude)
  have functions : Neutral counts
      (String.join (table.buffered.map fun entry => (ofCall settings entry.2).text)) :=
    neutral_join (List.forall_mem_map.mpr fun _ known =>
      neutral_function named (wellFormed_of_mem_buffered fit known))
  have blank : Neutral counts "\n" := .literal rfl
  have opened := (headers.append blank).append (Code.shifts_openNamespaces named.namespaces)
  exact ((((opened.inside handcoded).inside blank).inside functions).inside
    (neutral_dispatchTable named fit)).append (Code.shifts_closeNamespaces settings.namespaces)

end Functions

end Playback

/-! ## Whole files -/

namespace Artifact

section Files

variable {counts : BracketKind → Bool} {settings : Settings} {table : CallTable}
  (named : settings.Quiet counts) (fit : ∀ call ∈ table.calls, call.WellFormed)
include named fit

private theorem neutral_recordHeader : Neutral counts (recordHeader settings table) := by
  have headers : Neutral counts (Code.includes ["rsContext.h"]) :=
    Code.neutral_includes (List.forall_mem_singleton.mpr (.literal rfl))
  have declarations : Neutral counts (Declaration.functions table settings.implPrefix .core) :=
    Declaration.neutral_functions fit named.implPrefix _
  have blank : Neutral counts "\n" := .literal rfl
  have opened := ((blank.append headers).append blank).append
    (Code.shifts_openNamespaces named.namespaces)
  exact ((((opened.inside (Structures.neutral_text named fit)).inside declarations).inside
    (Declaration.neutral_playback named fit)).inside (Declaration.neutral_dispatch named)).append
      (Code.shifts_closeNamespaces settings.namespaces)

theorem neutral_body (artifact : Artifact) : Neutral counts (artifact.body settings table) := by
  cases artifact with
  | structsHeader => exact neutral_recordHeader named fit
  | declarationHeader => exact Declaration.neutral_functions fit named.clientPrefix _
  | clientSource => exact Marshal.neutral_source named fit
  | playbackSource => exact Playback.neutral_source named fit

end Files

private theorem neutral_defaultLicenseHeader {counts : BracketKind → Bool} :
    Neutral counts defaultLicenseHeader := by
  refine neutral_intercalate (.literal rfl) ?_
  repeat refine List.forall_mem_cons.mpr ⟨.literal rfl, ?_⟩
  simp

private theorem quiet_defaults {counts : BracketKind → Bool} : ({} : Settings).Quiet counts where
  clientPrefix := .literal rfl
  implPrefix := .literal rfl
  playbackPrefix := .literal rfl
  handcodePrefix := .literal rfl
  recordPrefix := .literal rfl
  dispatchTable := .literal rfl
  handcodeInclude := .literal rfl
  licenseHeader := neutral_defaultLicenseHeader
  namespaces := by
    repeat refine List.forall_mem_cons.mpr ⟨.literal rfl, ?_⟩
    simp
  sourceIncludes := by
    repeat refine List.forall_mem_cons.mpr ⟨.literal rfl, ?_⟩
    simp

/--
Files that are generated for a spec have balanced brackets, as long as the texts of the settings
have.  This holds for all brackets together, and for each kind by itself.
-/
theorem render_balanced (counts : BracketKind → Bool) :
    (∀ text ∈ ({} : Settings).texts, Balanced counts text) ∧
      ∀ settings : Settings, (∀ text ∈ settings.texts, Balanced counts text) →
        ∀ (text : String) (table : CallTable), Spec.parse text = .ok table →
          ∀ artifact : Artifact, Balanced counts (artifact.render settings table) := by
  refine ⟨Settings.quiet_iff.mp quiet_defaults,
    fun settings balanced text table parsed artifact => ?_⟩
  have named : settings.Quiet counts := Settings.quiet_iff.mpr balanced
  have body := artifact.neutral_body named (Spec.parse_wellFormed parsed)
  exact balanced_iff.mpr (named.licenseHeader.append body)

def markedSettings : Settings where
  implPrefix := "core()."
  namespaces := ["one", "two", "three"]
  licenseHeader := "// \x7b(c)\x7d\n"

theorem render_balanced_marked :
    (∀ text ∈ markedSettings.texts, Balanced (fun _ => true) text) ∧
      Spec.parse retypedSpec = .ok retypedTable ∧
      ∀ artifact : Artifact,
        Balanced (fun _ => true) (artifact.render markedSettings retypedTable) := by
  have balanced : ∀ text ∈ markedSettings.texts, Balanced (fun _ => true) text := by decide
  have parsed : Spec.parse retypedSpec = .ok retypedTable := rfl
  exact ⟨balanced, parsed, (render_balanced _).2 _ balanced _ _ parsed⟩

end Artifact

end CommandProtocol
