import CommandProtocol.Proofs.ClientReader

/-!
# Declarations, definitions and calls

A call is written down in up to five places: it is declared for the client and for the core,
defined as a client function, and called with its arguments by its playback function and, if
it is written by hand, by its client function.  Each place has one item for the context, if
the call takes one, and one for each parameter, in the same order.

The lists of arguments and of parameters are read back from the texts.  This needs nothing of
the settings: what they contribute stands before the last opening parenthesis.
-/

namespace CommandProtocol

/-! ## Items -/

namespace Call

def prototype (call : Call) (start : String) (form : ContextForm) : String :=
  call.result.cType ++ " " ++ (start ++ call.name) ++ " (" ++
    ", ".intercalate (call.items form.declaration Variable.declaration) ++ ")"

section Items

variable {call : Call} {context : String} {write : Variable → String}

theorem forall₂_items {relation : String → String → Prop} {other : String}
    {rewrite : Variable → String} (first : relation context other)
    (later : ∀ param ∈ call.params, relation (write param) (rewrite param)) :
    List.Forall₂ relation (call.items context write) (call.items other rewrite) := by
  have params : List.Forall₂ relation (call.params.map write) (call.params.map rewrite) := by
    rw [List.forall₂_map_left_iff, List.forall₂_map_right_iff]
    exact List.forall₂_same.mpr later
  unfold items
  split
  · exact params
  · exact .cons first params

theorem prototype_eq_signature (fit : call.WellFormed) (start : String) (form : ContextForm) :
    call.prototype start form = call.signature start form := by
  have bare : call.result.declaration = call.result.cType := by
    simp [Variable.declaration, fit.result.bare]
  rw [signature_eq, bare]
  rfl

end Items

end Call

namespace ReadBack

/-! ## Reading the last list of a text -/

def lastList? (blank closing text : String) : Option (List String) := do
  let front ← between? "" closing text
  let (_, list) ← cutLast? '(' front
  separated? blank list

theorem lastList?_eq_some (before : String) {blank closing text : String} {items : List String}
    (whole : text = before ++ "(" ++ (("," ++ blank).intercalate items ++ closing))
    (quiet : ',' ∉ blank.toList ∧ '(' ∉ blank.toList) (proper : ∀ item ∈ items, IsItem item) :
    lastList? blank closing text = some items := by
  have front : between? "" closing text =
      some (before ++ "(" ++ ("," ++ blank).intercalate items) :=
    between?_eq_some (by simp [whole])
  have list : '(' ∉ (("," ++ blank).intercalate items).toList :=
    not_mem_intercalate (by simpa using quiet.2) fun item known => (proper item known).parenthesis
  have cut : cutLast? '(' (before ++ "(" ++ ("," ++ blank).intercalate items) =
      some (before, ("," ++ blank).intercalate items) :=
    cutLast?_eq_some (by simp) list
  simp only [lastList?, front, cut, Option.bind_eq_bind, Option.bind_some,
    separated?_intercalate quiet.1 proper]

theorem isItem_of_isIdentifier {name : String} (word : isIdentifier name = true) : IsItem name where
  filled := by
    rintro rfl
    contradiction
  comma := not_mem_of_isIdentifier word (by decide)
  parenthesis := not_mem_of_isIdentifier word (by decide)

section Lists

variable (settings : Settings) {call : Call}

def parameters? (prototype : String) : Option (List String) := lastList? " " ")" prototype

theorem parameters?_prototype (fit : call.WellFormed) (start : String) (form : ContextForm) :
    parameters? (call.prototype start form) =
      some (call.items form.declaration Variable.declaration) := by
  have whole : call.prototype start form =
      (call.result.cType ++ " " ++ (start ++ call.name) ++ " ") ++ "(" ++
        (("," ++ " ").intercalate (call.items form.declaration Variable.declaration) ++ ")") := by
    have separator : "," ++ " " = ", " := rfl
    rw [separator, Call.prototype]
    generalize ", ".intercalate _ = list
    simp [← String.toList_inj]
  exact lastList?_eq_some _ whole (by decide) (isItem_argumentTexts fit form)

def implementationArguments? (function : String) : Option (List String) :=
  lastList? "\n           " ");\n\x7d\n\n" function

theorem text_arguments (call : Call) :
    (Playback.arguments call).map Playback.Argument.text =
      call.items "con" fun param => "cmd->" ++ param.name := by
  unfold Playback.arguments Call.items
  rw [List.map_append, List.map_map]
  cases call.noContext <;> rfl

def playbackFront (call : Call) : String :=
  "void " ++ (settings.playbackPrefix ++ call.name) ++
    "(Context *con, const void *vp, size_t cmdSizeBytes)\n\x7b\n    const " ++
    (settings.recordPrefix ++ call.name) ++ " *cmd = static_cast<const " ++
    (settings.recordPrefix ++ call.name) ++ " *>(vp);\n    " ++
    (if call.result.base = .void ∧ call.result.pointers = 0 then ""
      else "con->mIO.mToCoreRet = (intptr_t)") ++ (settings.implPrefix ++ call.name)

def playbackFunction (call : Call) : String :=
  playbackFront settings call ++ "(" ++
    ",\n           ".intercalate (call.items "con" fun param => "cmd->" ++ param.name) ++
    ");\n\x7d\n\n"

theorem text_ofCall_eq (call : Call) :
    (Playback.ofCall settings call).text = playbackFunction settings call := by
  rw [playbackFunction, playbackFront, ← text_arguments, Playback.Function.text, line_one,
    line_one]
  simp only [Playback.ofCall, Playback.functionName, Settings.recordName]
  generalize ",\n           ".intercalate _ = list
  by_cases void : call.result.base = .void ∧ call.result.pointers = 0 <;>
    simp [Call.returnsValue_iff, void, ← String.toList_inj]

private theorem implementationArguments?_ofCall (fit : call.WellFormed) :
    implementationArguments? (Playback.ofCall settings call).text =
      some (call.items "con" fun param => "cmd->" ++ param.name) := by
  have proper : ∀ item ∈ call.items "con" fun param => "cmd->" ++ param.name, IsItem item := by
    refine Call.forall_mem_items ⟨by decide, by decide, by decide⟩ fun param known => ?_
    have name := isItem_of_isIdentifier (fit.params param known).name
    exact ⟨by simp, by simpa using name.comma, by simpa using name.parenthesis⟩
  have whole : (Playback.ofCall settings call).text =
      playbackFront settings call ++ "(" ++ (("," ++ "\n           ").intercalate
        (call.items "con" fun param => "cmd->" ++ param.name) ++ ");\n\x7d\n\n") := by
    have separator : "," ++ "\n           " = ",\n           " := rfl
    rw [separator, text_ofCall_eq, playbackFunction, ← String.append_assoc]
  exact lastList?_eq_some _ whole (by decide) proper

def forwardedArguments? (body : String) : Option (List String) := lastList? " " ");\n" body

def trampoline (call : Call) : String :=
  "    " ++ (if call.result.base = .void ∧ call.result.pointers = 0 then "" else "return ") ++
    (settings.handcodePrefix ++ call.name) ++ "(" ++
    ", ".intercalate (call.items "rsc" Variable.name) ++ ");\n"

private theorem text_body_of_handcoded (fit : call.WellFormed) (handcoded : call.handcoded = true) :
    (Marshal.body settings call).text = trampoline settings call := by
  have named : ∀ param ∈ call.params, param.name ≠ "" :=
    fun param known => (isItem_of_isIdentifier (fit.params param known).name).filled
  have arguments : call.forwardedArguments "rsc" =
      ", ".intercalate (call.items "rsc" Variable.name) :=
    Call.forwardedArguments_eq (by decide) named
  rw [Marshal.body, if_pos handcoded, Marshal.Body.text, line_one, arguments, trampoline]
  simp only [Call.returnsValue_iff, ite_not, String.append_assoc]
  rfl

private theorem forwardedArguments?_trampoline (fit : call.WellFormed) :
    forwardedArguments? (trampoline settings call) = some (call.items "rsc" Variable.name) := by
  have whole : trampoline settings call =
      ("    " ++ (if call.result.base = .void ∧ call.result.pointers = 0 then "" else "return ") ++
        (settings.handcodePrefix ++ call.name)) ++ "(" ++
        (("," ++ " ").intercalate (call.items "rsc" Variable.name) ++ ");\n") := by
    have separator : "," ++ " " = ", " := rfl
    rw [separator, trampoline]
    simp only [String.append_assoc]
  refine lastList?_eq_some _ whole (by decide) ?_
  exact Call.forall_mem_items ⟨by decide, by decide, by decide⟩ fun param known =>
    isItem_of_isIdentifier (fit.params param known).name

end Lists

/-! ## Agreement -/

/-- What the implementation is called with, next to the parameter that the core declares. -/
inductive Fills : String → String → Prop where
  | context : Fills "con" "Context *"
  | field {name : String} (type : String) (word : isIdentifier name = true) :
      Fills ("cmd->" ++ name) (type ++ " " ++ name)

/-- A name that is passed on, next to the parameter that declares it. -/
inductive Forwards : String → String → Prop where
  | name {name : String} (type : String) (word : isIdentifier name = true) :
      Forwards name (type ++ " " ++ name)

/-- The two places where a buffered call is called. -/
structure CallAgrees (settings : Settings) (call : Call) : Prop where
  played : ∃ arguments parameters,
    (Playback.ofCall settings call).text = playbackFunction settings call ∧
    implementationArguments? (Playback.ofCall settings call).text = some arguments ∧
    parameters? (call.prototype settings.implPrefix .core) = some parameters ∧
    arguments = call.items "con" (fun param => "cmd->" ++ param.name) ∧
    List.Forall₂ Fills arguments parameters
  forwarded : call.handcoded = true → ∃ arguments parameters,
    (Marshal.body settings call).text = trampoline settings call ∧
    forwardedArguments? (Marshal.body settings call).text = some arguments ∧
    parameters? (call.prototype settings.clientPrefix .client) = some parameters ∧
    arguments = call.items "rsc" Variable.name ∧
    List.Forall₂ Forwards arguments parameters

structure SitesAgree (settings : Settings) (table : CallTable) : Prop where
  declarations :
    Artifact.declarationHeader.render settings table =
      settings.licenseHeader ++ (String.join (table.calls.map fun call =>
        call.prototype settings.clientPrefix .client ++ ";\n") ++ "\n\n")
  definitions :
    Artifact.clientSource.render settings table =
      clientOpening settings ++ String.join ((table.calls.filter Call.isBuffered).map fun call =>
        call.prototype settings.clientPrefix .client ++ "\n\x7b\n" ++
          (Marshal.body settings call).text ++ "\x7d\n\n")
  implementations : ∃ rest,
    Artifact.structsHeader.render settings table =
      headerOpening settings ++ (Structures.text settings table ++
        (String.join (table.calls.map fun call =>
          call.prototype settings.implPrefix .core ++ ";\n") ++ "\n\n" ++ rest))
  playback :
    Artifact.playbackSource.render settings table =
      sourceOpening settings ++ (String.join ((table.calls.filter Call.isBuffered).map fun call =>
          (Playback.ofCall settings call).text) ++
        (Playback.dispatchTable settings table ++ Code.closeNamespaces settings.namespaces))
  calls : ∀ call ∈ table.calls, call.isBuffered = true → CallAgrees settings call

section Sites

variable {settings : Settings} {call : Call}

theorem declaration_eq {var : Variable} (fit : var.WellFormed) :
    var.declaration = var.cType ++ " " ++ var.name := by
  simp [← String.toList_inj, toList_declaration fit]

private theorem callAgrees (fit : call.WellFormed) : CallAgrees settings call where
  played := by
    refine ⟨_, _, text_ofCall_eq settings call, implementationArguments?_ofCall settings fit,
      parameters?_prototype fit settings.implPrefix .core, rfl, ?_⟩
    apply Call.forall₂_items Fills.context
    intro param known
    rw [declaration_eq (fit.params param known)]
    exact .field param.cType (fit.params param known).name
  forwarded handcoded := by
    have body := text_body_of_handcoded settings fit handcoded
    refine ⟨_, _, body, ?_, parameters?_prototype fit settings.clientPrefix .client, rfl, ?_⟩
    · rw [body]
      exact forwardedArguments?_trampoline settings fit
    · apply Call.forall₂_items (Forwards.name "RsContext" (by decide))
      intro param known
      rw [declaration_eq (fit.params param known)]
      exact .name param.cType (fit.params param known).name

end Sites

/-- In the files that are generated from a spec, a call has its arguments in one order. -/
theorem sites_agree (settings : Settings) (text : String) (table : CallTable)
    (parsed : Spec.parse text = .ok table) : SitesAgree settings table := by
  have fit := Spec.parse_wellFormed parsed
  have declared (start : String) (form : ContextForm) :
      Declaration.functions table start form =
        String.join (table.calls.map fun call => call.prototype start form ++ ";\n") ++ "\n\n" := by
    unfold Declaration.functions
    refine congrArg (String.join · ++ "\n\n") (List.map_congr_left fun call known => ?_)
    rw [Call.prototype_eq_signature (fit call known)]
  constructor
  case declarations =>
    rw [Artifact.render, Artifact.body, Declaration.client, declared]
  case definitions =>
    rw [render_clientSource]
    refine congrArg (clientOpening settings ++ String.join ·) (List.map_congr_left ?_)
    intro call member
    rw [Marshal.function, Call.prototype_eq_signature (fit call (List.mem_of_mem_filter member))]
  case implementations =>
    rw [render_recordHeader, declared]
    simp only [String.append_assoc]
    exact ⟨_, rfl⟩
  case playback => exact render_playbackSource settings table
  case calls => exact fun call known _ => callAgrees (fit call known)

def sitesSpec : String :=
  "Put \x7b\nparam void *p\n\x7d\nPeek \x7b\ndirect\n\x7d\n" ++
    "Lerp \x7b\nnocontext\nhandcodeApi\nparam float x\nparam float y\n\x7d\n"

def sitesTable : CallTable where
  calls :=
    [ { name := "Put",
        params :=
          [ { base := .void, pointers := 1, name := "p" },
            { base := .named "size_t", name := "p_length" } ] },
      { name := "Peek", direct := true },
      { name := "Lerp", noContext := true, handcoded := true,
        params := [{ base := .float 32, name := "x" }, { base := .float 32, name := "y" }] } ]
  distinct := by decide

theorem sites_agree_three :
    Spec.parse sitesSpec = .ok sitesTable ∧ SitesAgree {} sitesTable := by
  have parsed : Spec.parse sitesSpec = .ok sitesTable := by rfl
  exact ⟨parsed, sites_agree {} sitesSpec sitesTable parsed⟩

end ReadBack

end CommandProtocol
