import CommandProtocol.Marshal
import CommandProtocol.Proofs.InlinePlan
import CommandProtocol.Proofs.SignatureReader

/-!
# The code of a client function

A client function as it is written: a prototype and statements, some of which stand in the
two branches of a test of the data size.  A statement is made of pieces, which are fixed
code, names that it declares and names that it reads.

The code of a call has exactly the text of its client function: `text_ofCall`.
-/

namespace CommandProtocol.ClientCode

/-! ## Pieces of text -/

inductive Piece where
  | code (text : String)
  | declared (name : String)
  | read (name : String)
  deriving DecidableEq, Repr

namespace Piece

def text : Piece → String
  | code text | declared text | read text => text

def declared? : Piece → Option String
  | declared name => some name
  | _ => none

def read? : Piece → Option String
  | read name => some name
  | _ => none

def joined (pieces : List Piece) : String := String.join (pieces.map text)

@[simp] theorem joined_nil : joined [] = "" := rfl

@[simp] theorem joined_cons (piece : Piece) (rest : List Piece) :
    joined (piece :: rest) = piece.text ++ joined rest := by
  simp [joined]

@[simp] theorem joined_append (first second : List Piece) :
    joined (first ++ second) = joined first ++ joined second := by
  simp [joined]

@[simp] theorem text_code (text : String) : (code text).text = text := rfl

@[simp] theorem text_declared (name : String) : (declared name).text = name := rfl

@[simp] theorem text_read (name : String) : (read name).text = name := rfl

private theorem joined_intercalate (separator : String) (parts : List (List Piece)) :
    joined ([code separator].intercalate parts) = separator.intercalate (parts.map joined) := by
  induction parts with
  | nil => rfl
  | cons part rest ih =>
      cases rest with
      | nil => simp
      | cons next rest =>
          rw [List.intercalate_cons_cons, joined_append, joined_append, ih]
          simp [String.intercalate_cons_cons]

end Piece

open Piece (code declared read)

/-! ## Statements -/

inductive Statement where
  | openBuffer
  | declareSize (record : String)
  | declareDataSize
  | addLength (term : String)
  /-- With a limit, room for the data is reserved as long as it stays below. -/
  | reserve (record : String) (limit : Option Nat)
  | declarePayload
  | copy (source length : String)
  | storePayload (field type : String)
  | advance (length : String)
  | store (field source : String)
  | commit (waits : Bool) (id : String) (withData : Bool)
  | returnResult (type : String)
  deriving DecidableEq, Repr

namespace Statement

def amountPieces (record : String) : Option Nat → List Piece
  | some limit =>
      [ read "dataSize", code (" < " ++ toString limit ++ " ? "), read "size", code " + ",
        read "dataSize", code " : ", read "size" ]
  | none => [code ("sizeof(" ++ record ++ ")")]

def pieces : Statement → List Piece
  | .openBuffer =>
      [code "ThreadIO *", declared "io", code " = &((Context *)", read "rsc", code ")->mIO;"]
  | .declareSize record =>
      [code "uint32_t ", declared "size", code (" = sizeof(" ++ record ++ ");")]
  | .declareDataSize => [code "uint32_t ", declared "dataSize", code " = 0;"]
  | .addLength term => [read "dataSize", code " += ", read term, code ";"]
  | .reserve record limit =>
      [ code (record ++ " *"), declared "cmd", code (" = static_cast<" ++ record ++ " *>("),
        read "io", code "->mToCore.reserve(" ] ++ amountPieces record limit ++ [code "));"]
  | .declarePayload =>
      [code "uint8_t *", declared "payload", code " = (uint8_t *)&", read "cmd", code "[1];"]
  | .copy source length =>
      [ code "memcpy(", read "payload", code ", ", read source, code ", ", read length,
        code ");" ]
  | .storePayload field type =>
      [read "cmd", code ("->" ++ field ++ " = (" ++ type ++ ")"), read "payload", code ";"]
  | .advance length => [read "payload", code " += ", read length, code ";"]
  | .store field source => [read "cmd", code ("->" ++ field ++ " = "), read source, code ";"]
  | .commit waits id withData =>
      [ read "io", code ("->mToCore.commit" ++ (if waits then "Sync" else "") ++ "(" ++ id ++ ", "),
        read "size" ] ++ (if withData then [code " + ", read "dataSize"] else []) ++ [code ");"]
  | .returnResult type =>
      [code ("return reinterpret_cast<" ++ type ++ ">("), read "io", code "->mToCoreRet);"]

def text (statement : Statement) : String := Piece.joined statement.pieces

def reads : Statement → List String
  | .openBuffer => ["rsc"]
  | .declareSize _ | .declareDataSize => []
  | .addLength term => ["dataSize", term]
  | .reserve _ none => ["io"]
  | .reserve _ (some _) => ["io", "size", "dataSize"]
  | .declarePayload => ["cmd"]
  | .copy source length => ["payload", source, length]
  | .storePayload _ _ => ["cmd", "payload"]
  | .advance length => ["payload", length]
  | .store _ source => ["cmd", source]
  | .commit _ _ withData => if withData then ["io", "size", "dataSize"] else ["io", "size"]
  | .returnResult _ => ["io"]

def declares : Statement → List String
  | .openBuffer => ["io"]
  | .declareSize _ => ["size"]
  | .declareDataSize => ["dataSize"]
  | .reserve _ _ => ["cmd"]
  | .declarePayload => ["payload"]
  | _ => []

@[simp] theorem mem_filterMap_read? {statement : Statement} {name : String} :
    name ∈ statement.pieces.filterMap Piece.read? ↔ name ∈ statement.reads := by
  cases statement with
  | reserve record limit =>
      cases limit with
      | none => exact Iff.rfl
      | some limit =>
          -- the text reads the two sizes twice
          change name ∈ ["io", "dataSize", "size", "dataSize", "size"] ↔
            name ∈ ["io", "size", "dataSize"]
          grind
  | commit waits id withData => cases withData <;> exact Iff.rfl
  | _ => exact Iff.rfl

@[simp] theorem filterMap_declared? (statement : Statement) :
    statement.pieces.filterMap Piece.declared? = statement.declares := by
  cases statement with
  | reserve record limit => cases limit <;> rfl
  | commit waits id withData => cases withData <;> rfl
  | _ => rfl

end Statement

/-! ## Functions -/

inductive Block where
  | always (statement : Statement)
  | ifBelow (limit : Nat) (small large : List Statement)
  deriving DecidableEq, Repr

structure Parameter where
  type : String
  name : String
  deriving DecidableEq, Repr

structure Function where
  result : String
  name : String
  parameters : List Parameter
  blocks : List Block
  deriving DecidableEq, Repr

structure Line where
  depth : Nat
  pieces : List Piece
  deriving DecidableEq, Repr

def Line.shown (line : Line) : String :=
  String.ofList (List.replicate (4 * line.depth) ' ') ++ Piece.joined line.pieces

def Line.text (line : Line) : String := Code.line line.depth (Piece.joined line.pieces)

def Statement.line (depth : Nat) (statement : Statement) : Line := ⟨depth, statement.pieces⟩

def Block.lines : Block → List Line
  | .always statement => [statement.line 1]
  | .ifBelow limit small large =>
      [⟨1, [code "if (", read "dataSize", code (" < " ++ toString limit ++ ") \x7b")]⟩] ++
        small.map (Statement.line 2) ++ [⟨1, [code "\x7d else \x7b"]⟩] ++
        large.map (Statement.line 2) ++ [⟨1, [code "\x7d"]⟩]

def Parameter.pieces (parameter : Parameter) : List Piece :=
  if parameter.name = "" then [code parameter.type]
  else [code (parameter.type ++ " "), declared parameter.name]

namespace Function

def header (function : Function) : List Piece :=
  [code (function.result ++ " " ++ function.name ++ " (")] ++
    [code ", "].intercalate (function.parameters.map Parameter.pieces) ++ [code ")"]

def lines (function : Function) : List Line :=
  [⟨0, function.header⟩, ⟨0, [code "\x7b"]⟩] ++ function.blocks.flatMap Block.lines ++
    [⟨0, [code "\x7d"]⟩, ⟨0, []⟩]

def text (function : Function) : String := String.join (function.lines.map Line.text)

end Function

/-! ## The code of a call -/

section Parts

variable (settings : Settings) (call : Call)

def openingOf : List Statement :=
  let record := settings.recordName call.name
  let plan := InlinePlan.ofCall call
  if plan.isInline then
    [.openBuffer, .declareSize record, .declareDataSize] ++
      plan.lengthTerms.map .addLength ++
      [.reserve record (some settings.inlineThreshold.toNat), .declarePayload]
  else
    [.openBuffer, .declareSize record, .reserve record none]

def storeOf (copied : Bool) (param : Variable) : List Statement :=
  if copied && param.isPointer then
    [ .copy param.name param.lengthName, .storePayload param.name param.cType,
      .advance param.lengthName ]
  else
    [.store param.name param.name]

/-- The client waits for the core if the record holds an address or a result is due. -/
def waits : Bool := call.hasPointerParams || call.returnsValue

def commitOf (copied : Bool) : Statement :=
  .commit (!copied && waits call) (settings.commandIdName call.name) copied

def returnOf : List Statement :=
  if call.returnsValue then [.returnResult call.result.cType] else []

def storeBlock (param : Variable) : Block :=
  if param.isPointer then
    .ifBelow settings.inlineThreshold.toNat (storeOf true param) (storeOf false param)
  else
    .always (.store param.name param.name)

def fillingOf : List Block :=
  if (InlinePlan.ofCall call).isInline then
    call.params.map (storeBlock settings) ++
      [.ifBelow settings.inlineThreshold.toNat [commitOf settings call true]
        [commitOf settings call false]] ++
      (returnOf call).map .always
  else
    call.params.map (fun param => .always (.store param.name param.name)) ++
      [.always (commitOf settings call false)] ++ (returnOf call).map .always

def parametersOf : List Parameter :=
  (if call.noContext then [] else [⟨"RsContext", "rsc"⟩]) ++
    call.params.map fun param => ⟨param.cType, param.name⟩

def ofCall : Function where
  result := call.result.declaration
  name := settings.clientPrefix ++ call.name
  parameters := parametersOf call
  blocks := (openingOf settings call).map .always ++ fillingOf settings call

end Parts

/-! ## Its text -/

section Text

variable (settings : Settings) (call : Call)

private def ofAction : Marshal.Action → Statement
  | .openBuffer => .openBuffer
  | .declareSize record => .declareSize record
  | .declareDataSize => .declareDataSize
  | .addLength term => .addLength term
  | .reserve record limit => .reserve record (limit.map UInt32.toNat)
  | .declarePayload => .declarePayload
  | .copyPayload param => .copy param.name param.lengthName
  | .storePayload param => .storePayload param.name param.cType
  | .advancePayload param => .advance param.lengthName
  | .storeArgument param => .store param.name param.name
  | .commit mode id withData => .commit (mode = .sync) id withData
  | .returnResult type => .returnResult type

private def ofStep : Marshal.Step → Block
  | .always action => .always (ofAction action)
  | .ifBelow limit small large => .ifBelow limit.toNat (small.map ofAction) (large.map ofAction)

private theorem ofStep_inlineStore (param : Variable) :
    ofStep (Marshal.inlineStore settings.inlineThreshold param) = storeBlock settings param := by
  cases pointer : param.isPointer <;>
    simp [Marshal.inlineStore, storeBlock, storeOf, pointer, ofStep, ofAction]

private theorem ofStep_returnSteps :
    (Marshal.returnSteps call).map ofStep = (returnOf call).map .always := by
  cases returned : call.returnsValue <;>
    simp [Marshal.returnSteps, returnOf, returned, ofStep, ofAction]

private theorem map_ofStep_steps :
    (Marshal.steps settings call).map ofStep = (ofCall settings call).blocks := by
  cases inline : (InlinePlan.ofCall call).isInline with
  | true =>
      obtain ⟨-, -, pointers⟩ := InlinePlan.ofCall_of_isInline inline
      -- An inline call has pointers, so without the copy its commit waits.
      have due : waits call = true := by simp [waits, pointers]
      simp [Marshal.steps, inline, Marshal.inlineSteps, ofCall, openingOf, fillingOf, ofStep,
        ofAction, ofStep_returnSteps, commitOf, due, Function.comp_def]
      exact fun param _ => ofStep_inlineStore settings param
  | false =>
      simp [Marshal.steps, inline, Marshal.plainSteps, ofCall, openingOf, fillingOf, ofStep,
        ofAction, ofStep_returnSteps, commitOf, waits, Function.comp_def]

@[simp] theorem text_ofAction (action : Marshal.Action) : (ofAction action).text = action.text := by
  cases action with
  | reserve record limit =>
      unfold ofAction Statement.text Statement.pieces Marshal.Action.text
      cases limit <;> unfold Statement.amountPieces <;> simp [← String.toList_inj]
  | commit mode id withData =>
      unfold ofAction Statement.text Statement.pieces Marshal.Action.text
      cases mode <;> cases withData <;> unfold Marshal.CommitMode.function <;>
        simp [← String.toList_inj]
  | _ =>
      unfold ofAction Statement.text Statement.pieces Marshal.Action.text
      simp [← String.toList_inj]

private theorem text_statementLine (depth : Nat) (action : Marshal.Action) :
    ((ofAction action).line depth).text = Code.line depth action.text := by
  rw [← text_ofAction]
  rfl

private theorem text_statementLines (depth : Nat) (actions : List Marshal.Action) :
    String.join (((actions.map ofAction).map (Statement.line depth)).map Line.text) =
      Marshal.actionLines depth actions := by
  rw [Marshal.actionLines, List.map_map, List.map_map]
  exact congrArg String.join (List.map_congr_left fun action _ => text_statementLine depth action)

private theorem text_blockLines (step : Marshal.Step) :
    String.join ((ofStep step).lines.map Line.text) = step.text := by
  cases step with
  | always action => simp [ofStep, Block.lines, Marshal.Step.text, text_statementLine]
  | ifBelow limit small large =>
      have test : Piece.joined
          [code "if (", read "dataSize", code (" < " ++ toString limit.toNat ++ ") \x7b")] =
          "if (dataSize < " ++ toString limit.toNat ++ ") \x7b" := by
        simp [← String.toList_inj]
      have other : Piece.joined [code "\x7d else \x7b"] = "\x7d else \x7b" := by simp
      have last : Piece.joined [code "\x7d"] = "\x7d" := by simp
      simp only [ofStep, Block.lines, Marshal.Step.text, List.map_append, String.join_append,
        text_statementLines, List.map_cons, List.map_nil, String.join_cons, String.join_nil,
        String.append_empty, Line.text, test, other, last]

private theorem text_blocks (steps : List Marshal.Step) :
    String.join (((steps.map ofStep).flatMap Block.lines).map Line.text) =
      String.join (steps.map Marshal.Step.text) := by
  induction steps with
  | nil => rfl
  | cons step rest ih =>
      rw [List.map_cons, List.flatMap_cons, List.map_append, String.join_append,
        text_blockLines, ih, List.map_cons, String.join_cons]

private theorem joined_parameter (var : Variable) :
    Piece.joined (Parameter.pieces ⟨var.cType, var.name⟩) = var.declaration := by
  by_cases named : var.name = "" <;>
    simp [Parameter.pieces, Variable.declaration, named, ← String.toList_inj]

private theorem joined_parametersOf :
    (parametersOf call).map (fun parameter => Piece.joined parameter.pieces) =
      call.argumentTexts .client := by
  have context : Piece.joined (Parameter.pieces ⟨"RsContext", "rsc"⟩) =
      ContextForm.client.declaration := by rfl
  rw [parametersOf, Call.argumentTexts, Call.items, List.map_append, List.map_map]
  refine congrArg₂ _ ?_ (List.map_congr_left fun param _ => joined_parameter param)
  cases call.noContext with
  | true => rfl
  | false => exact congrArg (fun text => [text]) context

theorem joined_header :
    Piece.joined (ofCall settings call).header =
      call.signature settings.clientPrefix .client := by
  rw [Call.signature_eq, Function.header, Piece.joined_append, Piece.joined_append,
    Piece.joined_intercalate, List.map_map]
  change _ ++ ", ".intercalate ((parametersOf call).map _) ++ _ = _
  rw [← joined_parametersOf]
  simp [ofCall, Function.comp_def, String.append_assoc]

/-- The code of a call has the text of its client function, whatever the names. -/
theorem text_ofCall (generated : call.handcoded = false) :
    (ofCall settings call).text = Marshal.function settings call := by
  have margin (pieces : List Piece) : Line.text ⟨0, pieces⟩ = Piece.joined pieces ++ "\n" := by
    simp [Line.text, Code.line]
  have body : (Marshal.body settings call).text =
      String.join ((Marshal.steps settings call).map Marshal.Step.text) := by
    simp [Marshal.body, generated, Marshal.Body.text]
  rw [Function.text, Function.lines, List.map_append, List.map_append, String.join_append,
    String.join_append, Marshal.function, body, ← text_blocks,
    map_ofStep_steps]
  generalize String.join (((ofCall settings call).blocks.flatMap Block.lines).map _) = middle
  simp only [List.map_cons, List.map_nil, String.join_cons, String.join_nil, margin,
    joined_header]
  simp [← String.toList_inj]

end Text

end CommandProtocol.ClientCode
