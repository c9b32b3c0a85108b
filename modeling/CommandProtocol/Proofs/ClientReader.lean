import CommandProtocol.Proofs.ClientCode

/-!
# Reading client code back

A reader that knows how statements, tests and functions are written, and nothing of the
calls behind them.  Each kind of statement has a fixed beginning of its own, so the first
form that fits a line is the only one.  What a call wrote is what is read: `read?_function`.
-/

namespace CommandProtocol

namespace ReadBack

def clientOpening (settings : Settings) : String :=
  settings.licenseHeader ++ (Code.includes settings.sourceIncludes ++ "\n" ++
    Code.usingNamespaces settings.namespaces ++ Code.includes [settings.handcodeInclude] ++ "\n")

theorem render_clientSource (settings : Settings) (table : CallTable) :
    Artifact.clientSource.render settings table =
      clientOpening settings ++
        String.join ((table.calls.filter Call.isBuffered).map (Marshal.function settings)) := by
  rw [Artifact.render, Artifact.body, Marshal.source, clientOpening, ← CallTable.map_snd_buffered,
    List.map_map]
  simp only [String.append_assoc]
  rfl

end ReadBack

namespace ClientCode

open ReadBack

/-! ## Statements -/

/-- A kind of statement: the fixed text on both sides and what is made of the rest. -/
structure Form where
  opening : String
  closing : String
  read? : String → Option Statement

def Form.fixed (text : String) (statement : Statement) : Form where
  opening := text
  closing := ""
  read? inner := if inner = "" then some statement else none

def Form.match? (text : String) (form : Form) : Option Statement :=
  (between? form.opening form.closing text).bind form.read?

def copy? (inner : String) : Option Statement := do
  let (source, rest) ← cut? ',' inner
  let length ← between? " " "" rest
  return .copy source length

def assignment? (inner : String) : Option Statement := do
  let (field, rest) ← cut? ' ' inner
  let value ← between? "= " "" rest
  match between? "(" ")payload" value with
  | some type => return .storePayload field type
  | none => return .store field value

def commitMode? (text : String) : Option Bool :=
  if text = "" then some false else if text = "Sync" then some true else none

def commitSize? (text : String) : Option Bool :=
  if text = " size" then some false else if text = " size + dataSize" then some true else none

def commit? (inner : String) : Option Statement := do
  let (mode, rest) ← cut? '(' inner
  let (id, size) ← cut? ',' rest
  let waits ← commitMode? mode
  let withData ← commitSize? size
  return .commit waits id withData

def forms : List Form :=
  [ .fixed "ThreadIO *io = &((Context *)rsc)->mIO;" .openBuffer,
    ⟨"uint32_t size = sizeof(", ");", fun record => some (.declareSize record)⟩,
    .fixed "uint32_t dataSize = 0;" .declareDataSize,
    ⟨"dataSize += ", ";", fun term => some (.addLength term)⟩,
    .fixed "uint8_t *payload = (uint8_t *)&cmd[1];" .declarePayload,
    ⟨"memcpy(payload, ", ");", copy?⟩,
    ⟨"cmd->", ";", assignment?⟩,
    ⟨"payload += ", ";", fun length => some (.advance length)⟩,
    ⟨"io->mToCore.commit", ");", commit?⟩,
    ⟨"return reinterpret_cast<", ">(io->mToCoreRet);", fun type => some (.returnResult type)⟩ ]

def amount? (record text : String) : Option (Option Nat) :=
  if text = "sizeof(" ++ record ++ ")" then some none
  else do
    let numeral ← between? "dataSize < " " ? size + dataSize : size" text
    let limit ← number? numeral
    return some limit

def reserve? (text : String) : Option Statement := do
  let (record, rest) ← cut? ' ' text
  let amount ←
    between? ("*cmd = static_cast<" ++ record ++ " *>(io->mToCore.reserve(") "));" rest
  let limit ← amount? record amount
  return .reserve record limit

def statement? (text : String) : Option Statement :=
  forms.findSome? (Form.match? text) <|> reserve? text

/-! ## Telling the forms apart -/

def clash (first second : List Char) : Bool :=
  !first.isPrefixOf second && !second.isPrefixOf first

section Forms

variable {opening closing text start : String} {statement : Statement}

theorem not_prefix_of_clash {first second whole : List Char} (apart : clash first second = true)
    (begins : second <+: whole) : ¬ first <+: whole := by
  intro other
  simp only [clash, Bool.and_eq_true, Bool.not_eq_true', ← Bool.not_eq_true,
    List.isPrefixOf_iff_prefix] at apart
  rcases List.prefix_or_prefix_of_prefix other begins with inside | inside
  · exact apart.1 inside
  · exact apart.2 inside

theorem match?_eq_none {form : Form} (apart : clash form.opening.toList start.toList = true)
    (begins : start.toList <+: text.toList) : form.match? text = none := by
  rw [Form.match?, between?_eq_none (not_prefix_of_clash apart begins), Option.bind_none]

private theorem forms_apart :
    forms.Pairwise fun first second => clash first.opening.toList second.opening.toList = true := by
  decide +kernel

private theorem findSome?_of_mem {all : List Form} {form : Form} {inner : String}
    (apart : all.Pairwise fun first second =>
      clash first.opening.toList second.opening.toList = true)
    (known : form ∈ all) (reads : form.read? inner = some statement) :
    all.findSome? (Form.match? (form.opening ++ inner ++ form.closing)) = some statement := by
  induction all with
  | nil => contradiction
  | cons first rest ih =>
      obtain ⟨head, tail⟩ := List.pairwise_cons.mp apart
      rcases List.mem_cons.mp known with rfl | known
      · have inside : between? form.opening form.closing
            (form.opening ++ inner ++ form.closing) = some inner := between?_eq_some (by simp)
        rw [List.findSome?_cons, Form.match?, inside, Option.bind_some, reads]
      · have other : first.match? (form.opening ++ inner ++ form.closing) = none :=
          match?_eq_none (head form known) (by simp [List.append_assoc])
        rw [List.findSome?_cons, other]
        exact ih tail known

theorem statement?_of_form (index : Nat) (inner : String) {form : Form}
    (known : forms[index]? = some form) (reads : form.read? inner = some statement)
    (spelled : text = form.opening ++ inner ++ form.closing) :
    statement? text = some statement := by
  rw [statement?, spelled, findSome?_of_mem forms_apart (List.mem_of_getElem? known) reads]
  rfl

private theorem forms_not_reserve :
    forms.all (fun form => clash (form.opening.toList.dropWhile Spec.isWordChar)
      " *cmd".toList) = true := by
  decide +kernel

private theorem match?_reserve {form : Form} {record tail : String} (known : form ∈ forms)
    (word : isIdentifier record = true) : form.match? (record ++ (" *cmd" ++ tail)) = none := by
  have apart := List.all_eq_true.mp forms_not_reserve form known
  rw [Form.match?, between?_eq_none, Option.bind_none]
  rintro ⟨rest, whole⟩
  -- The first words may be the same; what follows them is not.
  have same := congrArg (List.dropWhile Spec.isWordChar) whole
  rw [String.toList_append, List.dropWhile_append_of_pos (isWordChar_of_mem word),
    String.toList_append] at same
  have ended : (form.opening.toList.dropWhile Spec.isWordChar).isEmpty = false := by
    cases left : form.opening.toList.dropWhile Spec.isWordChar with
    | nil =>
        rw [left] at apart
        contradiction
    | cons _ _ => rfl
  rw [List.dropWhile_append, ended] at same
  refine not_prefix_of_clash apart (List.prefix_append " *cmd".toList tail.toList) ⟨rest, ?_⟩
  simpa [Spec.isWordChar, List.dropWhile_cons] using same

end Forms

/-! ## Statements read back -/

namespace Statement

def names : Statement → List String
  | .openBuffer | .declareDataSize | .declarePayload | .returnResult _ => []
  | .declareSize record | .reserve record _ => [record]
  | .addLength term | .advance term => [term]
  | .copy source length => [source, length]
  | .storePayload field _ => [field]
  | .store field source => [field, source]
  | .commit _ id _ => [id]

def types : Statement → List String
  | .storePayload _ type | .returnResult type => [type]
  | _ => []

structure Spelled (statement : Statement) : Prop where
  names : ∀ name ∈ statement.names, isIdentifier name = true
  types : ∀ type ∈ statement.types, '\n' ∉ type.toList

end Statement

section Statements

variable {statement : Statement}

private theorem newline_not_mem_text (spelled : statement.Spelled) :
    '\n' ∉ statement.text.toList := by
  have names : ∀ name ∈ statement.names, '\n' ∉ name.toList := fun name known =>
    newline_not_mem_of_isIdentifier (spelled.names name known)
  have types := spelled.types
  cases statement with
  | reserve record limit =>
      have record : '\n' ∉ record.toList := names record List.mem_cons_self
      cases limit <;> unfold Statement.text Statement.pieces Statement.amountPieces <;>
        simp [record, newline_not_mem_toDigits]
  | commit waits id withData =>
      have id : '\n' ∉ id.toList := names id List.mem_cons_self
      unfold Statement.text Statement.pieces
      cases waits <;> cases withData <;> simp [id]
  | _ =>
      unfold Statement.text Statement.pieces
      simp_all [Statement.names, Statement.types]

private theorem assignment?_store {field source : String} (field_word : isIdentifier field = true)
    (source_word : isIdentifier source = true) :
    assignment? (field ++ " = " ++ source) = some (.store field source) := by
  have cut : cut? ' ' (field ++ " = " ++ source) = some (field, "= " ++ source) :=
    cut?_eq_some (by simp) (not_mem_of_isIdentifier field_word (by decide))
  have value : between? "= " "" ("= " ++ source) = some source := between?_eq_some (by simp)
  have plain : between? "(" ")payload" source = none := by
    refine between?_eq_none fun ⟨rest, whole⟩ => ?_
    have apart : '(' ∉ source.toList := not_mem_of_isIdentifier source_word (by decide)
    exact apart (by simp [← whole])
  simp [assignment?, cut, value, plain]

private theorem assignment?_storePayload {field : String} (type : String)
    (field_word : isIdentifier field = true) :
    assignment? (field ++ " = (" ++ type ++ ")payload") = some (.storePayload field type) := by
  have cut : cut? ' ' (field ++ " = (" ++ type ++ ")payload") =
      some (field, "= (" ++ type ++ ")payload") :=
    cut?_eq_some (by simp) (not_mem_of_isIdentifier field_word (by decide))
  have value : between? "= " "" ("= (" ++ type ++ ")payload") = some ("(" ++ type ++ ")payload") :=
    between?_eq_some (by simp)
  have cast : between? "(" ")payload" ("(" ++ type ++ ")payload") = some type :=
    between?_eq_some (by simp)
  simp [assignment?, cut, value, cast]

private theorem copy?_eq_some {source : String} (length : String)
    (word : isIdentifier source = true) :
    copy? (source ++ ", " ++ length) = some (.copy source length) := by
  have cut : cut? ',' (source ++ ", " ++ length) = some (source, " " ++ length) :=
    cut?_eq_some (by simp) (not_mem_of_isIdentifier word (by decide))
  have rest : between? " " "" (" " ++ length) = some length := between?_eq_some (by simp)
  simp [copy?, cut, rest]

private theorem commit?_eq_some {id : String} (waits withData : Bool)
    (word : isIdentifier id = true) :
    commit? ((if waits then "Sync" else "") ++ "(" ++ id ++ ", size" ++
      if withData then " + dataSize" else "") = some (.commit waits id withData) := by
  have mode : cut? '(' ((if waits then "Sync" else "") ++ "(" ++ id ++ ", size" ++
      if withData then " + dataSize" else "") =
      some (if waits then "Sync" else "",
        id ++ ", size" ++ if withData then " + dataSize" else "") :=
    cut?_eq_some (by simp) (by cases waits <;> decide)
  have parts : cut? ',' (id ++ ", size" ++ if withData then " + dataSize" else "") =
      some (id, " size" ++ if withData then " + dataSize" else "") :=
    cut?_eq_some (by simp) (not_mem_of_isIdentifier word (by decide))
  cases waits <;> cases withData <;> simp_all [commit?, commitMode?, commitSize?]

private theorem amount?_joined {record : String} (limit : Option Nat) :
    amount? record (Piece.joined (Statement.amountPieces record limit)) = some limit := by
  cases limit with
  | none => simp [amount?, Statement.amountPieces]
  | some limit =>
      have text : Piece.joined (Statement.amountPieces record (some limit)) =
          "dataSize < " ++ toString limit ++ " ? size + dataSize : size" := by
        simp [Statement.amountPieces, ← String.toList_inj]
      have other : "dataSize < " ++ toString limit ++ " ? size + dataSize : size" ≠
          "sizeof(" ++ record ++ ")" := by
        simp [← String.toList_inj]
      have numeral : between? "dataSize < " " ? size + dataSize : size"
          ("dataSize < " ++ toString limit ++ " ? size + dataSize : size") =
          some (toString limit) := between?_eq_some (by simp)
      rw [text, amount?, if_neg other, numeral]
      simp only [Option.bind_eq_bind, Option.bind_some, number?_toString]
      rfl

private theorem statement?_reserve {record : String} (limit : Option Nat)
    (word : isIdentifier record = true) :
    statement? (Statement.reserve record limit).text = some (.reserve record limit) := by
  let amount := Piece.joined (Statement.amountPieces record limit)
  have text : (Statement.reserve record limit).text =
      record ++ (" *cmd" ++ (" = static_cast<" ++ record ++ " *>(io->mToCore.reserve(" ++
        amount ++ "));")) := by
    unfold Statement.text Statement.pieces
    simp [amount, ← String.toList_inj]
  have forms : forms.findSome? (Form.match? (Statement.reserve record limit).text) = none := by
    rw [text]
    exact List.findSome?_eq_none_iff.mpr fun form known => match?_reserve known word
  have cut : cut? ' ' (Statement.reserve record limit).text =
      some (record, "*cmd = static_cast<" ++ record ++ " *>(io->mToCore.reserve(" ++
        amount ++ "));") :=
    cut?_eq_some (by simp [text]) (not_mem_of_isIdentifier word (by decide))
  have inside : between? ("*cmd = static_cast<" ++ record ++ " *>(io->mToCore.reserve(") "));"
      ("*cmd = static_cast<" ++ record ++ " *>(io->mToCore.reserve(" ++ amount ++ "));") =
      some amount := between?_eq_some (by simp)
  rw [statement?, forms]
  simp [reserve?, cut, inside, amount, amount?_joined]

theorem statement?_text (spelled : statement.Spelled) :
    statement? statement.text = some statement := by
  have names := spelled.names
  cases statement with
  | openBuffer => exact statement?_of_form 0 "" rfl rfl rfl
  | declareSize record =>
      refine statement?_of_form 1 record rfl rfl ?_
      unfold Statement.text Statement.pieces
      simp [← String.toList_inj]
  | declareDataSize => exact statement?_of_form 2 "" rfl rfl rfl
  | addLength term =>
      refine statement?_of_form 3 term rfl rfl ?_
      unfold Statement.text Statement.pieces
      simp [← String.toList_inj]
  | reserve record limit => exact statement?_reserve limit (names record List.mem_cons_self)
  | declarePayload => exact statement?_of_form 4 "" rfl rfl rfl
  | copy source length =>
      refine statement?_of_form 5 (source ++ ", " ++ length) rfl
        (copy?_eq_some length (names source List.mem_cons_self)) ?_
      unfold Statement.text Statement.pieces
      simp [← String.toList_inj]
  | storePayload field type =>
      refine statement?_of_form 6 (field ++ " = (" ++ type ++ ")payload") rfl
        (assignment?_storePayload type (names field List.mem_cons_self)) ?_
      unfold Statement.text Statement.pieces
      simp [← String.toList_inj]
  | advance length =>
      refine statement?_of_form 7 length rfl rfl ?_
      unfold Statement.text Statement.pieces
      simp [← String.toList_inj]
  | store field source =>
      refine statement?_of_form 6 (field ++ " = " ++ source) rfl
        (assignment?_store (names field (by simp [Statement.names]))
          (names source (by simp [Statement.names]))) ?_
      unfold Statement.text Statement.pieces
      simp [← String.toList_inj]
  | commit waits id withData =>
      refine statement?_of_form 8 _ rfl
        (commit?_eq_some waits withData (names id List.mem_cons_self)) ?_
      unfold Statement.text Statement.pieces
      cases waits <;> cases withData <;> simp [← String.toList_inj]
  | returnResult type =>
      refine statement?_of_form 9 type rfl rfl ?_
      unfold Statement.text Statement.pieces
      simp [← String.toList_inj]

end Statements

/-! ## Blocks -/

/-- Where a line stands: outside of the tests, or in a branch after the `first` one. -/
inductive Place where
  | outside
  | inside (limit : Nat) (first : Option (List Statement)) (done : List Statement)

def nested? (line : String) : Option Statement := do
  let text ← between? "        " "" line
  statement? text

def test? (text : String) : Option Nat := do
  let numeral ← between? "if (dataSize < " ") \x7b" text
  number? numeral

def readLine? : List Block × Place → String → Option (List Block × Place)
  | (blocks, .outside), line => do
      let text ← between? "    " "" line
      match statement? text with
      | some statement => return (blocks ++ [.always statement], .outside)
      | none =>
          let limit ← test? text
          return (blocks, .inside limit none [])
  | (blocks, .inside limit first done), line =>
      match nested? line, first with
      | some statement, _ => some (blocks, .inside limit first (done ++ [statement]))
      | none, none => do
          guard (line = "    \x7d else \x7b")
          return (blocks, .inside limit (some done) [])
      | none, some small => do
          guard (line = "    \x7d")
          return (blocks ++ [.ifBelow limit small done], .outside)

def blocks? (lines : List String) : Option (List Block) := do
  match ← lines.foldlM readLine? ([], .outside) with
  | (blocks, .outside) => return blocks
  | _ => none

def Block.statements : Block → List Statement
  | .always statement => [statement]
  | .ifBelow _ small large => small ++ large

section Blocks

variable {blocks : List Block} {limit : Nat} {first : Option (List Statement)}
  {done : List Statement}

private theorem shown_statement (statement : Statement) :
    (statement.line 1).shown = "    " ++ statement.text := rfl

private theorem shown_nested (statement : Statement) :
    (statement.line 2).shown = "        " ++ statement.text := rfl

private theorem readLine?_statement {statement : Statement} (spelled : statement.Spelled) :
    readLine? (blocks, .outside) (statement.line 1).shown =
      some (blocks ++ [.always statement], .outside) := by
  have text : between? "    " "" (statement.line 1).shown = some statement.text :=
    between?_eq_some (by simp [shown_statement])
  simp [readLine?, text, statement?_text spelled]

private theorem statement?_test (limit : Nat) :
    statement? ("if (dataSize < " ++ toString limit ++ ") \x7b") = none := by
  have known :
      forms.all (fun form => clash form.opening.toList "if (dataSize < ".toList) = true := by
    decide +kernel
  have forms : forms.findSome? (Form.match? ("if (dataSize < " ++ toString limit ++ ") \x7b")) =
      none := by
    refine List.findSome?_eq_none_iff.mpr fun form member => ?_
    exact match?_eq_none (List.all_eq_true.mp known form member) (by simp)
  -- Read as a reservation, the name of the record is `if`.
  have cut : cut? ' ' ("if (dataSize < " ++ toString limit ++ ") \x7b") =
      some ("if", "(dataSize < " ++ toString limit ++ ") \x7b") :=
    cut?_eq_some (by simp) (by decide)
  have other : between? ("*cmd = static_cast<" ++ "if" ++ " *>(io->mToCore.reserve(") "));"
      ("(dataSize < " ++ toString limit ++ ") \x7b") = none :=
    between?_eq_none (by simp [List.cons_prefix_cons])
  rw [statement?, forms]
  simp only [reserve?, cut, Option.bind_eq_bind, Option.bind_some, other, Option.bind_none]
  rfl

private theorem readLine?_test :
    readLine? (blocks, .outside) ("    if (dataSize < " ++ toString limit ++ ") \x7b") =
      some (blocks, .inside limit none []) := by
  have text : between? "    " "" ("    if (dataSize < " ++ toString limit ++ ") \x7b") =
      some ("if (dataSize < " ++ toString limit ++ ") \x7b") := between?_eq_some (by simp)
  have numeral : between? "if (dataSize < " ") \x7b"
      ("if (dataSize < " ++ toString limit ++ ") \x7b") = some (toString limit) :=
    between?_eq_some (by simp)
  rw [readLine?, text]
  simp only [Option.bind_eq_bind, Option.bind_some, statement?_test, test?, numeral,
    number?_toString]
  rfl

private theorem nested?_shown {statement : Statement} (spelled : statement.Spelled) :
    nested? (statement.line 2).shown = some statement := by
  have text : between? "        " "" (statement.line 2).shown = some statement.text :=
    between?_eq_some (by simp [shown_nested])
  simp [nested?, text, statement?_text spelled]

theorem foldlM_nested (statements : List Statement)
    (spelled : ∀ statement ∈ statements, statement.Spelled) :
    (statements.map fun statement => (statement.line 2).shown).foldlM readLine?
        (blocks, .inside limit first done) =
      some (blocks, .inside limit first (done ++ statements)) := by
  induction statements generalizing done with
  | nil => simp
  | cons statement rest ih =>
      have head : readLine? (blocks, .inside limit first done) (statement.line 2).shown =
          some (blocks, .inside limit first (done ++ [statement])) := by
        simp [readLine?, nested?_shown (spelled statement List.mem_cons_self)]
      have later := @ih (done ++ [statement]) fun next known =>
        spelled next (List.mem_cons_of_mem _ known)
      rw [List.map_cons, List.foldlM_cons, head, Option.bind_eq_bind, Option.bind_some, later,
        List.append_assoc, List.singleton_append]

private theorem foldlM_block (block : Block)
    (spelled : ∀ statement ∈ block.statements, statement.Spelled) :
    (block.lines.map Line.shown).foldlM readLine? (blocks, .outside) =
      some (blocks ++ [block], .outside) := by
  cases block with
  | always statement =>
      have first := @readLine?_statement blocks statement (spelled statement List.mem_cons_self)
      simp [Block.lines, first]
  | ifBelow limit small large =>
      have test : Line.shown ⟨1, [.code "if (", .read "dataSize",
          .code (" < " ++ toString limit ++ ") \x7b")]⟩ =
          "    if (dataSize < " ++ toString limit ++ ") \x7b" := by
        simp [Line.shown, ← String.toList_inj]
      have opened := @readLine?_test blocks limit
      have below := @foldlM_nested blocks limit none [] small fun statement known =>
        spelled statement (List.mem_append_left _ known)
      have turned : readLine? (blocks, .inside limit none small)
          (Line.shown ⟨1, [.code "\x7d else \x7b"]⟩) =
          some (blocks, .inside limit (some small) []) := rfl
      have above := @foldlM_nested blocks limit (some small) [] large fun statement known =>
        spelled statement (List.mem_append_right _ known)
      have closed : readLine? (blocks, .inside limit (some small) large)
          (Line.shown ⟨1, [.code "\x7d"]⟩) =
          some (blocks ++ [.ifBelow limit small large], .outside) := rfl
      simp only [Block.lines, List.map_append, List.map_cons, List.map_nil, List.map_map,
        Function.comp_def, List.foldlM_append, List.foldlM_cons, List.foldlM_nil, test, opened,
        below, turned, above, closed, List.nil_append, Option.bind_eq_bind, Option.bind_some,
        Option.pure_def]

private theorem foldlM_blocks (all : List Block)
    (spelled : ∀ block ∈ all, ∀ statement ∈ block.statements, statement.Spelled) :
    ((all.flatMap Block.lines).map Line.shown).foldlM readLine? (blocks, .outside) =
      some (blocks ++ all, .outside) := by
  induction all generalizing blocks with
  | nil => simp
  | cons block rest ih =>
      have first := @foldlM_block blocks block (spelled block List.mem_cons_self)
      have later := @ih (blocks ++ [block]) fun next known =>
        spelled next (List.mem_cons_of_mem _ known)
      rw [List.flatMap_cons, List.map_append, List.foldlM_append, first, Option.bind_eq_bind,
        Option.bind_some, later, List.append_assoc, List.singleton_append]

private theorem blocks?_lines (spelled : ∀ block ∈ blocks, ∀ statement ∈ block.statements,
    statement.Spelled) : blocks? ((blocks.flatMap Block.lines).map Line.shown) = some blocks := by
  simp [blocks?, foldlM_blocks blocks spelled]

end Blocks

/-! ## Functions -/

structure Definition where
  result : String
  name : String
  arguments : List String
  body : List String
  deriving DecidableEq, Repr

def definition? : List String → Option Definition
  | header :: opening :: rest => do
      guard (opening = "\x7b" ∧ rest.getLast? = some "\x7d")
      let (result, name, arguments) ← heading? header
      return { result, name, arguments, body := rest.dropLast }
  | _ => none

def parameter? (text : String) : Option Parameter := do
  let (type, name) ← cutLast? ' ' text
  return { type, name }

def Definition.code? (definition : Definition) : Option Function := do
  let parameters ← definition.arguments.mapM parameter?
  let blocks ← blocks? definition.body
  return { result := definition.result, name := definition.name, parameters, blocks }

def read? (text : String) : Option Function := do
  match paragraphs text with
  | [lines, []] => (← definition? lines).code?
  | _ => none

def readClient? (settings : Settings) (text : String) : Option (List Definition) := do
  let inner ← between? (clientOpening settings) "" text
  (paragraphs inner).dropLast.mapM definition?

section Functions

variable {settings : Settings} {call : Call}

private theorem spelled_openingOf (record : isIdentifier settings.recordPrefix = true)
    (fit : call.WellFormed) : ∀ statement ∈ openingOf settings call, statement.Spelled := by
  have word : isIdentifier (settings.recordName call.name) = true := isIdentifier_name record fit
  have named {statement : Statement} (names : statement.names = [settings.recordName call.name])
      (types : statement.types = []) : statement.Spelled := by
    constructor <;> simp [names, types, word]
  have nameless {statement : Statement} (names : statement.names = [])
      (types : statement.types = []) : statement.Spelled := by
    constructor <;> simp [names, types]
  intro statement member
  rw [openingOf] at member
  split at member
  · simp only [List.mem_append, List.mem_cons, List.mem_map, List.not_mem_nil,
      or_false] at member
    rcases member with ((rfl | rfl | rfl) | ⟨term, listed, rfl⟩) | rfl | rfl
    · exact nameless rfl rfl
    · exact named rfl rfl
    · exact nameless rfl rfl
    · obtain ⟨param, known, -, rfl⟩ := InlinePlan.mem_lengthTerms listed
      have length := (fit.params param known).lengthCompanion.name
      constructor <;> simp [Statement.names, Statement.types]
      exact length
    · exact named rfl rfl
    · exact nameless rfl rfl
  · simp only [List.mem_cons, List.not_mem_nil, or_false] at member
    rcases member with rfl | rfl | rfl
    · exact nameless rfl rfl
    · exact named rfl rfl
    · exact named rfl rfl

theorem spelled_storeOf {param : Variable} (fit : param.WellFormed) (copied : Bool) :
    ∀ statement ∈ storeOf copied param, statement.Spelled := by
  have name := fit.name
  have length : isIdentifier param.lengthName = true := fit.lengthCompanion.name
  have type := newline_not_mem_cType fit.base
  intro statement member
  rw [storeOf] at member
  split at member
  · simp only [List.mem_cons, List.not_mem_nil, or_false] at member
    rcases member with rfl | rfl | rfl <;>
      exact ⟨by simp [Statement.names, name, length], by simp [Statement.types, type]⟩
  · rw [List.mem_singleton.mp member]
    exact ⟨by simp [Statement.names, name], by simp [Statement.types]⟩

private theorem spelled_commitOf (record : isIdentifier settings.recordPrefix = true)
    (fit : call.WellFormed) (copied : Bool) : (commitOf settings call copied).Spelled := by
  have word : isIdentifier (settings.commandIdName call.name) = true :=
    isIdentifier_name (isIdentifier_append record (by decide)) fit
  exact ⟨by simp [commitOf, Statement.names, word], by simp [commitOf, Statement.types]⟩

private theorem spelled_returnOf (fit : call.WellFormed) :
    ∀ statement ∈ returnOf call, statement.Spelled := by
  have type := newline_not_mem_cType fit.result.base
  intro statement member
  rw [returnOf] at member
  split at member
  · rw [List.mem_singleton.mp member]
    exact ⟨by simp [Statement.names], by simp [Statement.types, type]⟩
  · contradiction

private theorem spelled_fillingOf (record : isIdentifier settings.recordPrefix = true)
    (fit : call.WellFormed) :
    ∀ block ∈ fillingOf settings call, ∀ statement ∈ block.statements, statement.Spelled := by
  have stores (param : Variable) (known : param ∈ call.params) :
      ∀ statement ∈ (storeBlock settings param).statements, statement.Spelled := by
    have spelled := spelled_storeOf (fit.params param known)
    intro statement member
    rw [storeBlock] at member
    split at member
    · rcases List.mem_append.mp member with member | member
      · exact spelled true statement member
      · exact spelled false statement member
    · exact spelled false statement member
  have commit := @spelled_commitOf settings call record fit
  have returned (block : Block) (member : block ∈ (returnOf call).map .always) :
      ∀ statement ∈ block.statements, statement.Spelled := by
    obtain ⟨statement, known, rfl⟩ := List.mem_map.mp member
    simpa [Block.statements] using spelled_returnOf fit statement known
  intro block member
  rw [fillingOf] at member
  split at member <;> rcases List.mem_append.mp member with member | member
  · rcases List.mem_append.mp member with member | member
    · obtain ⟨param, known, rfl⟩ := List.mem_map.mp member
      exact stores param known
    · rw [List.mem_singleton.mp member]
      simpa [Block.statements] using ⟨commit true, commit false⟩
  · exact returned block member
  · rcases List.mem_append.mp member with member | member
    · obtain ⟨param, known, rfl⟩ := List.mem_map.mp member
      exact spelled_storeOf (fit.params param known) false
    · rw [List.mem_singleton.mp member]
      simpa [Block.statements] using commit false
  · exact returned block member

theorem spelled_ofCall (record : isIdentifier settings.recordPrefix = true)
    (fit : call.WellFormed) :
    ∀ block ∈ (ofCall settings call).blocks, ∀ statement ∈ block.statements,
      statement.Spelled := by
  intro block member
  rcases List.mem_append.mp member with member | member
  · obtain ⟨statement, known, rfl⟩ := List.mem_map.mp member
    simpa [Block.statements] using spelled_openingOf record fit statement known
  · exact spelled_fillingOf record fit block member

def bodyLines (settings : Settings) (call : Call) : List String :=
  if call.handcoded then
    [ "    " ++ ((if call.returnsValue then "return " else "") ++
        (settings.handcodePrefix ++ call.name) ++ "(" ++ call.forwardedArguments "rsc" ++ ");") ]
  else
    ((ofCall settings call).blocks.flatMap Block.lines).map Line.shown

def definitionLines (settings : Settings) (call : Call) : List String :=
  call.signature settings.clientPrefix .client :: "\x7b" :: (bodyLines settings call ++ ["\x7d"])

theorem function_eq (settings : Settings) (call : Call) :
    Marshal.function settings call = unlines (definitionLines settings call ++ [""]) := by
  cases handcoded : call.handcoded with
  | true =>
      rw [Marshal.function, Marshal.body, if_pos handcoded, Marshal.Body.text, line_one,
        definitionLines, bodyLines, if_pos handcoded]
      simp [unlines, ← String.toList_inj]
  | false =>
      rw [← text_ofCall settings call handcoded, definitionLines, bodyLines, handcoded]
      have shown (lines : List Line) :
          String.join (lines.map Line.text) = unlines (lines.map Line.shown) := by
        rw [unlines, List.map_map]
        rfl
      rw [Function.text, shown, Function.lines, List.map_append, List.map_append]
      have margin (pieces : List Piece) : Line.shown ⟨0, pieces⟩ = Piece.joined pieces := by
        simp [Line.shown]
      simp [margin, joined_header]

private theorem newline_not_mem_forwardedArguments (fit : call.WellFormed) :
    '\n' ∉ (call.forwardedArguments "rsc").toList := by
  have named : ∀ param ∈ call.params, param.name ≠ "" := by
    intro param known empty
    have word := (fit.params param known).name
    rw [empty] at word
    contradiction
  rw [Call.forwardedArguments_eq (by decide) named]
  refine not_mem_intercalate (by decide) (Call.forall_mem_items (by decide) ?_)
  exact fun param known => newline_not_mem_of_isIdentifier (fit.params param known).name

private theorem isLine_blockLines {block : Block}
    (spelled : ∀ statement ∈ block.statements, statement.Spelled) :
    ∀ line ∈ block.lines, IsLine line.shown := by
  have statement {statement : Statement} (depth : Nat) (known : statement ∈ block.statements) :
      IsLine (statement.line (depth + 1)).shown := by
    have single := newline_not_mem_text (spelled statement known)
    rw [Statement.text] at single
    exact ⟨by simp [Line.shown, Statement.line, single],
      by simp [Line.shown, Statement.line]⟩
  cases block with
  | always only => simpa [Block.lines] using statement 0 List.mem_cons_self
  | ifBelow limit small large =>
      intro line member
      simp only [Block.lines, List.mem_append, List.mem_singleton, List.mem_map] at member
      rcases member with (((rfl | ⟨inner, known, rfl⟩) | rfl) | ⟨inner, known, rfl⟩) | rfl
      · exact ⟨by simp [Line.shown, newline_not_mem_toDigits], by simp [Line.shown]⟩
      · exact statement 1 (List.mem_append_left _ known)
      · exact ⟨by simp [Line.shown], by simp [Line.shown]⟩
      · exact statement 1 (List.mem_append_right _ known)
      · exact ⟨by simp [Line.shown], by simp [Line.shown]⟩

private theorem isLine_bodyLines (record : isIdentifier settings.recordPrefix = true)
    (handcode : call.handcoded = true → isIdentifier settings.handcodePrefix = true)
    (fit : call.WellFormed) : ∀ line ∈ bodyLines settings call, IsLine line := by
  intro line member
  rw [bodyLines] at member
  split at member
  case isTrue handcoded =>
    have target : '\n' ∉ (settings.handcodePrefix ++ call.name).toList :=
      newline_not_mem_of_isIdentifier (isIdentifier_name (handcode handcoded) fit)
    have arguments := newline_not_mem_forwardedArguments fit
    rw [List.mem_singleton.mp member]
    rw [String.toList_append, List.mem_append, not_or] at target
    exact ⟨by split <;> simp [target, arguments], by simp [← String.toList_inj]⟩
  case isFalse =>
    obtain ⟨inner, known, rfl⟩ := List.mem_map.mp member
    obtain ⟨block, inside, known⟩ := List.mem_flatMap.mp known
    exact isLine_blockLines (spelled_ofCall record fit block inside) inner known

theorem isLine_definitionLines (client : isIdentifier settings.clientPrefix = true)
    (record : isIdentifier settings.recordPrefix = true)
    (handcode : call.handcoded = true → isIdentifier settings.handcodePrefix = true)
    (fit : call.WellFormed) : ∀ line ∈ definitionLines settings call, IsLine line := by
  intro line member
  simp only [definitionLines, List.mem_cons, List.mem_append, List.not_mem_nil, or_false] at member
  rcases member with rfl | rfl | member | rfl
  · refine ⟨newline_not_mem_signature .client fit client, ?_⟩
    rw [Call.signature_eq]
    simp
  · exact ⟨by simp, by simp⟩
  · exact isLine_bodyLines record handcode fit line member
  · exact ⟨by simp, by simp⟩

def definitionOf (settings : Settings) (call : Call) : Definition where
  result := call.result.declaration
  name := settings.clientPrefix ++ call.name
  arguments := call.argumentTexts .client
  body := bodyLines settings call

theorem definition?_definitionLines (client : isIdentifier settings.clientPrefix = true)
    (fit : call.WellFormed) :
    definition? (definitionLines settings call) = some (definitionOf settings call) := by
  simp [definition?, definitionLines, heading?_signature client fit, definitionOf]

private theorem parameters_argumentTexts (fit : call.WellFormed) :
    (call.argumentTexts .client).mapM parameter? = some (parametersOf call) := by
  have params : (call.params.map Variable.declaration).mapM parameter? =
      some (call.params.map fun param => ⟨param.cType, param.name⟩) := by
    refine mapM_map_eq_some fun param known => ?_
    have name := (fit.params param known).name
    have cut : cutLast? ' ' param.declaration = some (param.cType, param.name) :=
      cutLast?_eq_some (toList_declaration (fit.params param known))
        (not_mem_of_isIdentifier name (by decide))
    simp [parameter?, cut]
  have context : parameter? ContextForm.client.declaration = some ⟨"RsContext", "rsc"⟩ := by
    decide
  cases without : call.noContext <;>
    simp [Call.argumentTexts, Call.items, parametersOf, without, context, params]

theorem code?_definitionOf (record : isIdentifier settings.recordPrefix = true)
    (generated : call.handcoded = false) (fit : call.WellFormed) :
    (definitionOf settings call).code? = some (ofCall settings call) := by
  have blocks : blocks? (bodyLines settings call) = some (ofCall settings call).blocks := by
    rw [bodyLines, generated]
    exact blocks?_lines (spelled_ofCall record fit)
  simp only [Definition.code?, definitionOf, parameters_argumentTexts fit, blocks,
    Option.bind_eq_bind, Option.bind_some]
  rfl

private theorem read?_function (client : isIdentifier settings.clientPrefix = true)
    (record : isIdentifier settings.recordPrefix = true) (generated : call.handcoded = false)
    (fit : call.WellFormed) :
    read? (Marshal.function settings call) = some (ofCall settings call) := by
  have lines := isLine_definitionLines client record (fun handcoded => by simp_all) fit
  have parts : paragraphs (Marshal.function settings call) =
      [definitionLines settings call, []] := by
    have only := @paragraphs_unlines [definitionLines settings call] []
      (by simpa using lines) (by simp)
    rw [function_eq]
    simpa using only
  simp [read?, parts, definition?_definitionLines client fit,
    code?_definitionOf record generated fit]

/-- A client source reads as a function for each buffered call. -/
theorem readClient?_render {table : CallTable} (client : isIdentifier settings.clientPrefix = true)
    (record : isIdentifier settings.recordPrefix = true)
    (handcode : isIdentifier settings.handcodePrefix = true)
    (fit : ∀ call ∈ table.calls, call.WellFormed) :
    readClient? settings (Artifact.clientSource.render settings table) =
      some ((table.calls.filter Call.isBuffered).map (definitionOf settings)) := by
  let groups := (table.calls.filter Call.isBuffered).map (definitionLines settings)
  have known : ∀ call ∈ table.calls.filter Call.isBuffered, call.WellFormed :=
    fun call member => fit call (List.mem_of_mem_filter member)
  have functions : String.join ((table.calls.filter Call.isBuffered).map
      (Marshal.function settings)) = unlines (groups.flatMap (· ++ [""])) := by
    rw [unlines_flatMap, List.map_map]
    simp only [Function.comp_def, ← function_eq]
  have inner : between? (clientOpening settings) ""
      (Artifact.clientSource.render settings table) =
      some (unlines (groups.flatMap (· ++ [""]))) :=
    between?_eq_some (by simp [render_clientSource, functions])
  have lines : ∀ group ∈ groups, ∀ line ∈ group, IsLine line := by
    intro group member
    obtain ⟨call, inside, rfl⟩ := List.mem_map.mp member
    exact isLine_definitionLines client record (fun _ => handcode) (known call inside)
  have parts : paragraphs (unlines (groups.flatMap (· ++ [""]))) = groups ++ [[]] := by
    simpa using @paragraphs_unlines groups [] lines (by simp)
  have reads : groups.mapM definition? =
      some ((table.calls.filter Call.isBuffered).map (definitionOf settings)) :=
    mapM_map_eq_some fun call inside => definition?_definitionLines client (known call inside)
  simp only [readClient?, inner, parts, Option.bind_eq_bind, Option.bind_some,
    List.dropLast_concat, reads]

end Functions

/-! ## The code behind a text -/

/--
What the client function of a call says: code with the same text.  If the names are
identifiers, the text can be read in no other way.
-/
structure Written (settings : Settings) (call : Call) (code : Function) : Prop where
  text : code.text = Marshal.function settings call
  read : isIdentifier settings.clientPrefix = true → isIdentifier settings.recordPrefix = true →
    call.WellFormed → read? (Marshal.function settings call) = some code

theorem written_ofCall (settings : Settings) {call : Call} (generated : call.handcoded = false) :
    Written settings call (ofCall settings call) where
  text := text_ofCall settings call generated
  read client record fit := read?_function client record generated fit

end ClientCode

end CommandProtocol
