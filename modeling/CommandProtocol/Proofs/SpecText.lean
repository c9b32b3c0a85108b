import CommandProtocol.Proofs.Companions
import CommandProtocol.Proofs.GrammarReading
import CommandProtocol.Proofs.HeaderReader
import CommandProtocol.Proofs.TableNames

/-!
# A table written as a spec

Every table that comes from a spec can be written as a spec again, with the C spelling of
its types, and is read back unchanged: integer widths have lost their leading zeros, and
the length companions, now declared, are not added a second time.
-/

namespace CommandProtocol

open Spec

/-! ## Writing -/

def Call.isMarked (call : Call) : Flag → Bool
  | .sync => call.sync
  | .direct => call.direct
  | .noContext => call.noContext
  | .handcoded => call.handcoded
  | .handcodePlay | .togglePlay => false

def Call.block (call : Call) : Block where
  name := call.name
  statements := (Flag.all.filter call.isMarked).map .flag ++ call.params.map .param ++
    [.result call.result]

namespace Spec

def Statement.text : Statement → String
  | .flag marked => marked.keyword
  | .param declared => "param " ++ declared.declaration
  | .result type => "ret " ++ type.cType

def Block.text (block : Block) : String :=
  block.name ++ " \x7b\n" ++
    String.join (block.statements.map fun statement => statement.text ++ "\n") ++ "\x7d\n"

end Spec

def CallTable.specText (table : CallTable) : String :=
  String.join (table.calls.map fun call => call.block.text)

/-! ## The block of a call denotes the call -/

@[simp] theorem Call.flag_mem_block (call : Call) (flag : Flag) :
    .flag flag ∈ call.block.statements ↔ call.isMarked flag = true := by
  have listed : flag ∈ Flag.all := by cases flag <;> decide
  simp [block, listed]

private theorem Call.denotes_block {call : Call}
    (complete : Variable.withLengths call.params = call.params) : call.block.Denotes call where
  name := rfl
  sync := (flag_mem_block call .sync).symm
  direct := (flag_mem_block call .direct).symm
  noContext := (flag_mem_block call .noContext).symm
  handcoded := (flag_mem_block call .handcoded).symm
  result := .inl ⟨_, [], rfl, by simp⟩
  params := by
    have declared : call.block.params = call.params := by
      simp [block, Block.params, List.filterMap_map]
    rw [declared, complete]

theorem Call.WellFormed.block {call : Call} (fit : call.WellFormed) : call.block.Sound where
  name := fit.name
  statements := by
    intro statement member
    simp only [Call.block, List.mem_append, List.mem_map, List.mem_singleton] at member
    rcases member with (⟨flag, -, rfl⟩ | ⟨param, inside, rfl⟩) | rfl
    · trivial
    · exact fit.params param inside
    · exact fit.result

/-! ## Lexemes of what is written -/

def Variable.lexemes (type : Variable) : List Lexeme :=
  (if type.isConst then [.ident "const"] else []) ++
    .ident type.base.cName :: List.replicate type.pointers .star

namespace Spec

def Statement.lexemes : Statement → List Lexeme
  | .flag marked => [.ident marked.keyword]
  | .param declared => .ident "param" :: declared.lexemes ++ [.ident declared.name]
  | .result type => .ident "ret" :: type.lexemes

private theorem Statement.newline_not_mem_lexemes (statement : Statement) :
    .newline ∉ statement.lexemes := by
  cases statement <;> simp [lexemes, Variable.lexemes]

def Block.lexemes (block : Block) : List Lexeme :=
  .ident block.name :: .openBrace :: .newline ::
    (block.statements.flatMap fun statement => statement.lexemes ++ [.newline]) ++
      [.closeBrace, .newline]

end Spec

/-! ## Scanning what is written -/

namespace Spec

/-- The scanner may be inside a word, but in no comment. -/
def Scanner.Settled (scanner : Scanner) : Prop :=
  scanner.mode = .between ∨ ∃ letters, scanner.mode = .word letters

/-- Between tokens, the characters add the lexemes; the last of them may be unfinished. -/
def Scans (chars : List Char) (lexemes : List Lexeme) : Prop :=
  ∀ scanner : Scanner, scanner.mode = .between →
    ∃ next, chars.foldlM Scanner.step scanner = .ok next ∧ next.Settled ∧
      next.endWord.reversed.map Token.lexeme =
        lexemes.reverse ++ scanner.reversed.map Token.lexeme

def ScansLines (chars : List Char) (lexemes : List Lexeme) : Prop :=
  ∀ scanner : Scanner, scanner.mode = .between →
    ∃ next, chars.foldlM Scanner.step scanner = .ok next ∧ next.mode = .between ∧
      next.reversed.map Token.lexeme = lexemes.reverse ++ scanner.reversed.map Token.lexeme

theorem Scanner.endWord_of_between {scanner : Scanner} (between : scanner.mode = .between) :
    scanner.endWord = scanner := by
  rw [endWord, between]

theorem Scanner.Settled.endWord_mode {scanner : Scanner} (settled : scanner.Settled) :
    scanner.endWord.mode = .between := by
  rcases settled with between | ⟨letters, word⟩
  · rwa [endWord_of_between between]
  · rw [endWord, word]
    rfl

theorem Scanner.Settled.step {scanner : Scanner} (settled : scanner.Settled) {char : Char}
    (outside : isWordChar char = false) : scanner.step char = scanner.endWord.start char := by
  rcases settled with between | ⟨letters, word⟩
  · rw [endWord_of_between between, Scanner.step, between]
  · rw [Scanner.step, word]
    simp [outside]

theorem Scanner.start_of_isWordStart {scanner : Scanner} {char : Char}
    (word : isWordStart char = true) :
    scanner.start char = .ok { scanner with mode := .word [char] } := by
  have other (symbol : Char) (not_word : isWordStart symbol = false) : char ≠ symbol := by
    rintro rfl
    rw [word] at not_word
    contradiction
  simp [start, word, other '#' rfl, other '/' rfl, other '\n' rfl, other ' ' rfl,
    other '\t' rfl, other '\r' rfl, other '\x7b' rfl, other '\x7d' rfl, other '*' rfl]

theorem Scanner.steps_word {letters : List Char} (scanner : Scanner) (reversed : List Char)
    (inside : scanner.mode = .word reversed)
    (continued : ∀ letter ∈ letters, isWordChar letter = true) :
    letters.foldlM Scanner.step scanner =
      .ok { scanner with mode := .word (letters.reverse ++ reversed) } := by
  induction letters generalizing scanner reversed with
  | nil =>
      obtain ⟨tokens, line, mode⟩ := scanner
      cases inside
      rfl
  | cons letter rest ih =>
      rw [List.forall_mem_cons] at continued
      have stepped : scanner.step letter =
          .ok { scanner with mode := .word (letter :: reversed) } := by
        rw [step, inside]
        simp [continued.1]
      rw [steps_cons stepped, ih _ (letter :: reversed) rfl continued.2]
      simp

namespace Scans

variable {first second : List Char} {early late : List Lexeme}

theorem nil : Scans [] [] := by
  intro scanner between
  exact ⟨scanner, rfl, .inl between, by rw [Scanner.endWord_of_between between]; rfl⟩

theorem word {name : String} (identifier : isIdentifier name = true) :
    Scans name.toList [.ident name] := by
  intro scanner between
  rw [isIdentifier] at identifier
  cases spelled : name.toList with
  | nil =>
      rw [spelled] at identifier
      contradiction
  | cons letter rest =>
      rw [spelled, isWord, Bool.and_eq_true, List.all_eq_true] at identifier
      have started : scanner.step letter = .ok { scanner with mode := .word [letter] } := by
        rw [Scanner.step, between]
        exact Scanner.start_of_isWordStart identifier.1
      refine ⟨{ scanner with mode := .word (rest.reverse ++ [letter]) }, ?_, .inr ⟨_, rfl⟩, ?_⟩
      · rw [Scanner.steps_cons started, Scanner.steps_word _ _ rfl identifier.2]
      · have whole : String.ofList (rest.reverse ++ [letter]).reverse = name := by
          rw [List.reverse_append, List.reverse_reverse, List.reverse_singleton,
            List.singleton_append, ← spelled, String.ofList_toList]
        simp only [Scanner.endWord, whole]
        rfl

theorem symbol {char : Char} {lexeme : Lexeme} (outside : isWordChar char = false)
    (started : ∀ scanner : Scanner, scanner.start char = .ok (scanner.emit lexeme))
    (scans : Scans first early) : Scans (first ++ [char]) (early ++ [lexeme]) := by
  intro scanner between
  obtain ⟨next, ran, settled, tokens⟩ := scans scanner between
  refine ⟨next.endWord.emit lexeme, ?_, .inl rfl, ?_⟩
  · rw [Scanner.steps_append ran]
    exact Scanner.steps_cons ((settled.step outside).trans (started _)) []
  · rw [Scanner.endWord_of_between rfl, Scanner.emit, List.map_cons, tokens,
      List.reverse_append]
    rfl

theorem blank (before : Scans first early) (after : Scans second late) :
    Scans (first ++ ' ' :: second) (early ++ late) := by
  intro scanner between
  obtain ⟨middle, ran, settled, tokens⟩ := before scanner between
  obtain ⟨next, ran_after, settled_after, tokens_after⟩ :=
    after middle.endWord settled.endWord_mode
  have stepped : middle.step ' ' = .ok middle.endWord := settled.step rfl
  refine ⟨next, ?_, settled_after, ?_⟩
  · rw [Scanner.steps_append ran, Scanner.steps_cons stepped, ran_after]
  · rw [tokens_after, tokens, List.reverse_append, List.append_assoc]

theorem stars (count : Nat) : Scans (List.replicate count '*') (List.replicate count .star) := by
  induction count with
  | zero => exact nil
  | succ count ih =>
      rw [List.replicate_succ', List.replicate_succ']
      exact symbol rfl (fun _ => rfl) ih

theorem cType {type : Variable} (fit : type.base.WellFormed) :
    Scans type.cType.toList type.lexemes := by
  have base : Scans type.base.cName.toList [.ident type.base.cName] :=
    word (ReadBack.isIdentifier_cName fit)
  have pointed : Scans (type.base.cName ++ if type.isPointer then
      " " ++ String.ofList (List.replicate type.pointers '*') else "").toList
      (.ident type.base.cName :: List.replicate type.pointers .star) := by
    split
    · simpa using blank base (stars type.pointers)
    · next plain =>
        have none_there : type.pointers = 0 := by
          simpa [Variable.isPointer] using plain
        simpa [none_there] using base
  rw [Variable.cType, Variable.lexemes, String.append_assoc]
  split
  · have qualifier : Scans "const".toList [.ident "const"] := word rfl
    rw [String.toList_append]
    exact blank qualifier pointed
  · simpa using pointed

theorem declaration {declared : Variable} (fit : declared.WellFormed) :
    Scans declared.declaration.toList (declared.lexemes ++ [.ident declared.name]) := by
  rw [ReadBack.toList_declaration fit]
  exact blank (cType fit.base) (word fit.name)

theorem statement {statement : Statement} (fit : statement.Sound) :
    Scans statement.text.toList statement.lexemes := by
  cases statement with
  | flag marked => cases marked <;> exact word rfl
  | param declared =>
      have keyword : Scans "param".toList [.ident "param"] := word rfl
      rw [Statement.text, String.toList_append]
      exact blank keyword (declaration fit)
  | result type =>
      have keyword : Scans "ret".toList [.ident "ret"] := word rfl
      rw [Statement.text, String.toList_append]
      exact blank keyword (cType fit.base)

end Scans

namespace ScansLines

variable {first second : List Char} {early late : List Lexeme}

theorem nil : ScansLines [] [] := by
  intro scanner between
  exact ⟨scanner, rfl, between, rfl⟩

theorem append (before : ScansLines first early) (after : ScansLines second late) :
    ScansLines (first ++ second) (early ++ late) := by
  intro scanner between
  obtain ⟨middle, ran, middle_between, tokens⟩ := before scanner between
  obtain ⟨next, ran_after, next_between, tokens_after⟩ := after middle middle_between
  refine ⟨next, ?_, next_between, ?_⟩
  · rw [Scanner.steps_append ran, ran_after]
  · rw [tokens_after, tokens, List.reverse_append, List.append_assoc]

theorem line {lexemes : List Lexeme} (scans : Scans first lexemes) (present : lexemes ≠ [])
    (single : .newline ∉ lexemes) : ScansLines (first ++ ['\n']) (lexemes ++ [.newline]) := by
  intro scanner between
  obtain ⟨next, ran, settled, tokens⟩ := scans scanner between
  have stepped : next.step '\n' = .ok next.endWord.endLine := settled.step rfl
  have begun : next.endWord.lineIsEmpty = false := by
    obtain ⟨last, others, ending⟩ :=
      List.exists_cons_of_ne_nil (List.reverse_ne_nil_iff.mpr present)
    have inside : last ∈ lexemes := List.mem_reverse.mp (ending ▸ List.mem_cons_self)
    rw [ending, List.cons_append] at tokens
    obtain ⟨token, rest, held, rfl, -⟩ := List.map_eq_cons_iff.mp tokens
    rw [Scanner.lineIsEmpty, held]
    simpa using fun same : token.lexeme = .newline => single (same ▸ inside)
  refine ⟨next.endWord.endLine, ?_, rfl, ?_⟩
  · rw [Scanner.steps_append ran]
    exact Scanner.steps_cons stepped []
  · rw [Scanner.endLine, begun, List.reverse_append]
    simp [Scanner.emit, tokens]

theorem statements {statements : List Statement} (fit : ∀ statement ∈ statements, statement.Sound) :
    ScansLines (String.join (statements.map fun statement => statement.text ++ "\n")).toList
      (statements.flatMap fun statement => statement.lexemes ++ [.newline]) := by
  induction statements with
  | nil => exact nil
  | cons statement rest ih =>
      rw [List.forall_mem_cons] at fit
      rw [String.toList_join, List.map_cons, List.flatMap_cons, List.flatMap_cons,
        ← String.toList_join, String.toList_append]
      exact (line (Scans.statement fit.1) (by cases statement <;> simp [Statement.lexemes])
        (Statement.newline_not_mem_lexemes statement)).append (ih fit.2)

theorem block {block : Block} (fit : block.Sound) :
    ScansLines block.text.toList block.lexemes := by
  have opening : Scans (block.name.toList ++ [' ', '\x7b']) [.ident block.name, .openBrace] :=
    (Scans.word fit.name).blank (Scans.nil.symbol rfl fun _ => rfl)
  have closing : Scans ['\x7d'] [.closeBrace] := Scans.nil.symbol rfl fun _ => rfl
  have lines := ((line opening (by simp) (by simp)).append (statements fit.statements)).append
    (line closing (by simp) (by simp))
  simpa [Block.text, Block.lexemes] using lines

theorem blocks {blocks : List Block} (fit : ∀ block ∈ blocks, block.Sound) :
    ScansLines (String.join (blocks.map Block.text)).toList (blocks.flatMap Block.lexemes) := by
  induction blocks with
  | nil => exact nil
  | cons block rest ih =>
      rw [List.forall_mem_cons] at fit
      rw [String.toList_join, List.map_cons, List.flatMap_cons, List.flatMap_cons,
        ← String.toList_join]
      exact (ScansLines.block fit.1).append (ih fit.2)

private theorem scan_eq_ok {text : String} {lexemes : List Lexeme}
    (lines : ScansLines text.toList lexemes) :
    ∃ tokens, scan text = .ok tokens ∧ tokens.map Token.lexeme = lexemes ++ [.eof] := by
  obtain ⟨scanner, ran, between, tokens⟩ := lines {} rfl
  refine ⟨(scanner.emit .eof).reversed.reverse, ?_, ?_⟩
  · rw [scan, scanChars, ran]
    change scanner.finish = _
    rw [Scanner.finish, between, Scanner.endWord_of_between between]
  · simp [Scanner.emit, List.map_reverse, tokens]

end ScansLines

end Spec

/-! ## What is written derives from the grammar -/

namespace BaseType

theorem ofIdent_cName {type : BaseType} (fit : type.WellFormed) : ofIdent type.cName = type := by
  cases type with
  | void => rfl
  | int bits | uint bits =>
      simp only [WellFormed, integerWidths, List.mem_cons, List.not_mem_nil, or_false] at fit
      rcases fit with rfl | rfl | rfl | rfl <;> rfl
  | float bits => rcases fit with rfl | rfl <;> rfl
  | named name => exact fit.2

private theorem eq_of_ofIdent_eq_named {ident name : String} (known : ofIdent ident = .named name) :
    ident = name := by
  unfold ofIdent at known
  split at known
  · contradiction
  · split at known
    · contradiction
    · split at known
      · contradiction
      · cases integer : integer? ident with
        | none =>
            rw [integer] at known
            cases known
            rfl
        | some type =>
            rw [integer] at known
            subst known
            -- an integer type is never a named one
            rw [integer?] at integer
            split at integer
            · obtain ⟨bits, -, other⟩ := Option.map_eq_some_iff.mp integer
              contradiction
            · obtain ⟨bits, -, other⟩ := Option.map_eq_some_iff.mp integer
              contradiction
            · contradiction

end BaseType

def Variable.Readable (type : Variable) : Prop := Grammar.IsType type.lexemes type.bare

theorem Spec.Grammar.IsType.readable {lexemes : List Lexeme} {type : Variable}
    (typed : IsType lexemes type) (fit : type.base.WellFormed) : type.Readable := by
  have spelled := BaseType.ofIdent_cName fit
  cases typed with
  | @plain ident stars other bound =>
      -- no other word is spelled `const` in C, so the type is not taken for a qualifier
      have proper : (BaseType.ofIdent ident).cName ≠ "const" := by
        intro same
        rw [same] at spelled
        exact other (BaseType.eq_of_ofIdent_eq_named spelled.symm)
      have derived := IsType.plain stars proper bound
      rw [spelled] at derived
      exact derived
  | @const ident stars bound =>
      have derived := @IsType.const (BaseType.ofIdent ident).cName stars bound
      rw [spelled] at derived
      exact derived

private theorem Variable.readable_lengthCompanion (param : Variable) :
    param.lengthCompanion.Readable :=
  @Grammar.IsType.plain "size_t" 0 (by decide) (Nat.zero_le 255)

structure Call.Readable (call : Call) : Prop where
  params : ∀ param ∈ call.params, param.Readable
  result : call.result.Readable

namespace Spec.Grammar

theorem Many.exists_of_mem {α : Type} {form : List Lexeme → α → Prop} {lexemes : List Lexeme}
    {items : List α} (many : Many form lexemes items) {item : α} (member : item ∈ items) :
    ∃ part, form part item := by
  induction many with
  | nil => contradiction
  | cons first rest ih =>
      rcases List.mem_cons.mp member with rfl | member
      · exact ⟨_, first⟩
      · exact ih member

private theorem IsSpec.isBlock {lexemes : List Lexeme} {blocks : List Block}
    (derived : IsSpec lexemes blocks) {block : Block} (member : block ∈ blocks) :
    ∃ part, IsBlock part block := by
  obtain ⟨⟨_, many⟩⟩ := derived
  obtain ⟨_, ⟨whole, _⟩⟩ := many.exists_of_mem member
  exact ⟨_, whole⟩

theorem IsBlock.isStatement {lexemes : List Lexeme} {block : Block}
    (whole : IsBlock lexemes block) {statement : Statement}
    (member : statement ∈ block.statements) : ∃ part, IsStatement part statement := by
  have of_lines {part : List Lexeme} {statements : List Statement}
      (lines : Padded IsLine part statements) (member : statement ∈ statements) :
      ∃ part, IsStatement part statement := by
    obtain ⟨count, many⟩ := lines
    obtain ⟨_, ⟨stated, _⟩⟩ := many.exists_of_mem member
    exact ⟨_, stated⟩
  obtain ⟨name, count, body⟩ := whole
  cases body with
  | lines lines => exact of_lines lines member
  | last lines stated =>
      rcases List.mem_append.mp member with member | member
      · exact of_lines lines member
      · rw [List.mem_singleton.mp member]
        exact ⟨_, stated⟩

theorem IsBlock.readable {lexemes : List Lexeme} {block : Block}
    (whole : IsBlock lexemes block) (fit : block.call.WellFormed) : block.call.Readable where
  params := by
    intro param inside
    have proper := fit.params param inside
    rcases Variable.mem_withLengths.mp inside with inside | ⟨source, -, -, -, rfl⟩
    · obtain ⟨statement, member, read⟩ := List.mem_filterMap.mp inside
      obtain ⟨_, stated⟩ := whole.isStatement member
      cases stated with
      | param typed name =>
          cases read
          exact typed.readable proper.base
      | flag spelled => contradiction
      | result typed => contradiction
    · exact source.readable_lengthCompanion
  result := by
    have proper : block.result.base.WellFormed := fit.result.base
    change block.result.Readable
    rcases isResult_iff.mpr (Eq.refl block.result) with ⟨before, after, parts, -⟩ | ⟨-, void⟩
    · have member : .result block.result ∈ block.statements := parts ▸ by simp
      obtain ⟨_, stated⟩ := whole.isStatement member
      generalize block.result = type at stated proper
      cases stated with
      | result typed => exact typed.readable proper
    · rw [void]
      exact @IsType.plain "void" 0 (by decide) (Nat.zero_le 255)

private theorem isStatement_lexemes_param {param : Variable} (readable : param.Readable) :
    IsStatement (Statement.param param).lexemes (.param param) :=
  .param readable param.name

private theorem isStatement_lexemes_result {type : Variable} (readable : type.Readable)
    (bare : type.name = "") : IsStatement (Statement.result type).lexemes (.result type) := by
  have same : type.bare = type := by
    obtain ⟨base, pointers, isConst, name⟩ := type
    cases bare
    rfl
  rw [Variable.Readable, same] at readable
  exact .result readable

private theorem isStatement_of_mem_block {call : Call} (fit : call.WellFormed)
    (readable : call.Readable)
    {statement : Statement} (member : statement ∈ call.block.statements) :
    IsStatement statement.lexemes statement := by
  simp only [Call.block, List.mem_append, List.mem_map, List.mem_singleton] at member
  rcases member with (⟨flag, -, rfl⟩ | ⟨param, inside, rfl⟩) | rfl
  · exact .flag (mem_flagWords.mpr rfl)
  · exact isStatement_lexemes_param (readable.params param inside)
  · exact isStatement_lexemes_result readable.result fit.result.bare

private theorem isSpaced_lexemes {block : Block}
    (stated : ∀ statement ∈ block.statements, IsStatement statement.lexemes statement) :
    IsSpaced block.lexemes block := by
  obtain ⟨name, statements⟩ := block
  have lines : Many IsLine (statements.flatMap fun statement => statement.lexemes ++ [.newline])
      statements := by
    induction statements with
    | nil => exact .nil
    | cons statement rest ih =>
        rw [List.forall_mem_cons] at stated
        exact .cons (.mk stated.1 0) (ih stated.2)
  have whole := IsSpaced.mk (IsBlock.mk name 0 (.lines (.mk 1 lines))) 1
  simpa [blank, Block.lexemes] using whole

private theorem isSpec_lexemes {calls : List Call} (fit : ∀ call ∈ calls, call.WellFormed)
    (readable : ∀ call ∈ calls, call.Readable) :
    IsSpec ((calls.map Call.block).flatMap Block.lexemes ++ [.eof]) (calls.map Call.block) := by
  have spaced : Many IsSpaced ((calls.map Call.block).flatMap Block.lexemes)
      (calls.map Call.block) := by
    induction calls with
    | nil => exact .nil
    | cons call rest ih =>
        rw [List.forall_mem_cons] at fit readable
        have first : IsSpaced call.block.lexemes call.block :=
          isSpaced_lexemes fun _ member => isStatement_of_mem_block fit.1 readable.1 member
        exact .cons first (ih fit.2 readable.2)
  exact .mk (.mk 0 spaced)

end Spec.Grammar

/-! ## Reading back -/

namespace Spec

theorem exists_block_of_parse {text : String} {table : CallTable}
    (parsed : parse text = .ok table) :
    ∀ call ∈ table.calls, ∃ lexemes block, Grammar.IsBlock lexemes block ∧ block.call = call := by
  obtain ⟨tokens, scanned, returned⟩ := scan_of_readCalls (readCalls_of_parse parsed)
  have denoted := (Reading.calls_ofTokens_eq_ok_iff (scan_terminated scanned)).mp returned
  obtain ⟨blocks, derived, calls⟩ := denoted_iff.mp denoted
  intro call member
  rw [← calls] at member
  obtain ⟨block, inside, rfl⟩ := List.mem_map.mp member
  obtain ⟨part, whole⟩ := derived.isBlock inside
  exact ⟨part, block, whole, rfl⟩

/-- A table that comes from a spec is read back from its own spec text. -/
theorem parse_specText {text : String} {table : CallTable} (parsed : parse text = .ok table) :
    parse table.specText = .ok table := by
  have fit := parse_wellFormed parsed
  have readable : ∀ call ∈ table.calls, call.Readable := by
    intro call member
    obtain ⟨_, block, whole, rfl⟩ := exists_block_of_parse parsed call member
    exact whole.readable (fit _ member)
  have denotes : ∀ call ∈ table.calls, call.block.Denotes call := by
    intro call member
    obtain ⟨_, block, -, rfl⟩ := exists_block_of_parse parsed call member
    exact Call.denotes_block (Variable.withLengths_withLengths block.params)
  have lines : ScansLines table.specText.toList
      ((table.calls.map Call.block).flatMap Block.lexemes) := by
    rw [CallTable.specText, ← Function.comp_def Block.text, ← List.map_map]
    refine ScansLines.blocks ?_
    rw [List.forall_mem_map]
    exact fun call member => (fit call member).block
  obtain ⟨tokens, scanned, spelled⟩ := lines.scan_eq_ok
  have denoted : Denoted (tokens.map Token.lexeme) table.calls := by
    rw [spelled]
    refine ⟨table.calls.map Call.block, Grammar.isSpec_lexemes fit readable, ?_⟩
    rw [List.forall₂_map_left_iff, List.forall₂_same]
    exact denotes
  have returned := (Reading.calls_ofTokens_eq_ok_iff (scan_terminated scanned)).mpr denoted
  rw [parse_eq, readCalls, scanned]
  change (Reading.ofTokens tokens).calls.bind CallTable.ofCalls = .ok table
  rw [returned]
  exact table.ofCalls_calls

def paddedSpec : String :=
  "Draw \x7b sync\n handcodePlay\n param const const **rows\n param int08_t width\n" ++
    " ret const void \x7d Stop \x7b\x7d"

def paddedTable : CallTable where
  calls :=
    [ { name := "Draw", sync := true, result := { base := .void, isConst := true },
        params :=
          [ { base := .named "const", pointers := 2, isConst := true, name := "rows" },
            { base := .named "size_t", name := "rows_length" },
            { base := .int 8, name := "width" } ] },
      { name := "Stop" } ]
  distinct := by decide

theorem parse_specText_padded :
    parse paddedSpec = .ok paddedTable ∧
      paddedTable.specText =
        "Draw \x7b\nsync\nparam const const ** rows\nparam size_t rows_length\n" ++
          "param int8_t width\nret const void\n\x7d\nStop \x7b\nret void\n\x7d\n" ∧
      parse paddedTable.specText = .ok paddedTable := by
  have parsed : parse paddedSpec = .ok paddedTable := rfl
  exact ⟨parsed, by decide, parse_specText parsed⟩

end Spec

end CommandProtocol
