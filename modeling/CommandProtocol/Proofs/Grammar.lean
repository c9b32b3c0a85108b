import CommandProtocol.Spec.Reader
import Mathlib.Data.List.Forall2

/-!
# The grammar of a spec

    spec  ::= NL* (block NL*)* Eof
    block ::= Ident NL* `{` NL* (stmt NL+)* stmt? `}`
    stmt  ::= `sync` | `direct` | `nocontext` | `handcodeApi` | `handcodePlay` | `togglePlay`
            | `param` type Ident | `ret` type
    type  ::= [`const`] Ident `*`{0..255}

Each rule is a relation between the lexemes that it derives and what they stand for,
and `Denoted` says which calls a list of lexemes means.
-/

namespace CommandProtocol.Spec

/-! ## Rules -/

namespace Grammar

def blank (count : Nat) : List Lexeme := List.replicate count .newline

inductive Many {α : Type} (form : List Lexeme → α → Prop) : List Lexeme → List α → Prop
  | nil : Many form [] []
  | cons {head tail : List Lexeme} {item : α} {items : List α} (first : form head item)
      (rest : Many form tail items) : Many form (head ++ tail) (item :: items)

inductive Padded {α : Type} (form : List Lexeme → α → Prop) : List Lexeme → List α → Prop
  | mk {lexemes : List Lexeme} {items : List α} (count : Nat) (forms : Many form lexemes items) :
      Padded form (blank count ++ lexemes) items

inductive IsType : List Lexeme → Variable → Prop
  | plain {ident : String} (stars : Nat) (other : ident ≠ "const") (bound : stars ≤ 255) :
      IsType (.ident ident :: List.replicate stars .star)
        { base := .ofIdent ident, pointers := stars }
  | const {ident : String} (stars : Nat) (bound : stars ≤ 255) :
      IsType (.ident "const" :: .ident ident :: List.replicate stars .star)
        { base := .ofIdent ident, pointers := stars, isConst := true }

def flagWords : List (String × Flag) :=
  [ ("sync", .sync), ("direct", .direct), ("nocontext", .noContext),
    ("handcodeApi", .handcoded), ("handcodePlay", .handcodePlay), ("togglePlay", .togglePlay) ]

inductive IsStatement : List Lexeme → Statement → Prop
  | flag {word : String} {flag : Flag} (spelled : (word, flag) ∈ flagWords) :
      IsStatement [.ident word] (.flag flag)
  | param {lexemes : List Lexeme} {type : Variable} (typed : IsType lexemes type)
      (name : String) :
      IsStatement (.ident "param" :: lexemes ++ [.ident name]) (.param (type.named name))
  | result {lexemes : List Lexeme} {type : Variable} (typed : IsType lexemes type) :
      IsStatement (.ident "ret" :: lexemes) (.result type)

/-- `stmt NL+` -/
inductive IsLine : List Lexeme → Statement → Prop
  | mk {lexemes : List Lexeme} {statement : Statement} (stated : IsStatement lexemes statement)
      (count : Nat) : IsLine (lexemes ++ blank (count + 1)) statement

/-- `NL* (stmt NL+)* stmt?` -/
inductive IsBody : List Lexeme → List Statement → Prop
  | lines {lexemes : List Lexeme} {statements : List Statement}
      (lines : Padded IsLine lexemes statements) : IsBody lexemes statements
  | last {lexemes final : List Lexeme} {statements : List Statement} {statement : Statement}
      (lines : Padded IsLine lexemes statements) (stated : IsStatement final statement) :
      IsBody (lexemes ++ final) (statements ++ [statement])

inductive IsBlock : List Lexeme → Block → Prop
  | mk {lexemes : List Lexeme} {statements : List Statement} (name : String) (count : Nat)
      (body : IsBody lexemes statements) :
      IsBlock (.ident name :: blank count ++ .openBrace :: lexemes ++ [.closeBrace])
        ⟨name, statements⟩

/-- `block NL*` -/
inductive IsSpaced : List Lexeme → Block → Prop
  | mk {lexemes : List Lexeme} {block : Block} (whole : IsBlock lexemes block) (count : Nat) :
      IsSpaced (lexemes ++ blank count) block

inductive IsSpec : List Lexeme → List Block → Prop
  | mk {lexemes : List Lexeme} {blocks : List Block} (spaced : Padded IsSpaced lexemes blocks) :
      IsSpec (lexemes ++ [.eof]) blocks

/-! ### Going on at the right end -/

section Forms

variable {α : Type} {form : List Lexeme → α → Prop} {lexemes more : List Lexeme} {items : List α}

theorem Many.snoc {item : α} (many : Many form lexemes items) (last : form more item) :
    Many form (lexemes ++ more) (items ++ [item]) := by
  induction many with
  | nil => simpa using Many.cons last .nil
  | cons first rest ih =>
      rw [List.append_assoc]
      exact .cons first ih

theorem Padded.snoc {item : α} (padded : Padded form lexemes items) (last : form more item) :
    Padded form (lexemes ++ more) (items ++ [item]) := by
  obtain ⟨count, many⟩ := padded
  rw [List.append_assoc]
  exact ⟨count, many.snoc last⟩

@[simp] theorem blank_snoc (count : Nat) : blank count ++ [.newline] = blank (count + 1) := by
  rw [blank, blank, List.replicate_succ']

theorem Many.newline (extend : ∀ lexemes item, form lexemes item →
    form (lexemes ++ [.newline]) item) (many : Many form lexemes items) :
    lexemes = [] ∧ items = [] ∨ Many form (lexemes ++ [.newline]) items := by
  induction many with
  | nil => exact .inl ⟨rfl, rfl⟩
  | @cons head tail item items first rest ih =>
      rcases ih with ⟨rfl, rfl⟩ | later
      · exact .inr (by simpa using Many.cons (extend _ _ first) .nil)
      · rw [List.append_assoc]
        exact .inr (.cons first later)

theorem Padded.newline (extend : ∀ lexemes item, form lexemes item →
    form (lexemes ++ [.newline]) item) (padded : Padded form lexemes items) :
    Padded form (lexemes ++ [.newline]) items := by
  obtain ⟨count, many⟩ := padded
  rcases many.newline extend with ⟨rfl, rfl⟩ | later
  · rw [List.append_nil, blank_snoc, ← List.append_nil (blank (count + 1))]
    exact ⟨count + 1, .nil⟩
  · rw [List.append_assoc]
    exact ⟨count, later⟩

end Forms

@[simp] theorem mem_flagWords {word : String} {flag : Flag} :
    (word, flag) ∈ flagWords ↔ word = flag.keyword := by
  cases flag <;> simp [flagWords, Flag.keyword]

theorem IsLine.newline (lexemes : List Lexeme) (statement : Statement)
    (line : IsLine lexemes statement) : IsLine (lexemes ++ [.newline]) statement := by
  obtain ⟨stated, count⟩ := line
  rw [List.append_assoc, blank_snoc]
  exact ⟨stated, count + 1⟩

theorem IsSpaced.newline (lexemes : List Lexeme) (block : Block)
    (spaced : IsSpaced lexemes block) : IsSpaced (lexemes ++ [.newline]) block := by
  obtain ⟨whole, count⟩ := spaced
  rw [List.append_assoc, blank_snoc]
  exact ⟨whole, count + 1⟩

theorem IsType.star {lexemes : List Lexeme} {type : Variable} (typed : IsType lexemes type)
    (bound : type.pointers < 255) : IsType (lexemes ++ [.star]) type.pointer := by
  cases typed with
  | @plain ident stars other =>
      rw [List.cons_append, ← List.replicate_succ']
      exact .plain (stars + 1) other bound
  | @const ident stars =>
      rw [List.cons_append, List.cons_append, ← List.replicate_succ']
      exact .const (stars + 1) bound

end Grammar

/-! ## Meaning -/

/-- The type of the last result statement; plain `void` if there is none. -/
def IsResult (statements : List Statement) (type : Variable) : Prop :=
  (∃ before after, statements = before ++ .result type :: after ∧
      ∀ other, .result other ∉ after) ∨
    (∀ other, .result other ∉ statements) ∧ type = { base := .void }

structure Block.Denotes (block : Block) (call : Call) : Prop where
  name : call.name = block.name
  sync : call.sync = true ↔ .flag .sync ∈ block.statements
  direct : call.direct = true ↔ .flag .direct ∈ block.statements
  noContext : call.noContext = true ↔ .flag .noContext ∈ block.statements
  handcoded : call.handcoded = true ↔ .flag .handcoded ∈ block.statements
  result : IsResult block.statements call.result
  params : call.params = Variable.withLengths block.params

def Denoted (lexemes : List Lexeme) (calls : List Call) : Prop :=
  ∃ blocks, Grammar.IsSpec lexemes blocks ∧ List.Forall₂ Block.Denotes blocks calls

def Statement.result? : Statement → Option Variable
  | .result type => some type
  | _ => none

theorem Statement.result?_eq_none {statements : List Statement}
    (none_there : ∀ other, .result other ∉ statements) :
    statements.filterMap result? = [] := by
  rw [List.filterMap_eq_nil_iff]
  intro statement member
  cases statement with
  | result type => exact absurd member (none_there type)
  | param declared => rfl
  | flag flag => rfl

private theorem Block.result_eq (block : Block) :
    block.result = (block.statements.filterMap Statement.result?).getLast?.getD .void := rfl

@[simp] theorem isResult_iff {block : Block} {type : Variable} :
    IsResult block.statements type ↔ type = block.result := by
  rw [Block.result_eq]
  constructor
  · rintro (⟨before, after, parts, rest⟩ | ⟨empty, rfl⟩)
    · have found : Statement.result? (.result type) = some type := rfl
      rw [parts, List.filterMap_append, List.filterMap_cons_some found,
        Statement.result?_eq_none rest]
      simp
    · rw [Statement.result?_eq_none empty]
      rfl
  · rintro rfl
    cases last : (block.statements.filterMap Statement.result?).getLast? with
    | none =>
        refine .inr ⟨fun other member => ?_, rfl⟩
        rw [List.getLast?_eq_none_iff, List.filterMap_eq_nil_iff] at last
        exact absurd (last _ member) (by simp [Statement.result?])
    | some type =>
        obtain ⟨earlier, all⟩ := List.getLast?_eq_some_iff.mp last
        obtain ⟨front, back, parts, -, ends⟩ := List.filterMap_eq_append_iff.mp all
        obtain ⟨skipped, found, after, rfl, -, here, rest⟩ := List.filterMap_eq_cons_iff.mp ends
        cases found with
        | result other =>
            cases here
            refine .inl ⟨front ++ skipped, after, by rw [parts, List.append_assoc]; rfl, ?_⟩
            intro other member
            exact absurd (List.filterMap_eq_nil_iff.mp rest _ member) (by simp [Statement.result?])
        | param declared => contradiction
        | flag flag => contradiction

private theorem Block.denotes_iff {block : Block} {call : Call} :
    block.Denotes call ↔ block.call = call := by
  constructor
  · rintro ⟨name, sync, direct, noContext, handcoded, result, params⟩
    cases call
    simp only [Block.call, Block.has, Call.mk.injEq]
    refine ⟨name.symm, (isResult_iff.mp result).symm, params.symm, ?_, ?_, ?_, ?_⟩
    · exact Bool.eq_iff_iff.mpr (by simpa using noContext.symm)
    · exact Bool.eq_iff_iff.mpr (by simpa using direct.symm)
    · exact Bool.eq_iff_iff.mpr (by simpa using sync.symm)
    · exact Bool.eq_iff_iff.mpr (by simpa using handcoded.symm)
  · rintro rfl
    refine ⟨rfl, ?_, ?_, ?_, ?_, isResult_iff.mpr rfl, rfl⟩
    all_goals simp [Block.call, Block.has]

theorem denoted_iff {lexemes : List Lexeme} {calls : List Call} :
    Denoted lexemes calls ↔
      ∃ blocks, Grammar.IsSpec lexemes blocks ∧ blocks.map Block.call = calls := by
  have pointwise : Block.Denotes = fun block call => block.call = call := by
    funext block call
    exact propext Block.denotes_iff
  rw [Denoted, pointwise]
  simp only [← List.forall₂_map_left_iff, List.forall₂_eq_eq_eq]

end CommandProtocol.Spec
