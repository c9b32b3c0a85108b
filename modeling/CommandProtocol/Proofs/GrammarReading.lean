import CommandProtocol.Proofs.Grammar
import CommandProtocol.Proofs.TokenStream

/-!
# The reader and the grammar

The reader accepts exactly the token lists that the grammar derives, and it returns the
calls that the derived blocks denote.  `Reader.Reads` follows a derivation from left to
right; `Grammar.Reached` says, for every place of the reader, which beginnings lead there.
-/

namespace CommandProtocol.Spec

/-! ## Every derivation is accepted -/

/-- Tokens with the given lexemes lead from one reader to the other, on whatever lines. -/
def Reader.Reads (reader : Reader) (lexemes : List Lexeme) (final : Reader) : Prop :=
  ∀ tokens : List Token, tokens.map Token.lexeme = lexemes → reader.feed tokens = .ok final

namespace Reader.Reads

variable {reader middle final : Reader} {first second : List Lexeme} {lexeme : Lexeme}

theorem nil : Reads reader [] reader := by
  intro tokens none_left
  rw [List.map_eq_nil_iff.mp none_left]
  rfl

theorem cons (stepped : ∀ line, ∃ next, reader.step ⟨lexeme, line⟩ = .ok next ∧
    Reads next first final) : Reads reader (lexeme :: first) final := by
  intro tokens spelled
  obtain ⟨token, rest, rfl, rfl, others⟩ := List.map_eq_cons_iff.mp spelled
  obtain ⟨next, read, later⟩ := stepped token.line
  rw [feed_cons, read]
  exact later rest others

theorem single (stepped : ∀ line, reader.step ⟨lexeme, line⟩ = .ok final) :
    Reads reader [lexeme] final :=
  cons fun line => ⟨final, stepped line, nil⟩

theorem append (early : Reads reader first middle) (late : Reads middle second final) :
    Reads reader (first ++ second) final := by
  intro tokens spelled
  obtain ⟨before, after, rfl, before_spelled, after_spelled⟩ := List.map_eq_append_iff.mp spelled
  rw [feed_append_of_ok (early before before_spelled)]
  exact late after after_spelled

theorem blank (stepped : ∀ line, reader.step ⟨.newline, line⟩ = .ok reader) (count : Nat) :
    Reads reader (Grammar.blank count) reader := by
  induction count with
  | zero => exact nil
  | succ count ih => exact cons fun line => ⟨reader, stepped line, ih⟩

end Reader.Reads

namespace OpenBlock

def addAll (block : OpenBlock) (statements : List Statement) : OpenBlock :=
  { block with reversed := statements.reverse ++ block.reversed }

variable {block : OpenBlock}

@[simp] theorem addAll_cons (statement : Statement) (statements : List Statement) :
    block.addAll (statement :: statements) = (block.add statement).addAll statements := by
  simp [addAll, add]

@[simp] theorem addAll_append_singleton (statements : List Statement) (statement : Statement) :
    block.addAll (statements ++ [statement]) = (block.addAll statements).add statement := by
  simp [addAll, add]

@[simp] theorem statements_add (statement : Statement) :
    (block.add statement).block.statements = block.block.statements ++ [statement] := by
  simp [add, OpenBlock.block]

end OpenBlock

namespace Reader

open Grammar

variable {reader : Reader} {block : OpenBlock}

theorem reads_stars {use : TypeUse} (stars : Nat) (type : Variable)
    (bound : type.pointers + stars ≤ 255) :
    (reader.within block (.afterType use type)).Reads (List.replicate stars .star)
      (reader.within block (.afterType use { type with pointers := type.pointers + stars })) := by
  induction stars generalizing type with
  | zero => exact .nil
  | succ stars ih =>
      refine .cons fun line => ⟨reader.within block (.afterType use type.pointer), ?_, ?_⟩
      · have below : type.pointers < maxPointers := by
          rw [maxPointers]
          omega
        simp [step, within, readInside, readAfterType, below]
      · have deeper : type.pointer.pointers + stars = type.pointers + (stars + 1) := by
          simp only [Variable.pointer]
          omega
        have later := ih type.pointer (by omega)
        rw [deeper] at later
        exact later

theorem reads_type {use : TypeUse} {lexemes : List Lexeme} {type : Variable}
    (typed : IsType lexemes type) :
    (reader.within block (.typeStart use)).Reads lexemes
      (reader.within block (.afterType use type)) := by
  cases typed with
  | @plain ident stars other bound =>
      refine .cons fun line =>
        ⟨reader.within block (.afterType use { base := .ofIdent ident }), ?_, ?_⟩
      · simp [step, within, readInside, other]
      · simpa using reads_stars stars { base := .ofIdent ident } (by simpa using bound)
  | @const ident stars bound =>
      refine .cons fun line => ⟨reader.within block (.typeName use), ?_, ?_⟩
      · simp [step, within, readInside]
      refine .cons fun line =>
        ⟨reader.within block (.afterType use { base := .ofIdent ident, isConst := true }), rfl, ?_⟩
      simpa using reads_stars stars { base := .ofIdent ident, isConst := true }
        (by simpa using bound)

structure Completes (final reader : Reader) (block : OpenBlock) : Prop where
  newline : ∀ line, final.step ⟨.newline, line⟩ = .ok (reader.within block .statement)
  closeBrace : ∀ line, final.step ⟨.closeBrace, line⟩ = .ok (reader.close block)

private theorem readKeyword_flag {word : String} {flag : Flag} (spelled : (word, flag) ∈ flagWords)
    (line : Nat) :
    reader.readKeyword block line word = .ok (reader.within (block.add (.flag flag)) .lineEnd) := by
  rw [mem_flagWords.mp spelled]
  cases flag <;> rfl

theorem reads_statement (reader : Reader) (block : OpenBlock) {lexemes : List Lexeme}
    {statement : Statement} (stated : IsStatement lexemes statement) :
    ∃ final, (reader.within block .statement).Reads lexemes final ∧
      final.Completes reader (block.add statement) := by
  cases stated with
  | @flag word flag spelled =>
      refine ⟨reader.within (block.add (.flag flag)) .lineEnd, .single fun line => ?_, ?_⟩
      · exact readKeyword_flag spelled line
      · exact ⟨fun line => rfl, fun line => rfl⟩
  | @param lexemes type typed name =>
      refine ⟨reader.within (block.add (.param (type.named name))) .lineEnd, ?_, ?_⟩
      · have typed_read : (reader.within block .statement).Reads (.ident "param" :: lexemes)
            (reader.within block (.afterType .param type)) :=
          .cons fun line => ⟨reader.within block (.typeStart .param), rfl, reads_type typed⟩
        exact typed_read.append (.single fun line => rfl)
      · exact ⟨fun line => rfl, fun line => rfl⟩
  | @result lexemes type typed =>
      refine ⟨reader.within block (.afterType .result type), ?_, ?_⟩
      · exact .cons fun line => ⟨reader.within block (.typeStart .result), rfl, reads_type typed⟩
      · exact ⟨fun line => rfl, fun line => rfl⟩

private theorem reads_line {lexemes : List Lexeme} {statement : Statement}
    (line : IsLine lexemes statement) :
    (reader.within block .statement).Reads lexemes
      (reader.within (block.add statement) .statement) := by
  obtain ⟨stated, count⟩ := line
  obtain ⟨final, read, complete⟩ := reads_statement reader block stated
  exact read.append (.cons fun line => ⟨_, complete.newline line, .blank (fun _ => rfl) count⟩)

private theorem reads_lines {lexemes : List Lexeme} {statements : List Statement}
    (lines : Many IsLine lexemes statements) :
    (reader.within block .statement).Reads lexemes
      (reader.within (block.addAll statements) .statement) := by
  induction lines generalizing block with
  | nil => exact .nil
  | @cons _ _ statement statements first rest ih =>
      rw [OpenBlock.addAll_cons]
      exact (reads_line first).append ih

theorem reads_padded {lexemes : List Lexeme} {statements : List Statement}
    (padded : Padded IsLine lexemes statements) :
    (reader.within block .statement).Reads lexemes
      (reader.within (block.addAll statements) .statement) := by
  obtain ⟨count, lines⟩ := padded
  exact (Reads.blank (fun _ => rfl) count).append (reads_lines lines)

private theorem reads_body {lexemes : List Lexeme} {statements : List Statement}
    (body : IsBody lexemes statements) :
    (reader.within block .statement).Reads (lexemes ++ [.closeBrace])
      (reader.close (block.addAll statements)) := by
  cases body with
  | lines lines => exact (reads_padded lines).append (.single fun line => rfl)
  | @last lexemes final statements statement lines stated =>
      obtain ⟨_, read, complete⟩ := reads_statement reader (block.addAll statements) stated
      rw [OpenBlock.addAll_append_singleton]
      exact ((reads_padded lines).append read).append (.single complete.closeBrace)

private theorem reads_block {lexemes : List Lexeme} {block : Block} (whole : IsBlock lexemes block)
    (closed : List Block) :
    Reads ⟨closed, .outside⟩ lexemes ⟨block :: closed, .outside⟩ := by
  cases whole with
  | @mk lexemes statements name count body =>
      -- the line of the name is kept until the block is closed
      rw [List.append_assoc, List.cons_append, List.cons_append]
      refine .cons fun line => ⟨⟨closed, .named name line⟩, rfl, ?_⟩
      have opened : Reads ⟨closed, .named name line⟩ (blank count ++ [.openBrace])
          (within ⟨closed, .outside⟩ { name, line } .statement) :=
        (Reads.blank (fun _ => rfl) count).append (.single fun _ => rfl)
      have whole := opened.append (reads_body body)
      simpa [close, OpenBlock.block, OpenBlock.addAll] using whole

private theorem reads_spaced {lexemes : List Lexeme} {blocks : List Block}
    (spaced : Many IsSpaced lexemes blocks) (closed : List Block) :
    Reads ⟨closed, .outside⟩ lexemes ⟨blocks.reverse ++ closed, .outside⟩ := by
  induction spaced generalizing closed with
  | nil => exact .nil
  | @cons _ _ block blocks first rest ih =>
      obtain ⟨whole, count⟩ := first
      have read := ((reads_block whole closed).append (.blank (fun _ => rfl) count)).append
        (ih (block :: closed))
      simpa using read

end Reader

/-! ## Everything accepted is derived -/

def TypeUse.keyword : TypeUse → String
  | .param => "param"
  | .result => "ret"

namespace Grammar

inductive IsInside : List Lexeme → List Statement → Spot → Prop
  | statement {lexemes : List Lexeme} {statements : List Statement}
      (lines : Padded IsLine lexemes statements) : IsInside lexemes statements .statement
  | lineEnd {lexemes final : List Lexeme} {statements : List Statement} {statement : Statement}
      (lines : Padded IsLine lexemes statements) (stated : IsStatement final statement) :
      IsInside (lexemes ++ final) (statements ++ [statement]) .lineEnd
  | typeStart {lexemes : List Lexeme} {statements : List Statement}
      (lines : Padded IsLine lexemes statements) (use : TypeUse) :
      IsInside (lexemes ++ [.ident use.keyword]) statements (.typeStart use)
  | typeName {lexemes : List Lexeme} {statements : List Statement}
      (lines : Padded IsLine lexemes statements) (use : TypeUse) :
      IsInside (lexemes ++ [.ident use.keyword, .ident "const"]) statements (.typeName use)
  | afterType {lexemes final : List Lexeme} {statements : List Statement} {type : Variable}
      (lines : Padded IsLine lexemes statements) (use : TypeUse) (typed : IsType final type) :
      IsInside (lexemes ++ .ident use.keyword :: final) statements (.afterType use type)

/--
After some closed blocks the tokens go on with a name, an opening brace and the inner
lexemes.
-/
def Opened (tokens : List Token) (closed : List Block) (name : String) (line : Nat)
    (inner : List Lexeme) : Prop :=
  ∃ before after count, tokens = before ++ ⟨.ident name, line⟩ :: after ∧
    Padded IsSpaced (before.map Token.lexeme) closed.reverse ∧
    after.map Token.lexeme = blank count ++ .openBrace :: inner

inductive Reached : List Token → Reader → Prop
  | outside {tokens : List Token} {closed : List Block}
      (spaced : Padded IsSpaced (tokens.map Token.lexeme) closed.reverse) :
      Reached tokens ⟨closed, .outside⟩
  | named {before after : List Token} {closed : List Block} {name : String} {line : Nat}
      (count : Nat) (spaced : Padded IsSpaced (before.map Token.lexeme) closed.reverse)
      (gap : after.map Token.lexeme = blank count) :
      Reached (before ++ ⟨.ident name, line⟩ :: after) ⟨closed, .named name line⟩
  | inside {tokens : List Token} {closed : List Block} {block : OpenBlock} {spot : Spot}
      (inner : List Lexeme) (opened : Opened tokens closed block.name block.line inner)
      (read : IsInside inner block.block.statements spot) :
      Reached tokens ⟨closed, .inside block spot⟩

section Steps

variable {tokens : List Token} {token : Token} {reader next : Reader} {block : OpenBlock}
  {inner : List Lexeme}

theorem Opened.snoc {closed : List Block} {name : String} {line : Nat}
    (opened : Opened tokens closed name line inner) (token : Token) :
    Opened (tokens ++ [token]) closed name line (inner ++ [token.lexeme]) := by
  obtain ⟨before, after, count, rfl, spaced, opening⟩ := opened
  exact ⟨before, after ++ [token], count, by simp, spaced, by simp [opening]⟩

theorem Opened.close {closed : List Block} {name : String} {line : Nat}
    {statements : List Statement} (opened : Opened tokens closed name line inner)
    (body : IsBody inner statements) (brace : token.lexeme = .closeBrace) :
    Padded IsSpaced ((tokens ++ [token]).map Token.lexeme)
      (⟨name, statements⟩ :: closed).reverse := by
  obtain ⟨before, after, count, rfl, spaced, opening⟩ := opened
  have spaced_block := IsSpaced.mk (IsBlock.mk name count body) 0
  rw [List.reverse_cons]
  simpa [opening, brace, blank] using spaced.snoc spaced_block

private theorem reached_readKeyword {keyword : String} {line : Nat}
    (opened : Opened tokens reader.closed block.name block.line inner)
    (lines : Padded IsLine inner block.block.statements)
    (found : token.lexeme = .ident keyword)
    (read : reader.readKeyword block line keyword = .ok next) :
    Reached (tokens ++ [token]) next := by
  have later := opened.snoc token
  rw [found] at later
  simp only [Reader.readKeyword] at read
  split at read
  · next param =>
      cases read
      subst param
      exact .inside _ later (.typeStart lines .param)
  · split at read
    · next result =>
        cases read
        subst result
        exact .inside _ later (.typeStart lines .result)
    · split at read
      · next flag known =>
          cases read
          have spelled : flag.keyword = keyword := by
            simpa using List.find?_some known
          refine .inside _ later ?_
          rw [OpenBlock.statements_add]
          exact .lineEnd lines (.flag (mem_flagWords.mpr spelled.symm))
      · contradiction

theorem IsInside.newline {statements : List Statement}
    (ended : IsInside inner statements .lineEnd) :
    Padded IsLine (inner ++ [.newline]) statements := by
  cases ended with
  | lineEnd lines stated =>
      rw [List.append_assoc]
      exact lines.snoc (.mk stated 0)

theorem IsInside.body {statements : List Statement}
    (ended : IsInside inner statements .lineEnd) : IsBody inner statements := by
  cases ended with
  | lineEnd lines stated => exact .last lines stated

theorem reached_readLineEnd (ended : IsInside inner block.block.statements .lineEnd)
    (opened : Opened tokens reader.closed block.name block.line inner)
    (read : reader.readLineEnd block token = .ok next) :
    Reached (tokens ++ [token]) next := by
  have later := opened.snoc token
  simp only [Reader.readLineEnd] at read
  split at read
  · next found =>
      cases read
      rw [found] at later
      exact .inside _ later (.statement ended.newline)
  · next found =>
      cases read
      exact .outside (opened.close ended.body found)
  · contradiction
  · contradiction

private theorem reached_readAfterType {use : TypeUse} {type : Variable} {final : List Lexeme}
    (opened : Opened tokens reader.closed block.name block.line
      (inner ++ .ident use.keyword :: final))
    (lines : Padded IsLine inner block.block.statements) (typed : IsType final type)
    (read : reader.readAfterType block use type token = .ok next) :
    Reached (tokens ++ [token]) next := by
  have later := opened.snoc token
  rw [List.append_assoc, List.cons_append] at later
  simp only [Reader.readAfterType] at read
  split at read
  · next found =>
      rw [found] at later
      split at read
      · next bound =>
          cases read
          exact .inside _ later (.afterType lines _ (typed.star bound))
      · contradiction
  · next name found =>
      cases read
      rw [found] at later
      refine .inside _ later ?_
      rw [OpenBlock.statements_add]
      exact .lineEnd lines (.param typed name)
  · contradiction
  · contradiction
  · contradiction
  · -- the result type is complete, and its statement ends with this token
    have ended : IsInside (inner ++ .ident "ret" :: final)
        (block.add (.result type)).block.statements .lineEnd := by
      rw [OpenBlock.statements_add]
      exact .lineEnd lines (.result typed)
    exact reached_readLineEnd ended opened read

private theorem reached_readInside {spot : Spot}
    (opened : Opened tokens reader.closed block.name block.line inner)
    (inside : IsInside inner block.block.statements spot)
    (here : reader.place = .inside block spot)
    (read : reader.readInside block token spot = .ok next) :
    Reached (tokens ++ [token]) next := by
  have later := opened.snoc token
  generalize held : block.block.statements = statements at inside
  cases spot with
  | statement =>
      cases inside with
      | statement lines =>
          subst held
          simp only [Reader.readInside] at read
          split at read
          · next found =>
              cases read
              rw [found] at later
              obtain ⟨closed, place⟩ := reader
              cases here
              exact .inside _ later (.statement (lines.newline IsLine.newline))
          · next found =>
              cases read
              exact .outside (opened.close (.lines lines) found)
          · contradiction
          · next keyword found => exact reached_readKeyword opened lines found read
          · contradiction
  | lineEnd =>
      subst held
      exact reached_readLineEnd inside opened read
  | typeStart use =>
      cases inside with
      | typeStart lines =>
          subst held
          simp only [Reader.readInside] at read
          split at read
          · next ident found =>
              rw [found, List.append_assoc] at later
              split at read
              · next qualifier =>
                  cases read
                  subst qualifier
                  exact .inside _ later (.typeName lines use)
              · next other =>
                  cases read
                  exact .inside _ later
                    (.afterType lines use (.plain 0 other (Nat.zero_le 255)))
          · contradiction
  | typeName use =>
      cases inside with
      | typeName lines =>
          subst held
          simp only [Reader.readInside] at read
          split at read
          · next ident found =>
              rw [found, List.append_assoc] at later
              cases read
              exact .inside _ later
                (.afterType lines use (.const 0 (Nat.zero_le 255)))
          · contradiction
  | afterType use type =>
      cases inside with
      | afterType lines _ typed =>
          subst held
          exact reached_readAfterType opened lines typed read

theorem Reached.step (reached : Reached tokens reader) (read : reader.step token = .ok next)
    (proper : token.lexeme ≠ .eof) : Reached (tokens ++ [token]) next := by
  cases reached with
  | outside spaced =>
      simp only [Reader.step] at read
      split at read
      · next found =>
          cases read
          refine .outside ?_
          simpa [found] using spaced.newline IsSpaced.newline
      · -- an end token would be read here without leaving a trace
        next found => contradiction
      · next name found =>
          cases read
          obtain ⟨lexeme, line⟩ := token
          cases found
          exact .named 0 spaced rfl
      · contradiction
  | @named before after closed name line count spaced gap =>
      simp only [Reader.step] at read
      rw [List.append_assoc, List.cons_append]
      split at read
      · next found =>
          cases read
          refine .named (count + 1) spaced ?_
          rw [List.map_append, gap, List.map_singleton, found, blank_snoc]
      · next found =>
          cases read
          refine .inside [] ⟨before, after ++ [token], count, rfl, spaced, ?_⟩ ?_
          · rw [List.map_append, gap, List.map_singleton, found]
          · exact .statement (.mk 0 .nil)
      · contradiction
  | inside _ opened inside => exact reached_readInside opened inside rfl read

theorem Reached.feed {later : List Token} (reached : Reached tokens reader)
    (fed : reader.feed later = .ok next) (proper : ∀ token ∈ later, token.lexeme ≠ .eof) :
    Reached (tokens ++ later) next := by
  induction later generalizing tokens reader with
  | nil =>
      cases fed
      rwa [List.append_nil]
  | cons token rest ih =>
      rw [List.forall_mem_cons] at proper
      rw [Reader.feed_cons] at fed
      obtain ⟨following, read, rest_fed⟩ := exists_of_bind_eq_ok fed
      rw [List.append_cons]
      exact ih (reached.step read proper.1) rest_fed proper.2

end Steps

end Grammar

/-! ## Acceptance -/

private theorem Grammar.reached_start : Reached [] {} := .outside (.mk 0 .nil)

theorem Grammar.reached_of_feed {body : List Token} {final : Reader}
    (fed : Reader.feed {} body = .ok final) (proper : ∀ token ∈ body, token.lexeme ≠ .eof) :
    Reached body final :=
  reached_start.feed fed proper

private theorem Reader.reads_blocks {lexemes : List Lexeme} {blocks : List Block}
    (padded : Grammar.Padded Grammar.IsSpaced lexemes blocks) :
    Reads {} lexemes ⟨blocks.reverse, .outside⟩ := by
  obtain ⟨count, spaced⟩ := padded
  simpa using (Reads.blank (fun _ => rfl) count).append (reads_spaced spaced [])

/-- The reader is outside a block exactly after complete blocks, and these are its blocks. -/
theorem Reader.feed_eq_outside_iff {body : List Token} {blocks : List Block}
    (proper : ∀ token ∈ body, token.lexeme ≠ .eof) :
    feed {} body = .ok ⟨blocks.reverse, .outside⟩ ↔
      Grammar.Padded Grammar.IsSpaced (body.map Token.lexeme) blocks := by
  constructor
  · intro fed
    have reached := Grammar.reached_of_feed fed proper
    cases reached with
    | outside spaced => rwa [List.reverse_reverse] at spaced
  · intro spaced
    exact reads_blocks spaced body rfl

private theorem Grammar.isSpec_iff {lexemes : List Lexeme} {blocks : List Block} :
    IsSpec (lexemes ++ [.eof]) blocks ↔ Padded IsSpaced lexemes blocks := by
  constructor
  · intro derived
    generalize whole : lexemes ++ [Lexeme.eof] = all at derived
    obtain ⟨spaced⟩ := derived
    rwa [List.append_cancel_right whole]
  · exact .mk

theorem Reading.calls_ofTokens_eq_ok_iff {tokens : List Token} (ended : Terminated tokens)
    {calls : List Call} :
    (ofTokens tokens).calls = .ok calls ↔ Denoted (tokens.map Token.lexeme) calls := by
  obtain ⟨body, line, rfl, proper⟩ := ended
  rw [calls_ofTokens_eq_ok proper, denoted_iff, List.map_append, List.map_singleton]
  simp only [Grammar.isSpec_iff, ← Reader.feed_eq_outside_iff proper]
  constructor
  · rintro ⟨⟨closed, place⟩, fed, complete, rfl⟩
    cases complete
    exact ⟨closed.reverse, by rwa [List.reverse_reverse], rfl⟩
  · rintro ⟨blocks, fed, rfl⟩
    exact ⟨_, fed, rfl, by simp [Reader.blocks]⟩

/--
The reader accepts what the grammar derives and returns what it denotes, which is the
only thing that the token list can denote.
-/
theorem reader_accepts_grammar {tokens : List Token} (ended : Terminated tokens) :
    (∀ calls, (Reading.ofTokens tokens).calls = .ok calls ↔
        Denoted (tokens.map Token.lexeme) calls) ∧
      ∀ first second, Denoted (tokens.map Token.lexeme) first →
        Denoted (tokens.map Token.lexeme) second → first = second := by
  refine ⟨fun calls => Reading.calls_ofTokens_eq_ok_iff ended, fun first second one two => ?_⟩
  have returned := (Reading.calls_ofTokens_eq_ok_iff ended).mpr one
  rw [(Reading.calls_ofTokens_eq_ok_iff ended).mpr two] at returned
  exact (Except.ok.inj returned).symm

/--
Two blocks on one line: `param` names the first, `const` is a type and a parameter, the
last statement ends at the brace, and the second result type counts.
-/
def crowdedTokens : List Token :=
  [ ⟨.ident "param", 1⟩, ⟨.newline, 1⟩, ⟨.openBrace, 2⟩, ⟨.newline, 2⟩,
    ⟨.ident "param", 3⟩, ⟨.ident "const", 3⟩, ⟨.ident "const", 3⟩, ⟨.star, 3⟩,
    ⟨.ident "const", 3⟩, ⟨.newline, 3⟩, ⟨.ident "ret", 4⟩, ⟨.ident "float", 4⟩,
    ⟨.newline, 4⟩, ⟨.ident "sync", 5⟩, ⟨.newline, 5⟩, ⟨.ident "ret", 6⟩,
    ⟨.ident "int08_t", 6⟩, ⟨.closeBrace, 6⟩, ⟨.ident "Next", 6⟩, ⟨.openBrace, 6⟩,
    ⟨.ident "togglePlay", 6⟩, ⟨.closeBrace, 6⟩, ⟨.eof, 6⟩ ]

theorem reader_accepts_grammar_crowded :
    Terminated crowdedTokens ∧
      Denoted (crowdedTokens.map Token.lexeme)
        [ { name := "param", sync := true, result := { base := .int 8 },
            params :=
              [ { base := .named "const", pointers := 1, isConst := true, name := "const" },
                { base := .named "size_t", name := "const_length" } ] },
          { name := "Next" } ] := by
  have ended : Terminated crowdedTokens := ⟨crowdedTokens.dropLast, 6, rfl, by decide⟩
  exact ⟨ended, ((reader_accepts_grammar ended).1 _).mp rfl⟩

end CommandProtocol.Spec
