import CommandProtocol.Proofs.GrammarReading

/-!
# Faults at the first impossible token

When the reader fails, the tokens before the one it fails at can still be continued to a
spec, and no list with the same tokens up to and including that one is a spec: every such
list has the same fault.  The fault is reported at that token, except that an unterminated
block is reported at its name.
-/

namespace CommandProtocol.Spec

open Grammar

/-! ## Completing what has been read -/

def TypeUse.completion : TypeUse → List Lexeme
  | .param => [.ident "x"]
  | .result => []

def Spot.completion : Spot → List Lexeme
  | .statement | .lineEnd => []
  | .typeStart use | .typeName use => .ident "void" :: use.completion
  | .afterType use _ => use.completion

def Place.completion : Place → List Lexeme
  | .outside => []
  | .named _ _ => [.openBrace, .closeBrace]
  | .inside _ spot => spot.completion ++ [.closeBrace]

namespace Reader

theorem reads_completion_afterType (reader : Reader) (block : OpenBlock) (use : TypeUse)
    (type : Variable) :
    ∃ final : Reader, final.place = .outside ∧
      (reader.within block (.afterType use type)).Reads (use.completion ++ [.closeBrace])
        final := by
  cases use with
  | param =>
      refine ⟨reader.close (block.add (.param (type.named "x"))), rfl, ?_⟩
      exact .cons fun _ => ⟨_, rfl, .single fun _ => rfl⟩
  | result =>
      refine ⟨reader.close (block.add (.result type)), rfl, ?_⟩
      exact .single fun _ => rfl

private theorem reads_completion (reader : Reader) :
    ∃ final : Reader, final.place = .outside ∧ reader.Reads reader.place.completion final := by
  obtain ⟨closed, place⟩ := reader
  cases place with
  | outside => exact ⟨_, rfl, .nil⟩
  | named name line =>
      exact ⟨⟨⟨name, []⟩ :: closed, .outside⟩, rfl,
        .cons fun _ => ⟨_, rfl, .single fun _ => rfl⟩⟩
  | inside block spot =>
      cases spot with
      | statement => exact ⟨_, rfl, .single fun _ => rfl⟩
      | lineEnd => exact ⟨_, rfl, .single fun _ => rfl⟩
      | typeStart use =>
          obtain ⟨final, complete, read⟩ := reads_completion_afterType ⟨closed, .outside⟩ block
            use { base := .void }
          exact ⟨final, complete, .cons fun _ => ⟨_, rfl, read⟩⟩
      | typeName use =>
          obtain ⟨final, complete, read⟩ := reads_completion_afterType ⟨closed, .outside⟩ block
            use { base := .void, isConst := true }
          exact ⟨final, complete, .cons fun _ => ⟨_, rfl, read⟩⟩
      | afterType use type => exact reads_completion_afterType ⟨closed, .outside⟩ block use type

end Reader

private theorem Place.completion_proper (place : Place) : .eof ∉ place.completion := by
  rcases place with _ | _ | ⟨block, _ | _ | use | use | ⟨use, type⟩⟩
  all_goals try cases use
  all_goals simp [completion, Spot.completion, TypeUse.completion]

/-- What has been read without a fault can be continued to a spec. -/
theorem exists_continuation {before : List Token} {reader : Reader}
    (fed : Reader.feed {} before = .ok reader)
    (proper : ∀ token ∈ before, token.lexeme ≠ .eof) :
    ∃ rest calls, Terminated (before ++ rest) ∧
      (Reading.ofTokens (before ++ rest)).calls = .ok calls := by
  obtain ⟨final, complete, read⟩ := reader.reads_completion
  let added : List Token := reader.place.completion.map fun lexeme => ⟨lexeme, 0⟩
  have spelled : added.map Token.lexeme = reader.place.completion := by
    simp [added, Function.comp_def]
  have all_proper : ∀ token ∈ before ++ added, token.lexeme ≠ .eof := by
    intro token member
    rcases List.mem_append.mp member with member | member
    · exact proper token member
    · intro same
      refine reader.place.completion_proper ?_
      rw [← spelled, ← same]
      exact List.mem_map_of_mem member
  have all_fed : Reader.feed {} (before ++ added) = .ok final := by
    rw [Reader.feed_append_of_ok fed]
    exact read added spelled
  refine ⟨added ++ [⟨.eof, 0⟩], final.blocks.map Block.call, ?_, ?_⟩
  · exact ⟨before ++ added, 0, by simp, all_proper⟩
  · rw [← List.append_assoc]
    exact (Reading.calls_ofTokens_eq_ok all_proper).mpr ⟨final, all_fed, complete, rfl⟩

/-! ## Where a fault is reported -/

def Reader.InBlock (reader : Reader) (name : String) (line : Nat) : Prop :=
  ∃ block spot, reader.place = .inside block spot ∧ block.name = name ∧ block.line = line

/-- The faults that a token can cause, each with the line it is reported at. -/
inductive Faults (reader : Reader) (token : Token) : SpecError → Prop
  | unexpected (expected : Expectation) : Faults reader token (unexpected token expected)
  | unknownKeyword {keyword : String} (name : String) (word : token.lexeme = .ident keyword) :
      Faults reader token (.unknownKeyword token.line name keyword)
  | missingParamName (name : String) : Faults reader token (.missingParamName token.line name)
  | namedReturn {word : String} (name : String) (found : token.lexeme = .ident word) :
      Faults reader token (.namedReturn token.line name)
  | unterminatedBlock {name : String} {line : Nat} (inside : reader.InBlock name line)
      (ended : token.lexeme = .eof) : Faults reader token (.unterminatedBlock line name)

namespace Reader

variable {reader : Reader} {block : OpenBlock} {token : Token} {fault : SpecError}

private theorem faults_of_readKeyword {keyword : String} (word : token.lexeme = .ident keyword)
    (failed : reader.readKeyword block token.line keyword = .error fault) :
    Faults reader token fault := by
  simp only [readKeyword] at failed
  repeat' split at failed
  all_goals cases failed
  exact .unknownKeyword block.name word

theorem faults_of_readLineEnd (inside : reader.InBlock block.name block.line)
    (failed : reader.readLineEnd block token = .error fault) : Faults reader token fault := by
  simp only [readLineEnd] at failed
  split at failed
  all_goals cases failed
  · next ended => exact .unterminatedBlock inside ended
  · exact .unexpected .endOfLine

private theorem faults_of_readAfterType {use : TypeUse} {type : Variable}
    (inside : reader.InBlock block.name block.line)
    (failed : reader.readAfterType block use type token = .error fault) :
    Faults reader token fault := by
  simp only [readAfterType] at failed
  split at failed
  · next star =>
      split at failed
      · contradiction
      · cases failed
        have limit : unexpected token .pointerLimit =
            .unexpectedToken token.line .star .pointerLimit := by simp [unexpected, star]
        rw [← limit]
        exact .unexpected .pointerLimit
  · contradiction
  · next word found =>
      cases failed
      exact .namedReturn block.name found
  · cases failed
    exact .unexpected .paramName
  · cases failed
    exact .missingParamName block.name
  · have kept : reader.InBlock (block.add (.result type)).name (block.add (.result type)).line :=
      inside
    exact faults_of_readLineEnd kept failed

private theorem faults_of_readInside {spot : Spot} (inside : reader.InBlock block.name block.line)
    (failed : reader.readInside block token spot = .error fault) : Faults reader token fault := by
  cases spot with
  | statement =>
      simp only [readInside] at failed
      split at failed
      · contradiction
      · contradiction
      · next ended =>
          cases failed
          exact .unterminatedBlock inside ended
      · next keyword word => exact faults_of_readKeyword word failed
      · cases failed
        exact .unexpected .keyword
  | lineEnd => exact faults_of_readLineEnd inside failed
  | typeStart use =>
      simp only [readInside] at failed
      split at failed
      · split at failed <;> contradiction
      · cases failed
        exact .unexpected .typeName
  | typeName use =>
      simp only [readInside] at failed
      split at failed
      · contradiction
      · cases failed
        exact .unexpected .typeName
  | afterType use type => exact faults_of_readAfterType inside failed

private theorem faults_of_step (failed : reader.step token = .error fault) :
    Faults reader token fault := by
  simp only [step] at failed
  split at failed
  · split at failed
    · contradiction
    · contradiction
    · contradiction
    · cases failed
      exact .unexpected .callName
  · split at failed
    · contradiction
    · contradiction
    · cases failed
      exact .unexpected .openBrace
  · next block spot here => exact faults_of_readInside ⟨block, spot, here, rfl, rfl⟩ failed

end Reader

namespace Faults

variable {reader : Reader} {token : Token} {fault : SpecError}

private theorem line?_eq (faults : Faults reader token fault)
    (other : ∀ line name, fault ≠ .unterminatedBlock line name) :
    fault.line? = some token.line := by
  cases faults with
  | unexpected expected =>
      unfold Spec.unexpected
      split <;> rfl
  | unknownKeyword name word => rfl
  | missingParamName name => rfl
  | namedReturn name found => rfl
  | unterminatedBlock inside ended => exact absurd rfl (other _ _)

theorem inBlock {line : Nat} {name : String}
    (faults : Faults reader token (.unterminatedBlock line name)) :
    token.lexeme = .eof ∧ reader.InBlock name line := by
  generalize reported : SpecError.unterminatedBlock line name = fault at faults
  cases faults with
  | unexpected expected =>
      unfold Spec.unexpected at reported
      split at reported <;> contradiction
  | unterminatedBlock inside ended =>
      cases reported
      exact ⟨ended, inside⟩
  | _ => contradiction

private theorem of_eof (faults : Faults reader token fault) (ended : token.lexeme = .eof) :
    (∃ expected, fault = .unexpectedEnd token.line expected) ∨
      (∃ line name, fault = .unterminatedBlock line name) ∨
      ∃ name, fault = .missingParamName token.line name := by
  cases faults with
  | unexpected expected => exact .inl ⟨expected, if_pos ended⟩
  | missingParamName name => exact .inr (.inr ⟨name, rfl⟩)
  | unterminatedBlock inside ended => exact .inr (.inl ⟨_, _, rfl⟩)
  | unknownKeyword name word =>
      rw [word] at ended
      contradiction
  | namedReturn name word =>
      rw [word] at ended
      contradiction

private theorem eof_of_unexpectedEnd {line : Nat} {expected : Expectation}
    (faults : Faults reader token (.unexpectedEnd line expected)) : token.lexeme = .eof := by
  generalize reported : SpecError.unexpectedEnd line expected = fault at faults
  cases faults with
  | unexpected expected =>
      by_contra other
      rw [Spec.unexpected, if_neg other] at reported
      contradiction
  | _ => contradiction

end Faults

/-! ## The block that is left open -/

namespace Grammar

private theorem Padded.forall_lexemes {α : Type} {form : List Lexeme → α → Prop}
    {lexemes : List Lexeme} {items : List α} (good : Lexeme → Prop)
    (forms : ∀ part item, form part item → ∀ lexeme ∈ part, good lexeme)
    (newline : good .newline) (padded : Padded form lexemes items) :
    ∀ lexeme ∈ lexemes, good lexeme := by
  obtain ⟨count, many⟩ := padded
  rw [List.forall_mem_append]
  constructor
  · intro lexeme member
    rwa [List.eq_of_mem_replicate member]
  · induction many with
    | nil => simp
    | cons first rest ih => exact List.forall_mem_append.mpr ⟨forms _ _ first, ih⟩

theorem IsType.closeBrace_not_mem {lexemes : List Lexeme} {type : Variable}
    (typed : IsType lexemes type) : .closeBrace ∉ lexemes := by
  cases typed with
  | plain stars other bound => simp
  | const stars bound => simp

theorem IsStatement.closeBrace_not_mem {lexemes : List Lexeme} {statement : Statement}
    (stated : IsStatement lexemes statement) : .closeBrace ∉ lexemes := by
  cases stated with
  | flag spelled => simp
  | param typed name => simp [typed.closeBrace_not_mem]
  | result typed => simp [typed.closeBrace_not_mem]

theorem closeBrace_not_mem_lines {lexemes : List Lexeme} {statements : List Statement}
    (lines : Padded IsLine lexemes statements) : .closeBrace ∉ lexemes := by
  have proper := lines.forall_lexemes (· ≠ .closeBrace) ?_ (by simp)
  · exact fun member => proper _ member rfl
  rintro _ _ ⟨stated, count⟩ lexeme member rfl
  rcases List.mem_append.mp member with member | member
  · exact stated.closeBrace_not_mem member
  · simp [blank] at member

theorem IsInside.closeBrace_not_mem {inner : List Lexeme} {statements : List Statement}
    {spot : Spot} (inside : IsInside inner statements spot) : .closeBrace ∉ inner := by
  cases inside with
  | statement lines => exact closeBrace_not_mem_lines lines
  | lineEnd lines stated =>
      simp [closeBrace_not_mem_lines lines, stated.closeBrace_not_mem]
  | typeStart lines use => simp [closeBrace_not_mem_lines lines]
  | typeName lines use => simp [closeBrace_not_mem_lines lines]
  | afterType lines use typed =>
      simp [closeBrace_not_mem_lines lines, typed.closeBrace_not_mem]

end Grammar

/--
After complete blocks comes a name on the given line, its opening brace, and no closing
brace.
-/
def EndsInBlock (tokens : List Token) (name : String) (line : Nat) : Prop :=
  ∃ before after count inner, tokens = before ++ ⟨.ident name, line⟩ :: after ∧
    (∃ calls, (Reading.ofTokens (before ++ [⟨.eof, line⟩])).calls = .ok calls) ∧
    after.map Token.lexeme = blank count ++ .openBrace :: inner ∧ .closeBrace ∉ inner

private theorem endsInBlock_of_feed {before : List Token} {stuck : Reader} {name : String}
    {line : Nat} (fed : Reader.feed {} before = .ok stuck)
    (proper : ∀ token ∈ before, token.lexeme ≠ .eof) (inside : stuck.InBlock name line) :
    EndsInBlock before name line := by
  obtain ⟨block, spot, here, rfl, rfl⟩ := inside
  have reached := reached_of_feed fed proper
  obtain ⟨closed, place⟩ := stuck
  cases here
  cases reached with
  | inside inner opened read =>
      obtain ⟨earlier, after, count, rfl, spaced, opening⟩ := opened
      have earlier_proper : ∀ token ∈ earlier, token.lexeme ≠ .eof :=
        fun token member => proper token (List.mem_append_left _ member)
      have complete := (Reader.feed_eq_outside_iff earlier_proper).mpr spaced
      exact ⟨earlier, after, count, inner, rfl,
        ⟨_, (Reading.calls_ofTokens_eq_ok earlier_proper).mpr ⟨_, complete, rfl, rfl⟩⟩,
        opening, read.closeBrace_not_mem⟩

/-! ## The offending token -/

/-- The token at the index is where the list fails, and the fault says so. -/
structure Offends (tokens : List Token) (fault : SpecError) (index : Nat) (token : Token) :
    Prop where
  here : tokens[index]? = some token
  /-- The tokens before it can be continued to a spec. -/
  viable : ∃ rest calls, Terminated (tokens.take index ++ rest) ∧
    (Reading.ofTokens (tokens.take index ++ rest)).calls = .ok calls
  /-- With it, whatever follows, the fault is the same. -/
  decisive : ∀ other, other.take (index + 1) = tokens.take (index + 1) →
    (Reading.ofTokens other).calls = .error fault
  line : (∀ line name, fault ≠ .unterminatedBlock line name) → fault.line? = some token.line
  unterminated : ∀ line name, fault = .unterminatedBlock line name →
    token.lexeme = .eof ∧ EndsInBlock (tokens.take index) name line
  unexpectedEnd : ∀ line expected, fault = .unexpectedEnd line expected → token.lexeme = .eof
  ended : token.lexeme = .eof → (∃ expected, fault = .unexpectedEnd token.line expected) ∨
    (∃ line name, fault = .unterminatedBlock line name) ∨
    ∃ name, fault = .missingParamName token.line name

theorem offends_of_stuck {before after : List Token} {token : Token} {stuck : Reader}
    {fault : SpecError} (fed : Reader.feed {} before = .ok stuck)
    (proper : ∀ token ∈ before, token.lexeme ≠ .eof) (failed : stuck.step token = .error fault) :
    Offends (before ++ token :: after) fault before.length token := by
  have faults := Reader.faults_of_step failed
  have beginning : (before ++ token :: after).take before.length = before := List.take_left
  refine ⟨?_, ?_, ?_, faults.line?_eq, ?_, ?_, faults.of_eof⟩
  · simp
  · rw [beginning]
    exact exists_continuation fed proper
  · intro other agrees
    have start : other.take (before.length + 1) = before ++ [token] := by
      rw [agrees, List.append_cons]
      exact List.take_left' (by simp)
    rw [← List.take_append_drop (before.length + 1) other, start, List.append_assoc]
    exact Reading.calls_eq_error.mpr (Reader.fault_run_append fed proper failed)
  · rintro line name rfl
    rw [beginning]
    exact ⟨faults.inBlock.1, endsInBlock_of_feed fed proper faults.inBlock.2⟩
  · rintro line expected rfl
    exact faults.eof_of_unexpectedEnd

def unnamedParam : List Token :=
  [⟨.ident "A", 1⟩, ⟨.openBrace, 1⟩, ⟨.ident "param", 1⟩, ⟨.ident "float", 1⟩]

/--
Every list that fails has an offending token.  If that is the end token, the fault is an
unexpected end, an unterminated block, or a missing parameter name, and the last of these
is also caused by other tokens.
-/
theorem fault_at_first_impossible_token :
    (∀ tokens fault, Terminated tokens → (Reading.ofTokens tokens).calls = .error fault →
        ∃ index token, Offends tokens fault index token) ∧
      (∃ tokens line name index token, Terminated tokens ∧ token.lexeme = .eof ∧
        Offends tokens (.missingParamName line name) index token) ∧
      ∃ tokens line name index token, Terminated tokens ∧ token.lexeme ≠ .eof ∧
        Offends tokens (.missingParamName line name) index token := by
  have fed : Reader.feed {} unnamedParam =
      .ok ⟨[], .inside { name := "A", line := 1 } (.afterType .param { base := .float 32 })⟩ := rfl
  have proper : ∀ token ∈ unnamedParam, token.lexeme ≠ .eof := by decide
  refine ⟨fun tokens fault ended failed => ?_, ?_, ?_⟩
  · obtain ⟨before, token, after, stuck, rfl, proper, fed, stopped⟩ :=
      Reading.exists_stuck ended failed
    exact ⟨before.length, token, offends_of_stuck fed proper stopped⟩
  · exact ⟨unnamedParam ++ [⟨.eof, 1⟩], 1, "A", _, ⟨.eof, 1⟩, ⟨unnamedParam, 1, rfl, proper⟩, rfl,
      offends_of_stuck fed proper rfl⟩
  · exact ⟨unnamedParam ++ [⟨.newline, 1⟩, ⟨.eof, 2⟩], 1, "A", _, ⟨.newline, 1⟩,
      ⟨unnamedParam ++ [⟨.newline, 1⟩], 2, rfl, by decide⟩, by decide,
      offends_of_stuck fed proper rfl⟩

def unclosedTokens : List Token :=
  [ ⟨.ident "A", 1⟩, ⟨.openBrace, 1⟩, ⟨.closeBrace, 1⟩, ⟨.newline, 1⟩, ⟨.ident "B", 2⟩,
    ⟨.newline, 2⟩, ⟨.openBrace, 3⟩, ⟨.ident "sync", 3⟩, ⟨.newline, 3⟩, ⟨.eof, 4⟩ ]

theorem fault_at_first_impossible_token_unclosed :
    Terminated unclosedTokens ∧
      (Reading.ofTokens unclosedTokens).calls = .error (.unterminatedBlock 2 "B") ∧
      ∃ index token, Offends unclosedTokens (.unterminatedBlock 2 "B") index token := by
  have ended : Terminated unclosedTokens := ⟨unclosedTokens.dropLast, 4, rfl, by decide⟩
  have failed : (Reading.ofTokens unclosedTokens).calls = .error (.unterminatedBlock 2 "B") := rfl
  exact ⟨ended, failed, fault_at_first_impossible_token.1 unclosedTokens _ ended failed⟩

end CommandProtocol.Spec
