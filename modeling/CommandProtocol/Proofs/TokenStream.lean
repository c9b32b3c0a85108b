import CommandProtocol.Spec
import CommandProtocol.Proofs.TableNames

/-!
# Token lists and their end

A token list that comes from a text ends in its only end token.  The reader takes one
step for each token of such a list, so it reads what follows a beginning from the place
that the beginning has led to, and the first step that fails decides the fault.
-/

namespace CommandProtocol

def SpecError.line? : SpecError → Option Nat
  | .unexpectedChar line _ | .unexpectedToken line _ _ | .unexpectedEnd line _
  | .unknownKeyword line _ _ | .missingParamName line _ | .namedReturn line _
  | .unterminatedBlock line _ => some line
  | .duplicateCall _ => none

namespace Spec

theorem exists_of_bind_eq_ok {α β : Type} {outcome : Except SpecError α}
    {next : α → Except SpecError β} {result : β} (done : outcome.bind next = .ok result) :
    ∃ value, outcome = .ok value ∧ next value = .ok result := by
  cases outcome with
  | error fault => contradiction
  | ok value => exact ⟨value, rfl, done⟩

/-- The list ends in its only end token. -/
def Terminated (tokens : List Token) : Prop :=
  ∃ body line, tokens = body ++ [⟨.eof, line⟩] ∧ ∀ token ∈ body, token.lexeme ≠ .eof

/-! ## The tokens and the line of a scanner -/

/-- The tokens of `next` continue those of `scanner`, some line ends later. -/
structure Scanner.Continues (scanner next : Scanner) (breaks : Nat) : Prop where
  tokens : ∃ added, next.reversed = added ++ scanner.reversed ∧
    ∀ token ∈ added, token.lexeme ≠ .eof
  line : next.line = scanner.line + breaks

namespace Scanner.Continues

variable {scanner middle next : Scanner} {char : Char}

theorem of_same_tokens (tokens : next.reversed = scanner.reversed)
    (line : next.line = scanner.line) : Continues scanner next 0 :=
  ⟨⟨[], tokens, by simp⟩, line⟩

theorem trans {early late : Nat} (first : Continues scanner middle early)
    (second : Continues middle next late) : Continues scanner next (early + late) := by
  obtain ⟨older, before, proper⟩ := first.tokens
  obtain ⟨newer, after, fresh⟩ := second.tokens
  refine ⟨⟨newer ++ older, by rw [after, before, List.append_assoc], ?_⟩, ?_⟩
  · intro token member
    rcases List.mem_append.mp member with member | member
    · exact fresh token member
    · exact proper token member
  · rw [second.line, first.line, Nat.add_assoc]

theorem emit {lexeme : Lexeme} (proper : lexeme ≠ .eof) :
    Continues scanner (scanner.emit lexeme) 0 :=
  ⟨⟨[⟨lexeme, scanner.line⟩], rfl, by simpa using proper⟩, rfl⟩

theorem endLine : Continues scanner scanner.endLine 1 := by
  rw [Scanner.endLine]
  split
  · exact ⟨⟨[], rfl, by simp⟩, rfl⟩
  · exact ⟨⟨[⟨.newline, scanner.line⟩], rfl, by simp⟩, rfl⟩

theorem endWord : Continues scanner scanner.endWord 0 := by
  rw [Scanner.endWord]
  split
  · exact emit (by simp)
  · exact of_same_tokens rfl rfl

theorem start (started : scanner.start char = .ok next) :
    Continues scanner next ([char].count '\n') := by
  by_cases newline : char = '\n'
  · subst newline
    cases started
    exact endLine
  · rw [List.count_singleton, if_neg (by simpa using newline)]
    simp only [Scanner.start] at started
    repeat' split at started
    all_goals cases started
    · exact of_same_tokens rfl rfl
    · exact of_same_tokens rfl rfl
    · exact of_same_tokens rfl rfl
    · exact emit (by simp)
    · exact emit (by simp)
    · exact emit (by simp)
    · exact of_same_tokens rfl rfl

theorem step (stepped : scanner.step char = .ok next) :
    Continues scanner next ([char].count '\n') := by
  simp only [Scanner.step] at stepped
  split at stepped
  · exact start stepped
  · split at stepped
    · next continued =>
        have inside : char ≠ '\n' := by
          rintro rfl
          contradiction
        cases stepped
        rw [List.count_singleton, if_neg (by simpa using inside)]
        exact of_same_tokens rfl rfl
    · simpa using endWord.trans (start stepped)
  · split at stepped
    · next slash =>
        cases stepped
        subst slash
        exact of_same_tokens rfl rfl
    · contradiction
  · split at stepped
    · next newline =>
        cases stepped
        subst newline
        exact endLine
    · next inside =>
        cases stepped
        rw [List.count_singleton, if_neg (by simpa using inside)]
        exact of_same_tokens rfl rfl

theorem steps {chars : List Char} (scanned : chars.foldlM Scanner.step scanner = .ok next) :
    Continues scanner next (chars.count '\n') := by
  induction chars generalizing scanner with
  | nil =>
      cases scanned
      exact of_same_tokens rfl rfl
  | cons char rest ih =>
      rw [List.foldlM_cons] at scanned
      obtain ⟨following, stepped, later⟩ := exists_of_bind_eq_ok scanned
      rw [← List.singleton_append, List.count_append]
      exact (step stepped).trans (ih later)

end Scanner.Continues

theorem Scanner.steps_append {scanner next : Scanner} {first : List Char}
    (ran : first.foldlM step scanner = .ok next) (second : List Char) :
    (first ++ second).foldlM step scanner = second.foldlM step next := by
  rw [List.foldlM_append, ran]
  rfl

theorem Scanner.steps_cons {scanner next : Scanner} {char : Char}
    (stepped : scanner.step char = .ok next) (rest : List Char) :
    (char :: rest).foldlM step scanner = rest.foldlM step next := by
  rw [List.foldlM_cons, stepped]
  rfl

theorem Scanner.finish_ok {scanner : Scanner} {tokens : List Token}
    (finished : scanner.finish = .ok tokens) :
    scanner.mode ≠ .slash ∧
      tokens = scanner.endWord.reversed.reverse ++ [⟨.eof, scanner.endWord.line⟩] := by
  rw [finish] at finished
  split at finished
  · contradiction
  · next proper =>
      cases finished
      exact ⟨proper, by simp [emit]⟩

theorem scan_ok {text : String} {tokens : List Token} (scanned : scan text = .ok tokens) :
    ∃ scanner : Scanner, text.toList.foldlM Scanner.step {} = .ok scanner ∧
      scanner.finish = .ok tokens :=
  exists_of_bind_eq_ok scanned

theorem scan_terminated {text : String} {tokens : List Token}
    (scanned : scan text = .ok tokens) : Terminated tokens := by
  obtain ⟨scanner, ran, finished⟩ := scan_ok scanned
  obtain ⟨-, rfl⟩ := Scanner.finish_ok finished
  obtain ⟨added, all, proper⟩ :=
    ((Scanner.Continues.steps ran).trans Scanner.Continues.endWord).tokens
  refine ⟨_, _, rfl, fun token member => ?_⟩
  rw [all] at member
  exact proper token (by simpa using member)

/-! ## Reading a beginning -/

namespace Reader

def feed (reader : Reader) (tokens : List Token) : Except SpecError Reader :=
  tokens.foldlM step reader

variable {reader middle final : Reader} {before after : List Token}

@[simp] theorem feed_cons {token : Token} :
    reader.feed (token :: after) = (reader.step token).bind fun next => next.feed after := rfl

@[simp] theorem feed_append : reader.feed (before ++ after) =
    (reader.feed before).bind fun next => next.feed after := by
  rw [feed, List.foldlM_append]
  rfl

theorem feed_append_of_ok (fed : reader.feed before = .ok middle) :
    reader.feed (before ++ after) = middle.feed after := by
  rw [feed_append, fed]
  rfl

theorem step_eof {line : Nat} (complete : reader.place = .outside) :
    reader.step ⟨.eof, line⟩ = .ok reader := by
  simp [step, complete]

private theorem place_of_step_eof {line : Nat} (read : reader.step ⟨.eof, line⟩ = .ok final) :
    reader.place = .outside := by
  cases here : reader.place with
  | outside => rfl
  | named name line => simp [step, here] at read
  | inside block spot =>
      cases spot with
      | afterType use type =>
          cases use <;> simp [step, here, readInside, readAfterType, readLineEnd] at read
      | _ => simp [step, here, readInside, readLineEnd] at read

theorem run_append (fed : reader.feed before = .ok middle)
    (proper : ∀ token ∈ before, token.lexeme ≠ .eof) :
    reader.run (before ++ after) = middle.run after := by
  induction before generalizing reader with
  | nil =>
      cases fed
      rfl
  | cons token rest ih =>
      rw [List.forall_mem_cons] at proper
      rw [feed_cons] at fed
      obtain ⟨next, read, later⟩ := exists_of_bind_eq_ok fed
      rw [List.cons_append, run, read]
      simp only [if_neg proper.1]
      exact ih later proper.2

theorem fault_run_append {stuck : Reader} {token : Token} {fault : SpecError}
    (fed : reader.feed before = .ok stuck) (proper : ∀ token ∈ before, token.lexeme ≠ .eof)
    (failed : stuck.step token = .error fault) :
    (reader.run (before ++ token :: after)).fault = some fault := by
  rw [run_append fed proper, run, failed]
  rfl

private theorem feed_error {tokens : List Token} {fault : SpecError}
    (failed : reader.feed tokens = .error fault) :
    ∃ before token after stuck, tokens = before ++ token :: after ∧
      reader.feed before = .ok stuck ∧ stuck.step token = .error fault := by
  induction tokens generalizing reader with
  | nil => contradiction
  | cons token rest ih =>
      rw [feed_cons] at failed
      cases read : reader.step token with
      | error first =>
          rw [read] at failed
          cases failed
          exact ⟨[], token, rest, reader, rfl, rfl, read⟩
      | ok next =>
          rw [read] at failed
          obtain ⟨before, last, after, stuck, rfl, fed, stopped⟩ := ih failed
          refine ⟨token :: before, last, after, stuck, rfl, ?_, stopped⟩
          rw [feed_cons, read]
          exact fed

theorem feed_eof {body : List Token} {line : Nat} :
    reader.feed (body ++ [⟨.eof, line⟩]) = .ok final ↔
      reader.feed body = .ok final ∧ final.place = .outside := by
  constructor
  · intro fed
    rw [feed_append] at fed
    obtain ⟨middle, started, last⟩ := exists_of_bind_eq_ok fed
    rw [feed_cons] at last
    obtain ⟨next, read, ended⟩ := exists_of_bind_eq_ok last
    have complete := place_of_step_eof read
    rw [step_eof complete] at read
    cases read
    cases ended
    exact ⟨started, complete⟩
  · rintro ⟨fed, complete⟩
    rw [feed_append_of_ok fed, feed_cons, step_eof complete]
    rfl

end Reader

/-! ## Acceptance and failure -/

theorem Reading.calls_eq_error {reading : Reading} {fault : SpecError} :
    reading.calls = .error fault ↔ reading.fault = some fault := by
  rw [Reading.calls]
  split
  · next found => simp [found]
  · next found => simp [found]

/-- On a list that ends properly the reader takes every step, or stops at a fault. -/
theorem Reader.calls_run {tokens : List Token} (ended : Terminated tokens) (reader : Reader) :
    (reader.run tokens).calls =
      (reader.feed tokens).map fun final => final.blocks.map Block.call := by
  obtain ⟨body, line, rfl, proper⟩ := ended
  induction body generalizing reader with
  | nil =>
      rw [List.nil_append, run, feed_cons]
      cases read : reader.step ⟨.eof, line⟩ <;> rfl
  | cons token rest ih =>
      rw [List.forall_mem_cons] at proper
      rw [List.cons_append, run, feed_cons]
      cases read : reader.step token with
      | error fault => rfl
      | ok next =>
          simp only [if_neg proper.1]
          exact ih next proper.2

theorem Reading.calls_ofTokens {tokens : List Token} (ended : Terminated tokens) :
    (ofTokens tokens).calls =
      (Reader.feed {} tokens).map fun final => final.blocks.map Block.call :=
  Reader.calls_run ended {}

theorem Reading.calls_ofTokens_eq_ok {body : List Token} {line : Nat} {calls : List Call}
    (proper : ∀ token ∈ body, token.lexeme ≠ .eof) :
    (ofTokens (body ++ [⟨.eof, line⟩])).calls = .ok calls ↔
      ∃ final, Reader.feed {} body = .ok final ∧ final.place = .outside ∧
        calls = final.blocks.map Block.call := by
  rw [calls_ofTokens ⟨body, line, rfl, proper⟩]
  constructor
  · intro returned
    cases fed : Reader.feed {} (body ++ [⟨.eof, line⟩]) with
    | error fault =>
        rw [fed] at returned
        contradiction
    | ok final =>
        rw [fed] at returned
        cases returned
        obtain ⟨fed, complete⟩ := Reader.feed_eof.mp fed
        exact ⟨final, fed, complete, rfl⟩
  · rintro ⟨final, fed, complete, rfl⟩
    rw [Reader.feed_eof.mpr ⟨fed, complete⟩]
    rfl

/-- A failing list has a first token at which the reader cannot go on. -/
theorem Reading.exists_stuck {tokens : List Token} {fault : SpecError}
    (ended : Terminated tokens) (failed : (ofTokens tokens).calls = .error fault) :
    ∃ before token after stuck, tokens = before ++ token :: after ∧
      (∀ token ∈ before, token.lexeme ≠ .eof) ∧ Reader.feed {} before = .ok stuck ∧
      stuck.step token = .error fault := by
  rw [calls_ofTokens ended] at failed
  cases fed : Reader.feed {} tokens with
  | ok final =>
      rw [fed] at failed
      contradiction
  | error first =>
      rw [fed] at failed
      cases failed
      obtain ⟨before, token, after, stuck, parts, earlier, stopped⟩ := Reader.feed_error fed
      refine ⟨before, token, after, stuck, parts, ?_, earlier, stopped⟩
      obtain ⟨body, line, rfl, proper⟩ := ended
      have shortened := congrArg List.dropLast parts
      rw [List.dropLast_concat, List.dropLast_append_of_ne_nil (by simp)] at shortened
      intro other member
      exact proper other (shortened ▸ List.mem_append_left _ member)

def readCalls (text : String) : Except SpecError (List Call) :=
  (scan text).bind fun tokens => (Reading.ofTokens tokens).calls

theorem parse_eq (text : String) : parse text = (readCalls text).bind CallTable.ofCalls := by
  rw [parse, readCalls]
  cases scan text <;> rfl

theorem readCalls_of_parse {text : String} {table : CallTable}
    (parsed : parse text = .ok table) : readCalls text = .ok table.calls := by
  rw [parse_eq] at parsed
  obtain ⟨calls, read, built⟩ := exists_of_bind_eq_ok parsed
  rw [read, CallTable.calls_of_ofCalls built]

theorem scan_of_readCalls {text : String} {calls : List Call} (read : readCalls text = .ok calls) :
    ∃ tokens, scan text = .ok tokens ∧ (Reading.ofTokens tokens).calls = .ok calls :=
  exists_of_bind_eq_ok read

end Spec

end CommandProtocol
