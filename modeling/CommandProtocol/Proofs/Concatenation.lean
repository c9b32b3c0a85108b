import CommandProtocol.Proofs.Relocation

/-!
# Specs one after the other

A spec followed by a line end and a second spec is read as the calls of the first and then
those of the second, whatever the first ends in.  A fault of the second is reported at its
line there, counted on from the lines of the first.
-/

namespace CommandProtocol

namespace Spec

/-! ## Scanning below a text -/

namespace Scanner

/-- The scanner of a text below some lines, whose tokens are given newest first. -/
def below (scanner : Scanner) (earlier : List Token) (offset : Nat) : Scanner where
  reversed := scanner.reversed.map (Token.relocate (· + offset)) ++ earlier
  line := scanner.line + offset
  mode := scanner.mode

variable {earlier : List Token} {offset : Nat}

def LineStart (earlier : List Token) : Prop :=
  ∀ token ∈ earlier.head?, token.lexeme = .newline

variable (scanner : Scanner)

@[simp] theorem emit_below (lexeme : Lexeme) :
    (scanner.below earlier offset).emit lexeme = (scanner.emit lexeme).below earlier offset :=
  rfl

@[simp] theorem lineIsEmpty_below (start : LineStart earlier) :
    (scanner.below earlier offset).lineIsEmpty = scanner.lineIsEmpty := by
  obtain ⟨reversed, line, mode⟩ := scanner
  cases reversed with
  | cons token rest => rfl
  | nil =>
      -- the only place where the scanner looks at the tokens before its own
      cases earlier with
      | nil => rfl
      | cons last others => simpa [lineIsEmpty, below] using start last rfl

@[simp] theorem endLine_below (start : LineStart earlier) :
    (scanner.below earlier offset).endLine = scanner.endLine.below earlier offset := by
  simp only [endLine, lineIsEmpty_below scanner start]
  split <;> simp [below, emit, Nat.add_right_comm, Token.relocate]

@[simp] theorem endWord_below :
    (scanner.below earlier offset).endWord = scanner.endWord.below earlier offset := by
  obtain ⟨reversed, line, mode⟩ := scanner
  cases mode <;> rfl

theorem start_below (start : LineStart earlier) (char : Char) :
    (scanner.below earlier offset).start char =
      relocated (· + offset) (·.below earlier offset) (scanner.start char) := by
  simp only [Scanner.start, endLine_below scanner start, apply_ite (relocated (· + offset) _)]
  rfl

private theorem step_below (start : LineStart earlier) (char : Char) :
    (scanner.below earlier offset).step char =
      relocated (· + offset) (·.below earlier offset) (scanner.step char) := by
  have mode_below : (scanner.below earlier offset).mode = scanner.mode := rfl
  simp only [step, mode_below]
  split
  · exact start_below scanner start char
  · rw [apply_ite (relocated (· + offset) _), endWord_below, start_below _ start]
    rfl
  · rw [apply_ite (relocated (· + offset) _)]
    rfl
  · rw [apply_ite (relocated (· + offset) _), endLine_below scanner start]
    rfl

private theorem steps_below (start : LineStart earlier) (chars : List Char) :
    chars.foldlM step (scanner.below earlier offset) =
      relocated (· + offset) (·.below earlier offset) (chars.foldlM step scanner) := by
  induction chars generalizing scanner with
  | nil => rfl
  | cons char rest ih =>
      rw [List.foldlM_cons, List.foldlM_cons, step_below scanner start]
      exact relocated_bind _ fun next => ih next

private theorem finish_below :
    (scanner.below earlier offset).finish =
      relocated (· + offset)
        (fun tokens => earlier.reverse ++ tokens.map (Token.relocate (· + offset)))
        scanner.finish := by
  have mode_below : (scanner.below earlier offset).mode = scanner.mode := rfl
  simp only [finish, mode_below]
  split
  · rfl
  · rw [endWord_below, emit_below]
    simp [relocated, below]

private theorem endLine_eq_below :
    scanner.endLine = below {} scanner.endLine.reversed scanner.line := by
  rw [endLine]
  split <;> simp [below, emit, Nat.add_comm]

private theorem lineStart_endLine : LineStart scanner.endLine.reversed := by
  rw [endLine]
  split
  · next empty =>
      obtain ⟨reversed, line, mode⟩ := scanner
      intro token first
      cases reversed with
      | nil => contradiction
      | cons last others =>
          cases first
          simpa [lineIsEmpty] using empty
  · intro token first
    cases first
    rfl

private theorem endLine_reversed :
    scanner.endLine.reversed = scanner.reversed ∨
      ∃ line, scanner.endLine.reversed = ⟨.newline, line⟩ :: scanner.reversed := by
  rw [endLine]
  split
  · exact .inl rfl
  · exact .inr ⟨scanner.line, rfl⟩

private theorem step_newline (proper : scanner.mode ≠ .slash) :
    scanner.step '\n' = .ok scanner.endWord.endLine := by
  obtain ⟨reversed, line, mode⟩ := scanner
  cases mode with
  | between => rfl
  | word letters => rfl
  | slash => contradiction
  | comment => rfl

end Scanner

private theorem scan_append_newline {first : String} {body : List Token} {line : Nat}
    (scanned : scan first = .ok (body ++ [⟨.eof, line⟩])) (second : String) :
    ∃ earlier, (earlier = body ∨ ∃ line, earlier = body ++ [⟨.newline, line⟩]) ∧
      scan (first ++ "\n" ++ second) =
        relocated (· + (1 + first.toList.count '\n'))
          (fun later => earlier ++ later.map (Token.relocate (· + (1 + first.toList.count '\n'))))
          (scan second) := by
  obtain ⟨scanner, ran, finished⟩ := scan_ok scanned
  obtain ⟨proper, tokens⟩ := Scanner.finish_ok finished
  obtain ⟨rfl, -⟩ := List.append_inj' tokens rfl
  have lines : scanner.endWord.line = 1 + first.toList.count '\n' :=
    ((Scanner.Continues.steps ran).trans Scanner.Continues.endWord).line
  refine ⟨scanner.endWord.endLine.reversed.reverse, ?_, ?_⟩
  · rcases scanner.endWord.endLine_reversed with same | ⟨line, added⟩
    · exact .inl (by rw [same])
    · exact .inr ⟨line, by rw [added, List.reverse_cons]⟩
  · have start := Scanner.lineStart_endLine scanner.endWord
    have scanned_joined : scan (first ++ "\n" ++ second) =
        (second.toList.foldlM Scanner.step scanner.endWord.endLine).bind Scanner.finish := by
      rw [scan, scanChars, String.toList_append, String.toList_append, List.append_assoc,
        Scanner.steps_append ran]
      exact congrArg (Except.bind · Scanner.finish)
        (Scanner.steps_cons (Scanner.step_newline scanner proper) second.toList)
    rw [scanned_joined, Scanner.endLine_eq_below, Scanner.steps_below _ start, lines]
    exact relocated_bind _ fun last => Scanner.finish_below last

/-! ## Reading below a text -/

theorem readCalls_append_newline {first second : String} {calls : List Call}
    (read : readCalls first = .ok calls) :
    readCalls (first ++ "\n" ++ second) =
      relocated (· + (1 + first.toList.count '\n')) (calls ++ ·) (readCalls second) := by
  obtain ⟨tokens, scanned, returned⟩ := scan_of_readCalls read
  obtain ⟨body, line, rfl, proper⟩ := scan_terminated scanned
  obtain ⟨final, fed, complete, rfl⟩ := (Reading.calls_ofTokens_eq_ok proper).mp returned
  obtain ⟨earlier, shape, joined⟩ := scan_append_newline scanned second
  have earlier_proper : ∀ token ∈ earlier, token.lexeme ≠ .eof := by
    rcases shape with rfl | ⟨line, rfl⟩
    · exact proper
    · exact List.forall_mem_append.mpr ⟨proper, by simp⟩
  have earlier_fed : Reader.feed {} earlier = .ok final := by
    rcases shape with rfl | ⟨line, rfl⟩
    · exact fed
    · rw [Reader.feed_append_of_ok fed, Reader.feed_cons, Reader.step, complete]
      rfl
  rw [readCalls, joined, readCalls]
  cases scanned_second : scan second with
  | error fault => rfl
  | ok later =>
      exact Reading.calls_relocate earlier_fed complete earlier_proper
        (scan_terminated scanned_second) _

/-! ## Parsing both texts -/

section Parsing

variable {first second : String} {table other : CallTable}

private theorem parse_append_newline_of_ok (parsed : parse first = .ok table)
    (parsed_second : parse second = .ok other) :
    parse (first ++ "\n" ++ second) = CallTable.ofCalls (table.calls ++ other.calls) := by
  rw [parse_eq, readCalls_append_newline (readCalls_of_parse parsed),
    readCalls_of_parse parsed_second]
  rfl

private theorem parse_append_newline_of_error (parsed : parse first = .ok table) {fault : SpecError}
    {line : Nat} (failed : parse second = .error fault) (reported : fault.line? = some line) :
    parse (first ++ "\n" ++ second) =
      .error (fault.withLine (line + 1 + first.toList.count '\n')) := by
  have unread : readCalls second = .error fault := by
    rw [parse_eq] at failed
    cases read : readCalls second with
    | error earlier =>
        rw [read] at failed
        cases failed
        rfl
    | ok calls =>
        rw [read] at failed
        obtain ⟨name, rfl⟩ := CallTable.duplicateCall_of_ofCalls failed
        contradiction
  rw [parse_eq, readCalls_append_newline (readCalls_of_parse parsed), unread, Nat.add_assoc,
    ← SpecError.mapLine_eq_withLine reported (· + (1 + first.toList.count '\n'))]
  rfl

/--
A second spec below a first one adds its calls if no name is common, and else the first
common name is repeated.  A fault of the second keeps its line, counted from the first.
-/
theorem parse_append_newline (parsed : parse first = .ok table) (second : String) :
    (∀ other, parse second = .ok other →
        ((∃ joined, parse (first ++ "\n" ++ second) = .ok joined) ↔
            ∀ name ∈ other.calls.map Call.name, name ∉ table.calls.map Call.name) ∧
          (∀ joined, parse (first ++ "\n" ++ second) = .ok joined →
            joined.calls = table.calls ++ other.calls) ∧
          ∀ name, (other.calls.map Call.name).find? (· ∈ table.calls.map Call.name) = some name →
            parse (first ++ "\n" ++ second) = .error (.duplicateCall name)) ∧
      ∀ fault line, parse second = .error fault → fault.line? = some line →
        parse (first ++ "\n" ++ second) =
          .error (fault.withLine (line + 1 + first.toList.count '\n')) := by
  refine ⟨fun other parsed_second => ?_, fun fault line failed reported =>
    parse_append_newline_of_error parsed failed reported⟩
  rw [parse_append_newline_of_ok parsed parsed_second]
  have outcome := CallTable.ofCalls_append table other
  refine ⟨?_, fun joined built => CallTable.calls_of_ofCalls built, fun name common => ?_⟩
  · cases common : (other.calls.map Call.name).find? (· ∈ table.calls.map Call.name) with
    | none =>
        rw [common] at outcome
        have apart := List.find?_eq_none.mp common
        exact ⟨fun _ name member => by simpa using apart name member, fun _ => outcome⟩
    | some name =>
        rw [common] at outcome
        constructor
        · rintro ⟨joined, built⟩
          rw [outcome] at built
          contradiction
        · intro apart
          have both := List.find?_some common
          exact absurd (by simpa using both) (apart name (List.mem_of_find?_eq_some common))
  · rwa [common] at outcome

end Parsing

/-- The first text ends inside a comment, and the block of the second is left open. -/
theorem parse_append_newline_comment :
    parse "A \x7b\n\x7d\n# end" = .ok ⟨[{ name := "A" }], by simp⟩ ∧
      parse "\n\nB \x7b sync" = .error (.unterminatedBlock 3 "B") ∧
      parse ("A \x7b\n\x7d\n# end" ++ "\n" ++ "\n\nB \x7b sync") =
        .error (.unterminatedBlock 6 "B") := by
  have parsed : parse "A \x7b\n\x7d\n# end" = .ok ⟨[{ name := "A" }], by simp⟩ := rfl
  have failed : parse "\n\nB \x7b sync" = .error (.unterminatedBlock 3 "B") := rfl
  exact ⟨parsed, failed, (parse_append_newline parsed _).2 _ 3 failed rfl⟩

end Spec

end CommandProtocol
