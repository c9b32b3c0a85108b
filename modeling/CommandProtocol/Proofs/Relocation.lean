import CommandProtocol.Proofs.TokenStream

/-!
# Lines under other numbers

The reader copies the line of a token into the faults that it reports there and does nothing
else with it.  So if the lines of a text get other numbers, the same blocks are read, and a
fault is reported at the new number of its line.
-/

namespace CommandProtocol

namespace SpecError

def mapLine (move : Nat → Nat) : SpecError → SpecError
  | .unexpectedChar line char => .unexpectedChar (move line) char
  | .unexpectedToken line found expected => .unexpectedToken (move line) found expected
  | .unexpectedEnd line expected => .unexpectedEnd (move line) expected
  | .unknownKeyword line call keyword => .unknownKeyword (move line) call keyword
  | .missingParamName line call => .missingParamName (move line) call
  | .namedReturn line call => .namedReturn (move line) call
  | .unterminatedBlock line call => .unterminatedBlock (move line) call
  | .duplicateCall name => .duplicateCall name

def withLine (line : Nat) (fault : SpecError) : SpecError := fault.mapLine fun _ => line

theorem mapLine_eq_withLine {fault : SpecError} {line : Nat} (reported : fault.line? = some line)
    (move : Nat → Nat) : fault.mapLine move = fault.withLine (move line) := by
  cases fault <;> cases reported <;> rfl

end SpecError

namespace Spec

def relocated {α β : Type} (lines : Nat → Nat) (move : α → β) :
    Except SpecError α → Except SpecError β
  | .ok value => .ok (move value)
  | .error fault => .error (fault.mapLine lines)

theorem relocated_bind {α β γ δ : Type} {lines : Nat → Nat} {move : α → β} {last : γ → δ}
    (outcome : Except SpecError α) {next : α → Except SpecError γ}
    {there : β → Except SpecError δ}
    (same : ∀ value, there (move value) = relocated lines last (next value)) :
    (relocated lines move outcome).bind there = relocated lines last (outcome.bind next) := by
  cases outcome with
  | ok value => exact same value
  | error fault => rfl

def Token.relocate (lines : Nat → Nat) (token : Token) : Token :=
  { token with line := lines token.line }

def OpenBlock.relocate (lines : Nat → Nat) (block : OpenBlock) : OpenBlock :=
  { block with line := lines block.line }

def Place.relocate (lines : Nat → Nat) : Place → Place
  | .outside => .outside
  | .named name line => .named name (lines line)
  | .inside block spot => .inside (block.relocate lines) spot

namespace Reader

/-- The reader after the given blocks, newest first, where the lines have other numbers. -/
def relocate (reader : Reader) (earlier : List Block) (lines : Nat → Nat) : Reader where
  closed := reader.closed ++ earlier
  place := reader.place.relocate lines

variable (reader : Reader) (block : OpenBlock) {earlier : List Block} {lines : Nat → Nat}

private theorem readKeyword_relocate (line : Nat) (keyword : String) :
    (reader.relocate earlier lines).readKeyword (block.relocate lines) (lines line) keyword =
      relocated lines (·.relocate earlier lines) (reader.readKeyword block line keyword) := by
  simp only [readKeyword, apply_ite (relocated lines _)]
  cases Flag.ofKeyword? keyword <;> rfl

private theorem readLineEnd_relocate (token : Token) :
    (reader.relocate earlier lines).readLineEnd (block.relocate lines) (token.relocate lines) =
      relocated lines (·.relocate earlier lines) (reader.readLineEnd block token) := by
  obtain ⟨lexeme, line⟩ := token
  cases lexeme <;> rfl

private theorem readAfterType_relocate (use : TypeUse) (type : Variable) (token : Token) :
    (reader.relocate earlier lines).readAfterType (block.relocate lines) use type
        (token.relocate lines) =
      relocated lines (·.relocate earlier lines) (reader.readAfterType block use type token) := by
  obtain ⟨lexeme, line⟩ := token
  cases lexeme with
  | star =>
      simp only [readAfterType, apply_ite (relocated lines _)]
      rfl
  | ident name => cases use <;> rfl
  | openBrace => cases use <;> rfl
  | closeBrace => cases use <;> rfl
  | newline => cases use <;> rfl
  | eof => cases use <;> rfl

private theorem readInside_relocate (token : Token) (spot : Spot) :
    (reader.relocate earlier lines).readInside (block.relocate lines) (token.relocate lines) spot =
      relocated lines (·.relocate earlier lines) (reader.readInside block token spot) := by
  cases spot with
  | lineEnd => exact readLineEnd_relocate reader block token
  | afterType use type => exact readAfterType_relocate reader block use type token
  | statement =>
      obtain ⟨lexeme, line⟩ := token
      cases lexeme with
      | ident keyword => exact readKeyword_relocate reader block line keyword
      | _ => rfl
  | typeStart use =>
      obtain ⟨lexeme, line⟩ := token
      cases lexeme with
      | ident word =>
          simp only [readInside, apply_ite (relocated lines _)]
          rfl
      | _ => rfl
  | typeName use =>
      obtain ⟨lexeme, line⟩ := token
      cases lexeme <;> rfl

private theorem step_relocate (token : Token) :
    (reader.relocate earlier lines).step (token.relocate lines) =
      relocated lines (·.relocate earlier lines) (reader.step token) := by
  obtain ⟨closed, place⟩ := reader
  cases place with
  | outside =>
      obtain ⟨lexeme, line⟩ := token
      cases lexeme <;> rfl
  | named name start =>
      obtain ⟨lexeme, line⟩ := token
      cases lexeme <;> rfl
  | inside block spot => exact readInside_relocate _ block token spot

private theorem feed_relocate (tokens : List Token) :
    (reader.relocate earlier lines).feed (tokens.map (Token.relocate lines)) =
      relocated lines (·.relocate earlier lines) (reader.feed tokens) := by
  induction tokens generalizing reader with
  | nil => rfl
  | cons token rest ih =>
      rw [List.map_cons, feed_cons, feed_cons, step_relocate]
      exact relocated_bind _ fun next => ih next

end Reader

theorem Terminated.relocate {later : List Token} (ended : Terminated later)
    {earlier : List Token} (proper : ∀ token ∈ earlier, token.lexeme ≠ .eof)
    (lines : Nat → Nat) : Terminated (earlier ++ later.map (Token.relocate lines)) := by
  obtain ⟨body, line, rfl, body_proper⟩ := ended
  refine ⟨earlier ++ body.map (Token.relocate lines), lines line, ?_, ?_⟩
  · simp [Token.relocate]
  · rw [List.forall_mem_append, List.forall_mem_map]
    exact ⟨proper, body_proper⟩

/-- The calls of tokens below some closed blocks, with other numbers for their lines. -/
theorem Reading.calls_relocate {earlier later : List Token} {final : Reader}
    (fed : Reader.feed {} earlier = .ok final) (complete : final.place = .outside)
    (proper : ∀ token ∈ earlier, token.lexeme ≠ .eof) (ended : Terminated later)
    (lines : Nat → Nat) :
    (ofTokens (earlier ++ later.map (Token.relocate lines))).calls =
      relocated lines (final.blocks.map Block.call ++ ·) (ofTokens later).calls := by
  obtain ⟨closed, place⟩ := final
  cases complete
  rw [calls_ofTokens (ended.relocate proper lines), calls_ofTokens ended,
    Reader.feed_append_of_ok fed]
  change (Reader.feed (Reader.relocate {} closed lines) _).map _ = _
  rw [Reader.feed_relocate]
  cases Reader.feed {} later with
  | error fault => rfl
  | ok last =>
      change Except.ok _ = Except.ok _
      simp [Reader.blocks, Reader.relocate]

end Spec

end CommandProtocol
