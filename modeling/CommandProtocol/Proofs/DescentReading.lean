import CommandProtocol.Proofs.Descent

/-!
# Descent and the reader

Reading by descent gives what the reader gives.  Each action is followed by the place that the
reader has after the same tokens: what the reader makes of the tokens from the cursor on does
not change while the action runs.
-/

namespace CommandProtocol.Spec

/-! ## What the reader makes of the rest -/

def Reader.answer (reader : Reader) (cursor : Cursor) : Except SpecError (List Call) :=
  (reader.run cursor.rest).calls

section Answers

variable {limit : Nat} {cursor : Cursor} {reader other : Reader}

theorem answer_eq (inside : cursor.Inside limit) :
    reader.answer cursor = (reader.step cursor.peek).bind fun following =>
      if cursor.peek.lexeme = .eof then
        .ok (following.blocks.map Block.call)
      else
        following.answer cursor.advance := by
  rw [Reader.answer, inside.rest_eq, Reader.run]
  cases reader.step cursor.peek with
  | error fault => rfl
  | ok following =>
      by_cases ended : cursor.peek.lexeme = .eof
      · simp [ended, Reading.calls, Except.bind]
      · simp [ended, Reader.answer, Except.bind]

theorem answer_step (inside : cursor.Inside limit) (proper : cursor.peek.lexeme ≠ .eof)
    (stepped : reader.step cursor.peek = .ok other) :
    reader.answer cursor = other.answer cursor.advance := by
  rw [answer_eq inside, stepped]
  exact if_neg proper

theorem answer_fault (inside : cursor.Inside limit) {fault : SpecError}
    (failed : reader.step cursor.peek = .error fault) : reader.answer cursor = .error fault := by
  rw [answer_eq inside, failed]
  rfl

theorem answer_congr (inside : cursor.Inside limit)
    (same : reader.step cursor.peek = other.step cursor.peek) :
    reader.answer cursor = other.answer cursor := by
  rw [answer_eq inside, answer_eq inside, same]

end Answers

/-- A value is as required, and a fault is the one of the answer. -/
def Agrees {α : Type} (answer : Except SpecError (List Call)) (post : α → Cursor → Prop) :
    Except SpecError α → Cursor → Prop
  | .ok value, after => post value after
  | .error fault, _ => answer = .error fault

namespace Action

variable {α β : Type} {limit : Nat} {cursor : Cursor} {answer : Except SpecError (List Call)}

theorem Ends.andThen {action : Action α} {following : α → Action β} {middle : α → Cursor → Prop}
    {post : β → Cursor → Prop} (first : action.Ends cursor (Agrees answer middle))
    (second : ∀ value after, cursor.Reaches after → middle value after →
      (following value).Ends after (Agrees answer post)) :
    (action >>= following).Ends cursor (Agrees answer post) :=
  first.bind second fun _ _ failed => failed

variable {reader : Reader} {block : OpenBlock} {use : TypeUse}

/-! ## Newlines and line ends -/

theorem skipNewlines_ends (inside : cursor.Inside limit)
    (idle : ∀ token : Token, token.lexeme = .newline → reader.step token = .ok reader) :
    (skipNewlines limit).Ends cursor fun outcome after =>
      outcome = .ok () ∧ after.peek.lexeme ≠ .newline ∧
        reader.answer after = reader.answer cursor := by
  refine whileSees_ends (fun _ after => reader.answer after = reader.answer cursor) ?_ ?_ inside
    inside.enough rfl
  · intro _ here inside same seen
    have proper : here.peek.lexeme ≠ .eof := by simp [seen]
    refine .advance proper ⟨Nat.lt_succ_self _, ?_⟩
    rw [← answer_step inside proper (idle _ seen), same]
  · exact fun _ here same other => ⟨rfl, other, same⟩

theorem takeBehindNewlines_ends (inside : cursor.Inside limit)
    (idle : ∀ token : Token, token.lexeme = .newline → reader.step token = .ok reader)
    {following : Token → Action α} {post : Except SpecError α → Cursor → Prop}
    (ended : ∀ here : Cursor, cursor.Reaches here → here.Inside limit →
      reader.answer here = reader.answer cursor → here.peek.lexeme = .eof →
      (following here.peek).Ends here post)
    (taken : ∀ here : Cursor, cursor.Reaches here → here.Inside limit →
      reader.answer here = reader.answer cursor → here.peek.lexeme ≠ .eof →
      here.peek.lexeme ≠ .newline → (following here.peek).Ends here.advance post) :
    (skipNewlines limit >>= fun _ => next >>= following).Ends cursor post := by
  refine (skipNewlines_ends inside idle).bind ?_ (by simp)
  rintro _ here reached ⟨-, other, same⟩
  have within := inside.reaches reached
  by_cases last : here.peek.lexeme = .eof
  · exact .next_eof last (ended here reached within same last)
  · exact .next last (taken here reached within same last other)

private theorem endStatement_ends (inside : cursor.Inside limit)
    (same : (reader.within block .lineEnd).answer cursor = answer) :
    endStatement.Ends cursor (Agrees answer fun _ after =>
      (reader.within block .statement).answer after = answer) := by
  refine .peek ?_
  subst same
  -- where a block can end, the token is left to the next round
  have left (ends : (reader.within block .lineEnd).step cursor.peek =
      (reader.within block .statement).step cursor.peek) :
      Ends (Pure.pure ()) cursor (Agrees ((reader.within block .lineEnd).answer cursor)
        fun _ after => (reader.within block .statement).answer after =
          (reader.within block .lineEnd).answer cursor) :=
    .pure (answer_congr inside ends.symm)
  cases seen : cursor.peek.lexeme with
  | newline =>
      have proper : cursor.peek.lexeme ≠ .eof := by simp [seen]
      refine .advance proper (answer_step inside proper ?_).symm
      simp [Reader.step, Reader.within, Reader.readInside, Reader.readLineEnd, seen]
  | closeBrace | eof =>
      exact left (by
        simp [Reader.step, Reader.within, Reader.readInside, Reader.readLineEnd, Reader.close,
          seen])
  | ident | openBrace | star =>
      refine .fail (answer_fault inside ?_)
      simp [Reader.step, Reader.within, Reader.readInside, Reader.readLineEnd, seen]

/-! ## Types -/

theorem addStar_ends {type : Variable} (inside : cursor.Inside limit)
    (seen : cursor.peek.lexeme = .star)
    (same : (reader.within block (.afterType use type)).answer cursor = answer) :
    (addStar type).Ends cursor fun outcome after => cursor.position < after.position ∧
      Agrees answer (fun longer after =>
        (reader.within block (.afterType use longer)).answer after = answer) outcome after := by
  have proper : cursor.peek.lexeme ≠ .eof := by simp [seen]
  refine .next proper ?_
  subst same
  split
  · next below =>
      refine .pure ⟨Nat.lt_succ_self _, (answer_step inside proper ?_).symm⟩
      simp [Reader.step, Reader.within, Reader.readInside, Reader.readAfterType, seen, below]
  · next above =>
      refine .fail ⟨Nat.lt_succ_self _, answer_fault inside ?_⟩
      simp [Reader.step, Reader.within, Reader.readInside, Reader.readAfterType, seen, above]

theorem stars_ends {type : Variable} (inside : cursor.Inside limit)
    (same : (reader.within block (.afterType use type)).answer cursor = answer) :
    (whileSees .star addStar limit type).Ends cursor (Agrees answer fun pointed after =>
      after.peek.lexeme ≠ .star ∧
        (reader.within block (.afterType use pointed)).answer after = answer) := by
  refine whileSees_ends
    (fun type after => (reader.within block (.afterType use type)).answer after = answer)
    ?_ ?_ inside inside.enough same
  · intro type here inside same seen
    refine (addStar_ends inside seen same).mono ?_
    rintro (fault | longer) after - holds
    · exact holds.2
    · exact holds
  · exact fun type here same other => ⟨other, same⟩

private theorem qualified_ends (inside : cursor.Inside limit)
    (same : (reader.within block (.typeName use)).answer cursor = answer) :
    (next >>= readTypeName limit true).Ends cursor (Agrees answer fun type after =>
      after.peek.lexeme ≠ .star ∧
        (reader.within block (.afterType use type)).answer after = answer) := by
  cases seen : cursor.peek.lexeme with
  | ident word =>
      have proper : cursor.peek.lexeme ≠ .eof := by simp [seen]
      refine .next proper ?_
      rw [readTypeName, seen]
      refine stars_ends (inside.advance proper) ?_
      rw [← same]
      refine (answer_step inside proper ?_).symm
      simp [Reader.step, Reader.within, Reader.readInside, seen]
  | openBrace | closeBrace | star | newline | eof =>
      refine .next_fail (by rw [readTypeName, seen]) fun _ => same ▸ answer_fault inside ?_
      simp [Reader.step, Reader.within, Reader.readInside, seen]

theorem readType_ends (inside : cursor.Inside limit)
    (same : (reader.within block (.typeStart use)).answer cursor = answer) :
    (readType limit).Ends cursor (Agrees answer fun type after =>
      after.peek.lexeme ≠ .star ∧
        (reader.within block (.afterType use type)).answer after = answer) := by
  cases seen : cursor.peek.lexeme with
  | ident word =>
      have proper : cursor.peek.lexeme ≠ .eof := by simp [seen]
      refine .next proper ?_
      by_cases qualifier : word = "const"
      · subst qualifier
        rw [if_pos seen]
        refine qualified_ends (inside.advance proper) ?_
        rw [← same]
        refine (answer_step inside proper ?_).symm
        simp [Reader.step, Reader.within, Reader.readInside, seen]
      · rw [if_neg (by simpa [seen] using qualifier), readTypeName, seen]
        refine stars_ends (inside.advance proper) ?_
        rw [← same]
        refine (answer_step inside proper ?_).symm
        simp [Reader.step, Reader.within, Reader.readInside, seen, qualifier]
  | openBrace | closeBrace | star | newline | eof =>
      have unqualified : cursor.peek.lexeme ≠ .ident "const" := by simp [seen]
      refine .next_fail (by rw [if_neg unqualified, readTypeName, seen]) fun _ =>
        same ▸ answer_fault inside ?_
      simp [Reader.step, Reader.within, Reader.readInside, seen]

/-! ## Statements -/

private theorem readParam_ends (inside : cursor.Inside limit)
    (same : (reader.within block (.typeStart .param)).answer cursor = answer) :
    (readParam limit block.name).Ends cursor (Agrees answer fun param after =>
      (reader.within (block.add (.param param)) .lineEnd).answer after = answer) := by
  refine (readType_ends inside same).andThen fun type here reached holds => ?_
  have inside := inside.reaches reached
  obtain ⟨other, same⟩ := holds
  cases seen : here.peek.lexeme with
  | ident name =>
      have proper : here.peek.lexeme ≠ .eof := by simp [seen]
      refine .next proper ?_
      simp only [seen]
      refine .pure (same ▸ (answer_step inside proper ?_).symm)
      simp [Reader.step, Reader.within, Reader.readInside, Reader.readAfterType, seen]
  | star => exact absurd seen other
  | openBrace | closeBrace | newline | eof =>
      refine .next_fail (by simp only [seen]; rfl) fun _ => same ▸ answer_fault inside ?_
      simp [Reader.step, Reader.within, Reader.readInside, Reader.readAfterType, seen]

private theorem readResult_ends (inside : cursor.Inside limit)
    (same : (reader.within block (.typeStart .result)).answer cursor = answer) :
    (readResult limit block.name).Ends cursor (Agrees answer fun type after =>
      (reader.within (block.add (.result type)) .lineEnd).answer after = answer) := by
  refine (readType_ends inside same).andThen fun type here reached holds => .peek ?_
  have inside := inside.reaches reached
  obtain ⟨other, same⟩ := holds
  cases seen : here.peek.lexeme with
  | ident name =>
      refine .fail (same ▸ answer_fault inside ?_)
      simp [Reader.step, Reader.within, Reader.readInside, Reader.readAfterType, seen]
  | star => exact absurd seen other
  | openBrace | closeBrace | newline | eof =>
      -- the token is the one that has to end the statement
      refine .pure (same ▸ answer_congr inside ?_)
      simp [Reader.step, Reader.within, Reader.readInside, Reader.readAfterType,
        Reader.readLineEnd, Reader.close, seen]

private theorem readStatement_ends (inside : cursor.Inside limit) {line : Nat} {keyword : String}
    (same : ((reader.readKeyword block line keyword).bind fun following =>
      following.answer cursor) = answer) :
    (readStatement limit block line keyword).Ends cursor (Agrees answer fun longer after =>
      (reader.within longer .lineEnd).answer after = answer) := by
  rw [readStatement]
  by_cases isParam : keyword = "param"
  · rw [Reader.readKeyword, if_pos isParam] at same
    rw [if_pos isParam]
    exact (readParam_ends inside same).andThen fun param after _ holds => .pure holds
  by_cases isResult : keyword = "ret"
  · rw [Reader.readKeyword, if_neg isParam, if_pos isResult] at same
    rw [if_neg isParam, if_pos isResult]
    exact (readResult_ends inside same).andThen fun type after _ holds => .pure holds
  rw [Reader.readKeyword, if_neg isParam, if_neg isResult] at same
  rw [if_neg isParam, if_neg isResult]
  cases known : Flag.ofKeyword? keyword with
  | some flag =>
      rw [known] at same
      exact .pure same
  | none =>
      rw [known] at same
      exact .fail same.symm

/-! ## Rounds -/

def Moves {σ α : Type} (cursor : Cursor) (outcome : Except SpecError (Round σ α))
    (after : Cursor) : Prop :=
  cursor.position < after.position ∨
    cursor.peek.lexeme = .eof ∧ ∀ state, outcome ≠ .ok (.again state)

def Decides {σ α : Type} (invariant : σ → Cursor → Prop) (post : α → Cursor → Prop) :
    Round σ α → Cursor → Prop
  | .again state, after => invariant state after
  | .leave value, after => post value after

section Moves

variable {σ : Type} {here after : Cursor} {outcome : Except SpecError (Round σ α)}

theorem moves_of_taken (reached : cursor.Reaches here) (further : here.advance.Reaches after) :
    Moves cursor outcome after := by
  have before := reached.position_le
  have behind : here.position + 1 ≤ after.position := further.position_le
  exact .inl (by omega)

theorem moves_of_ended (reached : cursor.Reaches here) (ended : here.peek.lexeme = .eof)
    (last : ∀ state, outcome ≠ .ok (.again state)) : Moves cursor outcome here := by
  rcases reached.eq_or_lt with rfl | less
  · exact .inr ⟨ended, last⟩
  · exact .inl less

theorem loop_agrees (invariant : σ → Cursor → Prop) {body : σ → Action (Round σ α)}
    {post : α → Cursor → Prop}
    (round : ∀ state cursor, cursor.Inside limit → invariant state cursor →
      (body state).Ends cursor fun outcome after => Moves cursor outcome after ∧
        Agrees answer (Decides invariant post) outcome after)
    {state : σ} (inside : cursor.Inside limit) (start : invariant state cursor) :
    (loop body limit state).Ends cursor (Agrees answer post) := by
  refine loop_ends invariant (fun state cursor inside holds => ?_) inside inside.enough start
  refine (round state cursor inside holds).mono ?_
  rintro (fault | following | value) after - ⟨moves, holds⟩
  · exact holds
  · have further := moves.resolve_right fun ended => ended.2 following rfl
    exact ⟨further, holds⟩
  · exact holds

end Moves

theorem statementRound_ends (inside : cursor.Inside limit)
    (same : (reader.within block .statement).answer cursor = answer) :
    (statementRound limit block).Ends cursor fun outcome after => Moves cursor outcome after ∧
      Agrees answer (Decides
        (fun longer after => (reader.within longer .statement).answer after = answer)
        fun whole after => Reader.answer ⟨whole :: reader.closed, .outside⟩ after = answer)
        outcome after := by
  have idle (token : Token) (newline : token.lexeme = .newline) :
      (reader.within block .statement).step token = .ok (reader.within block .statement) := by
    simp [Reader.step, Reader.within, Reader.readInside, newline]
  refine takeBehindNewlines_ends inside idle ?_ ?_
  · intro here reached inside stays ended
    rw [same] at stays
    simp only [ended]
    refine .fail ⟨moves_of_ended reached ended (by simp), stays ▸ answer_fault inside ?_⟩
    simp [Reader.step, Reader.within, Reader.readInside, ended]
  · intro here reached inside stays proper other
    rw [same] at stays
    -- whatever the token is, it has been stepped over
    suffices ends : Ends _ here.advance (Agrees answer _) from
      ends.mono fun outcome after further holds => ⟨moves_of_taken reached further, holds⟩
    cases seen : here.peek.lexeme with
    | closeBrace =>
        refine .pure (stays ▸ (answer_step inside proper ?_).symm)
        simp [Reader.step, Reader.within, Reader.readInside, Reader.close, seen]
    | ident keyword =>
        have reads : (reader.within block .statement).step here.peek =
            reader.readKeyword block here.peek.line keyword := by
          simp [Reader.step, Reader.within, Reader.readInside, Reader.readKeyword, seen]
        rw [answer_eq inside, reads] at stays
        simp only [if_neg proper] at stays
        refine (readStatement_ends (inside.advance proper) stays).andThen ?_
        intro longer there further holds
        refine (endStatement_ends ((inside.advance proper).reaches further) holds).andThen ?_
        exact fun _ after _ holds => .pure holds
    | newline => exact absurd seen other
    | eof => exact absurd seen proper
    | openBrace | star =>
        refine .fail (stays ▸ answer_fault inside ?_)
        simp [Reader.step, Reader.within, Reader.readInside, unexpected, seen]

private theorem statements_ends (inside : cursor.Inside limit)
    (same : (reader.within block .statement).answer cursor = answer) :
    (loop (statementRound limit) limit block).Ends cursor (Agrees answer fun whole after =>
      Reader.answer ⟨whole :: reader.closed, .outside⟩ after = answer) :=
  loop_agrees (fun block here => (reader.within block .statement).answer here = answer)
    (fun _ _ inside same => statementRound_ends inside same) inside same

section Blocks

variable {closed : List Block} {name : String} {line : Nat}

private theorem openBrace_ends (inside : cursor.Inside limit)
    (other : cursor.peek.lexeme ≠ .newline)
    (same : Reader.answer ⟨closed, .named name line⟩ cursor = answer) :
    (expect .openBrace .openBrace).Ends cursor (Agrees answer fun _ after =>
      (Reader.within ⟨closed, .outside⟩ { name, line } .statement).answer after = answer) := by
  cases seen : cursor.peek.lexeme with
  | openBrace =>
      have proper : cursor.peek.lexeme ≠ .eof := by simp [seen]
      refine .next proper ?_
      rw [if_pos seen]
      refine .pure (same ▸ (answer_step inside proper ?_).symm)
      simp [Reader.step, Reader.within, seen]
  | newline => exact absurd seen other
  | ident | closeBrace | star | eof =>
      have wrong : cursor.peek.lexeme ≠ .openBrace := by simp [seen]
      refine .next_fail (if_neg wrong) fun _ => same ▸ answer_fault inside ?_
      simp [Reader.step, seen]

private theorem readBlock_ends (inside : cursor.Inside limit)
    (same : Reader.answer ⟨closed, .named name line⟩ cursor = answer) :
    (readBlock limit name line).Ends cursor (Agrees answer fun whole after =>
      Reader.answer ⟨whole :: closed, .outside⟩ after = answer) := by
  have idle (token : Token) (newline : token.lexeme = .newline) :
      Reader.step ⟨closed, .named name line⟩ token = .ok ⟨closed, .named name line⟩ := by
    simp [Reader.step, newline]
  refine (skipNewlines_ends inside idle).bind ?_ (by simp)
  rintro _ here reached ⟨-, other, stays⟩
  have inside := inside.reaches reached
  refine (openBrace_ends inside other (stays.trans same)).andThen fun _ there further opened => ?_
  exact statements_ends (inside.reaches further) opened

theorem blockRound_ends (inside : cursor.Inside limit)
    (same : Reader.answer ⟨closed, .outside⟩ cursor = answer) :
    (blockRound limit closed).Ends cursor fun outcome after => Moves cursor outcome after ∧
      Agrees answer (Decides
        (fun closed after => Reader.answer ⟨closed, .outside⟩ after = answer)
        fun closed _ => .ok (closed.reverse.map Block.call) = answer) outcome after := by
  have idle (token : Token) (newline : token.lexeme = .newline) :
      Reader.step ⟨closed, .outside⟩ token = .ok ⟨closed, .outside⟩ := by
    simp [Reader.step, newline]
  refine takeBehindNewlines_ends inside idle ?_ ?_
  · intro here reached inside stays ended
    rw [same, answer_eq inside, Reader.step] at stays
    simp only [ended] at stays ⊢
    exact .pure ⟨moves_of_ended reached ended (by simp), stays⟩
  · intro here reached inside stays proper other
    rw [same] at stays
    suffices ends : Ends _ here.advance (Agrees answer _) from
      ends.mono fun outcome after further holds => ⟨moves_of_taken reached further, holds⟩
    cases seen : here.peek.lexeme with
    | ident name =>
        have named : Reader.step ⟨closed, .outside⟩ here.peek =
            .ok ⟨closed, .named name here.peek.line⟩ := by
          simp [Reader.step, seen]
        rw [answer_step inside proper named] at stays
        refine (readBlock_ends (inside.advance proper) stays).andThen ?_
        exact fun whole after _ holds => .pure holds
    | newline => exact absurd seen other
    | eof => exact absurd seen proper
    | openBrace | closeBrace | star =>
        refine .fail (stays ▸ answer_fault inside ?_)
        simp [Reader.step, unexpected, seen]

private theorem blocks_ends (inside : cursor.Inside limit)
    (same : Reader.answer ⟨closed, .outside⟩ cursor = answer) :
    (loop (blockRound limit) limit closed).Ends cursor (Agrees answer fun closed _ =>
      .ok (closed.reverse.map Block.call) = answer) :=
  loop_agrees (fun closed here => Reader.answer ⟨closed, .outside⟩ here = answer)
    (fun _ _ inside same => blockRound_ends inside same) inside same

end Blocks

private theorem readAll_ends (inside : cursor.Inside limit) :
    (readAll limit).Ends cursor fun outcome _ => outcome = Reader.answer {} cursor := by
  refine (blocks_ends inside rfl).bind ?_ ?_
  · exact fun closed after _ holds => .pure holds
  · exact fun fault after holds => holds.symm

/-! ## Where the loops stop -/

/--
Every round of the loop moves on or is the last one, and so the loop ends in at most as many
rounds as there are tokens left.
-/
structure Stops {σ α : Type} (body : σ → Action (Round σ α)) (cursor : Cursor) : Prop where
  round : ∀ state, (body state).Ends cursor (Moves cursor)
  ends : ∀ rounds, cursor.tokens.length ≤ cursor.position + rounds → ∀ state,
    (loop body rounds state).Ends cursor fun _ _ => True

structure StopsWhile {σ : Type} (lexeme : Lexeme) (body : σ → Action σ) (cursor : Cursor) :
    Prop where
  round : cursor.peek.lexeme = lexeme → ∀ state,
    (body state).Ends cursor fun _ after => cursor.position < after.position
  atEnd : cursor.peek.lexeme = .eof → ∀ rounds state,
    whileSees lexeme body (rounds + 1) state cursor = some (.ok state, cursor)
  ends : ∀ rounds, cursor.tokens.length ≤ cursor.position + rounds → ∀ state,
    (whileSees lexeme body rounds state).Ends cursor fun _ _ => True

section Stopping

variable {σ : Type}

theorem Stops.of_rounds {body : σ → Action (Round σ α)}
    (rounds : ∀ cursor : Cursor, cursor.Inside limit → ∀ state,
      (body state).Ends cursor (Moves cursor))
    (inside : cursor.Inside limit) : Stops body cursor where
  round := rounds cursor inside
  ends _ enough state := by
    refine loop_ends (fun _ _ => True) (fun state here inside _ => ?_) inside enough trivial
    refine (rounds here inside state).mono ?_
    rintro (fault | following | value) after - moves
    · trivial
    · exact ⟨moves.resolve_right fun ended => ended.2 following rfl, trivial⟩
    · trivial

theorem StopsWhile.of_rounds {lexeme : Lexeme} {body : σ → Action σ} (proper : lexeme ≠ .eof)
    (rounds : ∀ cursor : Cursor, cursor.Inside limit → cursor.peek.lexeme = lexeme → ∀ state,
      (body state).Ends cursor fun _ after => cursor.position < after.position)
    (inside : cursor.Inside limit) : StopsWhile lexeme body cursor where
  round := rounds cursor inside
  atEnd ended := whileSees_of_ne fun same => proper (same.symm.trans ended)
  ends _ enough state := by
    refine whileSees_ends (fun _ _ => True) (fun state here inside _ seen => ?_)
      (fun _ _ _ _ => trivial) inside enough trivial
    refine (rounds here inside seen state).mono ?_
    rintro (fault | following) after - moves
    · trivial
    · exact ⟨moves, trivial⟩

end Stopping

private theorem blockRound_stops (inside : cursor.Inside limit) : Stops (blockRound limit) cursor :=
  .of_rounds (fun _ inside _ => (blockRound_ends inside rfl).mono fun _ _ _ holds => holds.1) inside

private theorem statementRound_stops (inside : cursor.Inside limit) :
    Stops (statementRound limit) cursor := by
  refine .of_rounds (fun here inside block => ?_) inside
  have same : (Reader.within {} block .statement).answer here = _ := rfl
  exact (statementRound_ends inside same).mono fun _ _ _ holds => holds.1

private theorem addStar_stops (inside : cursor.Inside limit) : StopsWhile .star addStar cursor := by
  refine .of_rounds (by decide) (fun here inside seen type => ?_) inside
  have same : (Reader.within {} ⟨"", 0, []⟩ (.afterType .result type)).answer here = _ := rfl
  exact (addStar_ends inside seen same).mono fun _ _ _ holds => holds.1

private theorem newline_stops (inside : cursor.Inside limit) :
    StopsWhile .newline (fun _ : Unit => advance) cursor := by
  refine .of_rounds (by decide) (fun here _ seen _ => ?_) inside
  exact .advance (by simp [seen]) (Nat.lt_succ_self _)

end Action

/-! ## A whole reading -/

private theorem lexeme_eq_eof_iff {body : List Token} {line : Nat}
    (proper : ∀ token ∈ body, token.lexeme ≠ .eof) {index : Nat} {token : Token}
    (here : (body ++ [⟨.eof, line⟩])[index]? = some token) :
    token.lexeme = .eof ↔ index = body.length := by
  rcases Nat.lt_trichotomy index body.length with before | rfl | behind
  · rw [List.getElem?_append_left before] at here
    have inside := proper token (List.mem_of_getElem? here)
    exact ⟨fun ended => absurd ended inside, fun last => absurd last (Nat.ne_of_lt before)⟩
  · rw [List.getElem?_concat_length] at here
    cases here
    simp
  · have bound := (List.getElem?_eq_some_iff.mp here).1
    rw [List.length_append, List.length_singleton] at bound
    omega

/-- What stands behind the end token is not read. -/
theorem Reader.run_terminated_append {tokens : List Token} (ended : Terminated tokens)
    (more : List Token) (reader : Reader) : reader.run (tokens ++ more) = reader.run tokens := by
  obtain ⟨body, line, rfl, -⟩ := ended
  induction body generalizing reader with
  | nil => simp [run]
  | cons token rest ih =>
      rw [List.cons_append, List.cons_append, run, run]
      cases reader.step token with
      | error fault => rfl
      | ok following => simp only [ih following]

structure StopsAtEnd (tokens : List Token) (last : Nat) : Prop where
  length : tokens.length = last + 1
  end_iff : ∀ index token, tokens[index]? = some token → (token.lexeme = .eof ↔ index = last)
  unread : ∀ more, Reading.ofTokens (tokens ++ more) = Reading.ofTokens tokens
  /-- Descent returns what the reader returns; every position on its way is before the end. -/
  reading : ∀ limit, tokens.length ≤ limit → ∃ final : Cursor,
    Action.readAll limit { tokens } = some ((Reading.ofTokens tokens).calls, final) ∧
      final.position ≤ last ∧ ∀ position ∈ final.trail, position < last
  unclamped : ∀ cursor : Cursor, cursor.tokens = tokens → cursor.position ≤ last →
    tokens[cursor.position]? = some cursor.peek
  blocks : ∀ limit, tokens.length ≤ limit → ∀ cursor : Cursor, cursor.tokens = tokens →
    cursor.position ≤ last → Action.Stops (Action.blockRound limit) cursor
  statements : ∀ limit, tokens.length ≤ limit → ∀ cursor : Cursor, cursor.tokens = tokens →
    cursor.position ≤ last → Action.Stops (Action.statementRound limit) cursor
  stars : ∀ cursor : Cursor, cursor.tokens = tokens → cursor.position ≤ last →
    Action.StopsWhile .star Action.addStar cursor
  newlines : ∀ cursor : Cursor, cursor.tokens = tokens → cursor.position ≤ last →
    Action.StopsWhile .newline (fun _ : Unit => Action.advance) cursor

/--
Descent through the tokens of a text always returns, with the result of the reader.  It never
steps over the end token, and each of its loops moves the cursor on until it is left.
-/
theorem descent_stops_at_end {text : String} {tokens : List Token}
    (scanned : scan text = .ok tokens) : ∃ last, StopsAtEnd tokens last := by
  have terminated := scan_terminated scanned
  obtain ⟨body, line, parts, proper⟩ := scan_terminated scanned
  have length : tokens.length = body.length + 1 := by simp [parts]
  have inside {limit : Nat} (limited : tokens.length ≤ limit) (cursor : Cursor)
      (same : cursor.tokens = tokens) (bound : cursor.position ≤ body.length) :
      cursor.Inside limit := by
    subst same
    exact ⟨terminated, by omega, limited⟩
  have every := Nat.le_refl tokens.length
  refine ⟨body.length, ?_⟩
  constructor
  case length => exact length
  case end_iff =>
    intro index token here
    exact lexeme_eq_eof_iff proper (parts ▸ here)
  case unread => exact fun more => Reader.run_terminated_append terminated more {}
  case reading =>
    intro limit limited
    have start := inside limited { tokens } rfl (Nat.zero_le _)
    obtain ⟨outcome, final, returned, reached, rfl⟩ := Action.readAll_ends start
    have bound : final.position < body.length + 1 := by
      have stays := (start.reaches reached).position
      rwa [reached.tokens, length] at stays
    refine ⟨final, returned, Nat.le_of_lt_succ bound, fun position member => ?_⟩
    rcases reached.trail_lt position member with before | before
    · contradiction
    · omega
  case unclamped =>
    rintro cursor rfl bound
    exact (inside every cursor rfl bound).getElem?_position
  case blocks =>
    exact fun limit limited cursor same bound =>
      Action.blockRound_stops (inside limited cursor same bound)
  case statements =>
    exact fun limit limited cursor same bound =>
      Action.statementRound_stops (inside limited cursor same bound)
  case stars => exact fun cursor same bound => Action.addStar_stops (inside every cursor same bound)
  case newlines =>
    exact fun cursor same bound => Action.newline_stops (inside every cursor same bound)

def cutTokens : List Token :=
  [ ⟨.ident "A", 1⟩, ⟨.newline, 1⟩, ⟨.openBrace, 3⟩, ⟨.newline, 3⟩, ⟨.ident "param", 5⟩,
    ⟨.ident "const", 5⟩, ⟨.ident "int8_t", 5⟩, ⟨.star, 5⟩, ⟨.star, 5⟩, ⟨.ident "x", 5⟩,
    ⟨.newline, 5⟩, ⟨.closeBrace, 6⟩, ⟨.newline, 6⟩, ⟨.ident "B", 7⟩, ⟨.openBrace, 7⟩,
    ⟨.ident "sync", 7⟩, ⟨.eof, 7⟩ ]

theorem descent_stops_at_end_cut :
    scan "A\n\n\x7b # one\n\n param const int8_t **x\n\x7d\nB \x7b sync" = .ok cutTokens ∧
      (Reading.ofTokens cutTokens).calls = .error (.unterminatedBlock 7 "B") ∧
      StopsAtEnd cutTokens 16 := by
  have scanned : scan "A\n\n\x7b # one\n\n param const int8_t **x\n\x7d\nB \x7b sync" =
      .ok cutTokens := by rfl
  obtain ⟨last, stops⟩ := descent_stops_at_end scanned
  have same : last = 16 := Nat.succ.inj stops.length.symm
  subst same
  exact ⟨scanned, by rfl, stops⟩

end CommandProtocol.Spec
