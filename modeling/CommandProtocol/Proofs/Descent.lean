import CommandProtocol.Proofs.TokenStream

/-!
# Reading by descent

A spec can also be read with a cursor that looks at one token at a time and is moved on by
hand: one action for each part of a spec, and a loop wherever parts repeat.  Nothing but the
tokens themselves makes such a loop end, so it is given a limit of rounds, and an action that
runs into the limit returns nothing.

On tokens that end in their only end token every action returns, because no loop makes more
rounds than there are tokens left, and it moves the cursor over other tokens only.
-/

namespace CommandProtocol.Spec

/-! ## Cursors -/

structure Cursor where
  tokens : List Token
  position : Nat := 0
  trail : List Nat := []
  deriving DecidableEq, Repr

namespace Cursor

/-- The token under the cursor.  Behind the last token this is still the last one. -/
def peek (cursor : Cursor) : Token :=
  cursor.tokens.getD (min cursor.position (cursor.tokens.length - 1)) ⟨.eof, 0⟩

def advance (cursor : Cursor) : Cursor :=
  { cursor with
    position := cursor.position + 1
    trail := cursor.position :: cursor.trail }

def rest (cursor : Cursor) : List Token := cursor.tokens.drop cursor.position

end Cursor

/-! ## Actions -/

/-- An action ends with an outcome at some cursor, or a loop runs into its limit. -/
def Action (α : Type) : Type := Cursor → Option (Except SpecError α × Cursor)

inductive Round (σ α : Type) where
  | again (state : σ)
  | leave (value : α)
  deriving DecidableEq, Repr

namespace Action

instance : Monad Action where
  pure value cursor := some (.ok value, cursor)
  bind action next cursor :=
    match action cursor with
    | some (.ok value, after) => next value after
    | some (.error fault, after) => some (.error fault, after)
    | none => none

def fail {α : Type} (fault : SpecError) : Action α := fun cursor => some (.error fault, cursor)

def peek : Action Token := fun cursor => some (.ok cursor.peek, cursor)

def advance : Action Unit := fun cursor => some (.ok (), cursor.advance)

def next : Action Token := do
  let token ← peek
  if token.lexeme ≠ .eof then advance
  return token

def loop {σ α : Type} (body : σ → Action (Round σ α)) : Nat → σ → Action α
  | 0, _, _ => none
  | rounds + 1, state, cursor =>
      match body state cursor with
      | some (.ok (.again following), after) => loop body rounds following after
      | some (.ok (.leave value), after) => some (.ok value, after)
      | some (.error fault, after) => some (.error fault, after)
      | none => none

def whileSees {σ : Type} (lexeme : Lexeme) (body : σ → Action σ) : Nat → σ → Action σ :=
  loop fun state => do
    if (← peek).lexeme = lexeme then
      return .again (← body state)
    else
      return .leave state

/-! ## Parts of a spec -/

section Parts

variable (limit : Nat)

def skipNewlines : Action Unit := whileSees .newline (fun _ => advance) limit ()

def expect (lexeme : Lexeme) (expected : Expectation) : Action Unit := do
  let token ← next
  if token.lexeme = lexeme then
    return ()
  else
    fail (unexpected token expected)

def addStar (type : Variable) : Action Variable := do
  let star ← next
  if type.pointers < maxPointers then
    return type.pointer
  else
    fail (.unexpectedToken star.line star.lexeme .pointerLimit)

def readTypeName (isConst : Bool) (token : Token) : Action Variable :=
  match token.lexeme with
  | .ident ident => whileSees .star addStar limit { base := .ofIdent ident, isConst }
  | _ => fail (unexpected token .typeName)

def readType : Action Variable := do
  let token ← next
  if token.lexeme = .ident "const" then
    readTypeName limit true (← next)
  else
    readTypeName limit false token

def readParam (call : String) : Action Variable := do
  let type ← readType limit
  let token ← next
  match token.lexeme with
  | .ident name => return type.named name
  | .newline | .closeBrace | .eof => fail (.missingParamName token.line call)
  | _ => fail (unexpected token .paramName)

def readResult (call : String) : Action Variable := do
  let type ← readType limit
  let token ← peek
  match token.lexeme with
  | .ident _ => fail (.namedReturn token.line call)
  | _ => return type

def readStatement (block : OpenBlock) (line : Nat) (keyword : String) : Action OpenBlock := do
  if keyword = "param" then
    return block.add (.param (← readParam limit block.name))
  else if keyword = "ret" then
    return block.add (.result (← readResult limit block.name))
  else
    match Flag.ofKeyword? keyword with
    | some flag => return block.add (.flag flag)
    | none => fail (.unknownKeyword line block.name keyword)

def endStatement : Action Unit := do
  let token ← peek
  match token.lexeme with
  | .newline => advance
  | .closeBrace | .eof => return ()
  | _ => fail (unexpected token .endOfLine)

def statementRound (block : OpenBlock) : Action (Round OpenBlock Block) := do
  skipNewlines limit
  let token ← next
  match token.lexeme with
  | .closeBrace => return .leave block.block
  | .eof => fail (.unterminatedBlock block.line block.name)
  | .ident keyword =>
      let longer ← readStatement limit block token.line keyword
      endStatement
      return .again longer
  | _ => fail (.unexpectedToken token.line token.lexeme .keyword)

def readBlock (name : String) (line : Nat) : Action Block := do
  skipNewlines limit
  expect .openBrace .openBrace
  loop (statementRound limit) limit { name, line }

def blockRound (closed : List Block) : Action (Round (List Block) (List Block)) := do
  skipNewlines limit
  let token ← next
  match token.lexeme with
  | .eof => return .leave closed
  | .ident name =>
      let block ← readBlock limit name token.line
      return .again (block :: closed)
  | _ => fail (.unexpectedToken token.line token.lexeme .callName)

def readAll : Action (List Call) := do
  let closed ← loop (blockRound limit) limit []
  return closed.reverse.map Block.call

end Parts

end Action

/-! ## Where a cursor gets -/

namespace Cursor

inductive Reaches : Cursor → Cursor → Prop
  | refl (cursor : Cursor) : Reaches cursor cursor
  | step {cursor after : Cursor} (proper : cursor.peek.lexeme ≠ .eof)
      (rest : Reaches cursor.advance after) : Reaches cursor after

/--
The cursor stands on a token of a list that ends in its only end token and that is not longer
than the limit.
-/
structure Inside (cursor : Cursor) (limit : Nat) : Prop where
  terminated : Terminated cursor.tokens
  position : cursor.position < cursor.tokens.length
  limited : cursor.tokens.length ≤ limit

variable {limit : Nat} {cursor middle after : Cursor}

namespace Reaches

theorem single (proper : cursor.peek.lexeme ≠ .eof) : Reaches cursor cursor.advance :=
  .step proper (.refl _)

theorem trans (first : Reaches cursor middle) (second : Reaches middle after) :
    Reaches cursor after := by
  induction first with
  | refl => exact second
  | step proper _ ih => exact .step proper (ih second)

theorem tokens (reached : Reaches cursor after) : after.tokens = cursor.tokens := by
  induction reached with
  | refl => rfl
  | step _ _ ih => exact ih

theorem position_le (reached : Reaches cursor after) : cursor.position ≤ after.position := by
  induction reached with
  | refl => exact Nat.le_refl _
  | step _ _ ih => exact Nat.le_of_succ_le ih

theorem eq_or_lt (reached : Reaches cursor after) :
    after = cursor ∨ cursor.position < after.position := by
  cases reached with
  | refl => exact .inl rfl
  | step _ rest => exact .inr rest.position_le

theorem trail_lt (reached : Reaches cursor after) :
    ∀ position ∈ after.trail, position ∈ cursor.trail ∨ position < after.position := by
  induction reached with
  | refl => exact fun position member => .inl member
  | step _ rest ih =>
      intro position member
      rcases ih position member with member | less
      · rcases List.mem_cons.mp member with rfl | member
        · exact .inr rest.position_le
        · exact .inl member
      · exact .inr less

end Reaches

namespace Inside

theorem getElem?_position (inside : cursor.Inside limit) :
    cursor.tokens[cursor.position]? = some cursor.peek := by
  have bound := inside.position
  have unclamped : min cursor.position (cursor.tokens.length - 1) = cursor.position := by omega
  rw [peek, unclamped, List.getD_eq_getElem?_getD, List.getElem?_eq_getElem bound]
  rfl

theorem rest_eq (inside : cursor.Inside limit) :
    cursor.rest = cursor.peek :: cursor.advance.rest := by
  have here := inside.getElem?_position
  obtain ⟨bound, found⟩ := List.getElem?_eq_some_iff.mp here
  rw [rest, List.drop_eq_getElem_cons bound, found]
  rfl

theorem enough (inside : cursor.Inside limit) :
    cursor.tokens.length ≤ cursor.position + limit :=
  Nat.le_add_left_of_le inside.limited

theorem advance (inside : cursor.Inside limit) (proper : cursor.peek.lexeme ≠ .eof) :
    cursor.advance.Inside limit := by
  refine ⟨inside.terminated, ?_, inside.limited⟩
  obtain ⟨body, line, parts, -⟩ := inside.terminated
  have here := inside.getElem?_position
  have bound := inside.position
  rw [parts, List.length_append, List.length_singleton] at bound
  -- only the end token stands at the last position
  have other : cursor.position ≠ body.length := by
    intro last
    rw [parts, last, List.getElem?_concat_length] at here
    exact proper (Option.some.inj here ▸ rfl)
  change cursor.position + 1 < cursor.tokens.length
  rw [parts, List.length_append, List.length_singleton]
  omega

theorem reaches (inside : cursor.Inside limit) (reached : Reaches cursor after) :
    after.Inside limit := by
  induction reached with
  | refl => exact inside
  | step proper _ ih => exact ih (inside.advance proper)

end Inside

end Cursor

/-! ## How actions end -/

namespace Action

variable {α β σ : Type} {limit : Nat} {cursor : Cursor}

theorem bind_of_ok {action : Action α} {next : α → Action β} {value : α} {after : Cursor}
    (returned : action cursor = some (.ok value, after)) :
    (action >>= next) cursor = next value after := by
  simp only [Bind.bind, returned]

private theorem bind_of_error {action : Action α} {next : α → Action β} {fault : SpecError}
    {after : Cursor} (returned : action cursor = some (.error fault, after)) :
    (action >>= next) cursor = some (.error fault, after) := by
  simp only [Bind.bind, returned]

def Ends (action : Action α) (cursor : Cursor) (post : Except SpecError α → Cursor → Prop) : Prop :=
  ∃ outcome after, action cursor = some (outcome, after) ∧ cursor.Reaches after ∧
    post outcome after

namespace Ends

variable {action : Action α} {post : Except SpecError α → Cursor → Prop}

theorem mono {weaker : Except SpecError α → Cursor → Prop} (ends : action.Ends cursor post)
    (implies : ∀ outcome after, cursor.Reaches after → post outcome after → weaker outcome after) :
    action.Ends cursor weaker := by
  obtain ⟨outcome, after, returned, reached, holds⟩ := ends
  exact ⟨outcome, after, returned, reached, implies outcome after reached holds⟩

theorem bind {next : α → Action β} {goal : Except SpecError β → Cursor → Prop}
    (first : action.Ends cursor post)
    (value : ∀ value after, cursor.Reaches after → post (.ok value) after →
      (next value).Ends after goal)
    (failure : ∀ fault after, post (.error fault) after → goal (.error fault) after) :
    (action >>= next).Ends cursor goal := by
  obtain ⟨outcome, middle, returned, reached, holds⟩ := first
  cases outcome with
  | error fault =>
      exact ⟨.error fault, middle, bind_of_error returned, reached, failure fault middle holds⟩
  | ok result =>
      obtain ⟨outcome, after, done, further, holds⟩ := value result middle reached holds
      exact ⟨outcome, after, (bind_of_ok returned).trans done, reached.trans further, holds⟩

theorem pure {value : α} (holds : post (.ok value) cursor) :
    Ends (Pure.pure value) cursor post :=
  ⟨.ok value, cursor, rfl, .refl cursor, holds⟩

theorem fail {fault : SpecError} (holds : post (.error fault) cursor) :
    (fail fault).Ends cursor post :=
  ⟨.error fault, cursor, rfl, .refl cursor, holds⟩

theorem peek {following : Token → Action α} (ends : (following cursor.peek).Ends cursor post) :
    (peek >>= following).Ends cursor post := ends

theorem advance {post : Except SpecError Unit → Cursor → Prop}
    (proper : cursor.peek.lexeme ≠ .eof) (holds : post (.ok ()) cursor.advance) :
    advance.Ends cursor post :=
  ⟨.ok (), cursor.advance, rfl, .single proper, holds⟩

theorem next {following : Token → Action α} (proper : cursor.peek.lexeme ≠ .eof)
    (ends : (following cursor.peek).Ends cursor.advance post) :
    (next >>= following).Ends cursor post := by
  have taken : Action.next cursor = some (.ok cursor.peek, cursor.advance) := by
    rw [Action.next, bind_of_ok rfl, if_pos proper]
    rfl
  obtain ⟨outcome, after, returned, reached, holds⟩ := ends
  exact ⟨outcome, after, (bind_of_ok taken).trans returned, .step proper reached, holds⟩

theorem next_eof {following : Token → Action α} (ended : cursor.peek.lexeme = .eof)
    (ends : (following cursor.peek).Ends cursor post) :
    (Action.next >>= following).Ends cursor post := by
  have taken : Action.next cursor = some (.ok cursor.peek, cursor) := by
    rw [Action.next, bind_of_ok rfl, if_neg (not_not_intro ended)]
    rfl
  obtain ⟨outcome, after, returned, reached, holds⟩ := ends
  exact ⟨outcome, after, (bind_of_ok taken).trans returned, reached, holds⟩

theorem next_fail {following : Token → Action α} {fault : SpecError}
    (fails : following cursor.peek = Action.fail fault)
    (holds : ∀ after, post (.error fault) after) :
    (Action.next >>= following).Ends cursor post := by
  by_cases ended : cursor.peek.lexeme = .eof
  · exact next_eof ended (fails ▸ fail (holds cursor))
  · exact next ended (fails ▸ fail (holds cursor.advance))

end Ends

/-! ## Loops -/

section Loops

/--
A loop ends if its rounds do, and if the cursor is further on before each next round: then it
makes no more rounds than there are tokens left.
-/
theorem loop_ends (invariant : σ → Cursor → Prop) {body : σ → Action (Round σ α)}
    {post : Except SpecError α → Cursor → Prop}
    (round : ∀ state cursor, cursor.Inside limit → invariant state cursor →
      (body state).Ends cursor fun outcome after =>
        match outcome with
        | .ok (.again following) => cursor.position < after.position ∧ invariant following after
        | .ok (.leave value) => post (.ok value) after
        | .error fault => post (.error fault) after)
    {rounds : Nat} {state : σ} {cursor : Cursor} (inside : cursor.Inside limit)
    (enough : cursor.tokens.length ≤ cursor.position + rounds) (start : invariant state cursor) :
    (loop body rounds state).Ends cursor post := by
  induction rounds generalizing state cursor with
  | zero => exact absurd inside.position (Nat.not_lt.mpr enough)
  | succ rounds ih =>
      obtain ⟨outcome, after, returned, reached, holds⟩ := round state cursor inside start
      match outcome, returned, holds with
      | .error fault, returned, holds =>
          refine ⟨.error fault, after, ?_, reached, holds⟩
          rw [loop, returned]
      | .ok (.leave value), returned, holds =>
          refine ⟨.ok value, after, ?_, reached, holds⟩
          rw [loop, returned]
      | .ok (.again following), returned, holds =>
          have fewer : after.tokens.length ≤ after.position + rounds := by
            have moved := holds.1
            rw [reached.tokens]
            omega
          obtain ⟨outcome, final, done, later, holds⟩ :=
            ih (inside.reaches reached) fewer holds.2
          refine ⟨outcome, final, ?_, reached.trans later, holds⟩
          rw [loop, returned]
          exact done

theorem whileSees_ends (invariant : σ → Cursor → Prop) {lexeme : Lexeme} {body : σ → Action σ}
    {post : Except SpecError σ → Cursor → Prop}
    (round : ∀ state cursor, cursor.Inside limit → invariant state cursor →
      cursor.peek.lexeme = lexeme → (body state).Ends cursor fun outcome after =>
        match outcome with
        | .ok following => cursor.position < after.position ∧ invariant following after
        | .error fault => post (.error fault) after)
    (done : ∀ state cursor, invariant state cursor → cursor.peek.lexeme ≠ lexeme →
      post (.ok state) cursor)
    {rounds : Nat} {state : σ} {cursor : Cursor} (inside : cursor.Inside limit)
    (enough : cursor.tokens.length ≤ cursor.position + rounds) (start : invariant state cursor) :
    (whileSees lexeme body rounds state).Ends cursor post := by
  refine loop_ends invariant (fun state cursor inside holds => .peek ?_) inside enough start
  by_cases seen : cursor.peek.lexeme = lexeme
  · rw [if_pos seen]
    refine (round state cursor inside holds seen).bind ?_ ?_
    · exact fun following after _ moved => .pure moved
    · exact fun fault after failed => failed
  · rw [if_neg seen]
    exact .pure (done state cursor holds seen)

theorem whileSees_of_ne {lexeme : Lexeme} {body : σ → Action σ}
    (other : cursor.peek.lexeme ≠ lexeme) (rounds : Nat) (state : σ) :
    whileSees lexeme body (rounds + 1) state cursor = some (.ok state, cursor) := by
  rw [whileSees, loop, bind_of_ok rfl, if_neg other]
  rfl

private theorem loop_eq_none (invariant : σ → Cursor → Prop) {body : σ → Action (Round σ α)}
    (round : ∀ state cursor, invariant state cursor → ∃ following after,
      body state cursor = some (.ok (.again following), after) ∧ invariant following after)
    (rounds : Nat) {state : σ} (start : invariant state cursor) :
    loop body rounds state cursor = none := by
  induction rounds generalizing state cursor with
  | zero => rfl
  | succ rounds ih =>
      obtain ⟨following, after, again, still⟩ := round state cursor start
      rw [loop, again]
      exact ih still

/--
The end token is what stops the descent: on a list whose last token is a newline the cursor
runs past the end for ever.
-/
theorem skipNewlines_eq_none {last : Token} (final : cursor.tokens.getLast? = some last)
    (newline : last.lexeme = .newline) (behind : cursor.tokens.length ≤ cursor.position + 1)
    (limit : Nat) : skipNewlines limit cursor = none := by
  refine loop_eq_none (fun _ here => here.tokens.getLast? = some last ∧
    here.tokens.length ≤ here.position + 1) ?_ limit ⟨final, behind⟩
  rintro _ here ⟨final, behind⟩
  have seen : here.peek = last := by
    have clamped : min here.position (here.tokens.length - 1) = here.tokens.length - 1 := by omega
    rw [Cursor.peek, clamped, List.getD_eq_getElem?_getD, ← List.getLast?_eq_getElem?, final]
    rfl
  refine ⟨(), here.advance, ?_, final, Nat.le_succ_of_le behind⟩
  rw [bind_of_ok rfl, if_pos (by rw [seen, newline])]
  rfl

end Loops

end Action

end CommandProtocol.Spec
