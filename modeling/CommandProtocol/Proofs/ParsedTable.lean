import CommandProtocol.Spec

/-!
# Tables that come from a spec

The scanner only makes words of letters, digits and underscores, and the reader puts
nothing but such words into a table.  So in every table that `Spec.parse` returns, call
names and parameter names are identifiers, result types are bare, and every base type
is `void`, of a standard width, or named by an identifier that means itself.
-/

namespace CommandProtocol

/-! ## Identifiers -/

def isWord : List Char → Bool
  | [] => false
  | first :: rest => Spec.isWordStart first && rest.all Spec.isWordChar

def isIdentifier (name : String) : Bool := isWord name.toList

theorem isWordChar_of_isWordStart {char : Char} (start : Spec.isWordStart char = true) :
    Spec.isWordChar char = true := by
  simp only [Spec.isWordStart, Spec.isWordChar, Char.isAlphanum, Bool.or_eq_true] at *
  exact start.imp_left .inl

theorem isWordChar_of_mem {chars : List Char} (word : isWord chars = true) :
    ∀ char ∈ chars, Spec.isWordChar char = true := by
  cases chars with
  | nil => simp
  | cons first rest =>
      rw [isWord, Bool.and_eq_true, List.all_eq_true] at word
      intro char member
      rcases List.mem_cons.mp member with rfl | member
      · exact isWordChar_of_isWordStart word.1
      · exact word.2 char member

theorem isWord_append {chars more : List Char} (word : isWord chars = true)
    (continued : ∀ char ∈ more, Spec.isWordChar char = true) :
    isWord (chars ++ more) = true := by
  cases chars with
  | nil => simp [isWord] at word
  | cons first rest =>
      rw [isWord, Bool.and_eq_true] at word
      rw [List.cons_append, isWord, List.all_append, word.1, word.2, List.all_eq_true.mpr continued]
      rfl

theorem isIdentifier_append {first second : String} (head : isIdentifier first = true)
    (tail : second.toList.all Spec.isWordChar = true) :
    isIdentifier (first ++ second) = true := by
  rw [isIdentifier, String.toList_append]
  exact isWord_append head (List.all_eq_true.mp tail)

theorem not_mem_of_isIdentifier {name : String} (word : isIdentifier name = true) {char : Char}
    (other : Spec.isWordChar char = false) : char ∉ name.toList := by
  intro member
  rw [isWordChar_of_mem word char member] at other
  contradiction

def IsLetter (char : Char) : Prop :=
  'A' ≤ char ∧ char ≤ 'Z' ∨ 'a' ≤ char ∧ char ≤ 'z' ∨ char = '_'

def IsLetterOrDigit (char : Char) : Prop := IsLetter char ∨ '0' ≤ char ∧ char ≤ '9'

def IsName (name : String) : Prop :=
  ∃ first rest, name.toList = first :: rest ∧ IsLetter first ∧ ∀ char ∈ rest, IsLetterOrDigit char

theorem isWordStart_iff {char : Char} : Spec.isWordStart char = true ↔ IsLetter char := by
  have ranges : Spec.isWordStart char = (decide ('A' ≤ char ∧ char ≤ 'Z') ||
      (decide ('a' ≤ char) && decide (char ≤ 'z')) || char == '_') := rfl
  simp [ranges, IsLetter, or_assoc]

theorem isWordChar_iff {char : Char} : Spec.isWordChar char = true ↔ IsLetterOrDigit char := by
  rw [IsLetterOrDigit, ← isWordStart_iff]
  simp [Spec.isWordChar, Spec.isWordStart, Char.isAlphanum, Char.isDigit, Char.le_def,
    or_right_comm]

theorem isIdentifier_iff {name : String} : isIdentifier name = true ↔ IsName name := by
  rw [isIdentifier, IsName]
  cases name.toList with
  | nil => simp [isWord]
  | cons first rest => simp [isWord, isWordStart_iff, isWordChar_iff, and_assoc]

/-! ## Words of the scanner -/

namespace Spec

def Lexeme.Sound : Lexeme → Prop
  | .ident text => isIdentifier text = true
  | _ => True

def ScanMode.Sound : ScanMode → Prop
  | .word reversed => isWord reversed.reverse = true
  | _ => True

structure Scanner.Sound (scanner : Scanner) : Prop where
  tokens : ∀ token ∈ scanner.reversed, token.lexeme.Sound
  mode : scanner.mode.Sound

namespace Scanner.Sound

variable {scanner next : Scanner} {char : Char}

theorem emit (sound : scanner.Sound) {lexeme : Lexeme} (fit : lexeme.Sound) :
    (scanner.emit lexeme).Sound := by
  refine ⟨fun token member => ?_, trivial⟩
  rcases List.mem_cons.mp member with rfl | member
  · exact fit
  · exact sound.tokens token member

theorem endLine (sound : scanner.Sound) : scanner.endLine.Sound := by
  rw [Scanner.endLine]
  split
  · exact ⟨sound.tokens, trivial⟩
  · have emitted : (scanner.emit .newline).Sound := sound.emit trivial
    exact ⟨emitted.tokens, trivial⟩

theorem endWord (sound : scanner.Sound) : scanner.endWord.Sound := by
  rw [Scanner.endWord]
  split
  · next reversed reading =>
      have word := sound.mode
      rw [reading] at word
      exact sound.emit (by simpa [Lexeme.Sound, ScanMode.Sound, isIdentifier] using word)
  · exact sound

theorem start (sound : scanner.Sound) (started : scanner.start char = .ok next) :
    next.Sound := by
  simp only [Scanner.start] at started
  repeat' split at started
  all_goals cases started
  · exact ⟨sound.tokens, trivial⟩
  · exact ⟨sound.tokens, trivial⟩
  · exact sound.endLine
  · exact sound
  · exact sound.emit trivial
  · exact sound.emit trivial
  · exact sound.emit trivial
  · next word_start => exact ⟨sound.tokens, by simp [ScanMode.Sound, isWord, word_start]⟩

theorem step (sound : scanner.Sound) (stepped : scanner.step char = .ok next) :
    next.Sound := by
  simp only [Scanner.step] at stepped
  split at stepped
  · exact sound.start stepped
  · next reversed reading =>
      split at stepped
      · next continued =>
          cases stepped
          have word := sound.mode
          rw [reading] at word
          refine ⟨sound.tokens, ?_⟩
          change isWord (char :: reversed).reverse = true
          rw [List.reverse_cons]
          exact isWord_append word (by simpa using continued)
      · exact sound.endWord.start stepped
  · split at stepped
    · cases stepped
      exact ⟨sound.tokens, trivial⟩
    · contradiction
  · split at stepped
    · cases stepped
      exact sound.endLine
    · cases stepped
      exact sound

theorem steps (chars : List Char) (sound : scanner.Sound)
    (scanned : chars.foldlM Scanner.step scanner = .ok next) : next.Sound := by
  induction chars generalizing scanner with
  | nil =>
      cases scanned
      exact sound
  | cons char rest ih =>
      rw [List.foldlM_cons] at scanned
      cases stepped : scanner.step char with
      | error fault =>
          rw [stepped] at scanned
          contradiction
      | ok following =>
          rw [stepped] at scanned
          exact ih (sound.step stepped) scanned

end Scanner.Sound

private theorem scan_sound {text : String} {tokens : List Token}
    (scanned : scan text = .ok tokens) :
    ∀ token ∈ tokens, token.lexeme.Sound := by
  rw [scan, scanChars] at scanned
  obtain ⟨final, ran, finished⟩ : ∃ final : Scanner,
      text.toList.foldlM Scanner.step {} = .ok final ∧ final.finish = .ok tokens := by
    cases ran : text.toList.foldlM Scanner.step {} with
    | error fault =>
        rw [ran] at scanned
        contradiction
    | ok final =>
        rw [ran] at scanned
        exact ⟨final, rfl, scanned⟩
  have start : ({} : Scanner).Sound := ⟨by simp, trivial⟩
  have closed : (final.endWord.emit .eof).Sound := (start.steps _ ran).endWord.emit trivial
  rw [Scanner.finish] at finished
  split at finished
  · contradiction
  · cases finished
    intro token member
    exact closed.tokens token (List.mem_reverse.mp member)

end Spec

/-! ## Types -/

/--
The base types that a spec can name: `void`, standard widths, and identifiers that no
other case takes.
-/
def BaseType.WellFormed : BaseType → Prop
  | .void => True
  | .int bits | .uint bits => bits ∈ BaseType.integerWidths
  | .float bits => bits = 32 ∨ bits = 64
  | .named name => isIdentifier name = true ∧ BaseType.ofIdent name = .named name

theorem BaseType.mem_integerWidths_of_width? {spelling : List Char} {bits : Nat}
    (width : width? spelling = some bits) : bits ∈ integerWidths := by
  rw [width?] at width
  split at width
  · simpa using (Option.filter_eq_some_iff.mp width).2
  · contradiction

private theorem BaseType.wellFormed_of_integer? {ident : String} {type : BaseType}
    (integer : integer? ident = some type) : type.WellFormed := by
  rw [integer?] at integer
  split at integer
  · obtain ⟨bits, width, rfl⟩ := Option.map_eq_some_iff.mp integer
    exact mem_integerWidths_of_width? width
  · obtain ⟨bits, width, rfl⟩ := Option.map_eq_some_iff.mp integer
    exact mem_integerWidths_of_width? width
  · contradiction

theorem BaseType.ofIdent_wellFormed {ident : String} (word : isIdentifier ident = true) :
    (ofIdent ident).WellFormed := by
  by_cases void : ident = "void"
  · simp [ofIdent, void, WellFormed]
  by_cases single : ident = "float"
  · simp [ofIdent, single, WellFormed]
  by_cases double : ident = "double"
  · simp [ofIdent, double, WellFormed]
  have other : ofIdent ident = (integer? ident).getD (.named ident) := by
    simp [ofIdent, void, single, double]
  cases integer : integer? ident with
  | some type =>
      rw [other, integer]
      exact wellFormed_of_integer? integer
  | none =>
      rw [integer] at other
      rw [other]
      exact ⟨word, other⟩

structure Variable.WellFormed (param : Variable) : Prop where
  base : param.base.WellFormed
  name : isIdentifier param.name = true

structure Variable.WellFormedType (type : Variable) : Prop where
  base : type.base.WellFormed
  bare : type.name = ""

structure Call.WellFormed (call : Call) : Prop where
  name : isIdentifier call.name = true
  params : ∀ param ∈ call.params, param.WellFormed
  result : call.result.WellFormedType

theorem Variable.WellFormed.lengthCompanion {param : Variable} (fit : param.WellFormed) :
    param.lengthCompanion.WellFormed where
  base := ⟨by decide, by decide⟩
  name := isIdentifier_append fit.name (by decide)

private theorem Variable.withLengths_wellFormed {params : List Variable}
    (fit : ∀ param ∈ params, param.WellFormed) :
    ∀ param ∈ withLengths params, param.WellFormed := by
  intro param member
  obtain ⟨source, inside, member⟩ := List.mem_flatMap.mp member
  split at member
  · rcases List.mem_cons.mp member with rfl | member
    · exact fit param inside
    · rw [List.mem_singleton.mp member]
      exact (fit source inside).lengthCompanion
  · rw [List.mem_singleton.mp member]
    exact fit source inside

/-! ## Blocks of the reader -/

namespace Spec

def Statement.Sound : Statement → Prop
  | .param declared => declared.WellFormed
  | .result type => type.WellFormedType
  | .flag _ => True

structure Block.Sound (block : Block) : Prop where
  name : isIdentifier block.name = true
  statements : ∀ statement ∈ block.statements, statement.Sound

theorem Block.Sound.add {block : OpenBlock} (sound : block.block.Sound) {statement : Statement}
    (fit : statement.Sound) : (block.add statement).block.Sound where
  name := sound.name
  statements := by
    intro other member
    rcases List.mem_cons.mp (List.mem_reverse.mp member) with rfl | member
    · exact fit
    · exact sound.statements other (List.mem_reverse.mpr member)

theorem Block.Sound.call {block : Block} (sound : block.Sound) : block.call.WellFormed where
  name := sound.name
  params := by
    refine Variable.withLengths_wellFormed fun param member => ?_
    obtain ⟨statement, inside, read⟩ := List.mem_filterMap.mp member
    have fit := sound.statements statement inside
    cases statement with
    | param found =>
        cases read
        exact fit
    | result type => contradiction
    | flag flag => contradiction
  result := by
    change block.result.WellFormedType
    rw [Block.result]
    cases last : (block.statements.filterMap _).getLast? with
    | none => exact ⟨trivial, rfl⟩
    | some type =>
        obtain ⟨statement, inside, read⟩ :=
          List.mem_filterMap.mp (List.mem_of_getLast? last)
        have fit := sound.statements statement inside
        cases statement with
        | result found =>
            cases read
            exact fit
        | param param => contradiction
        | flag flag => contradiction

def Spot.Sound : Spot → Prop
  | .afterType _ type => type.WellFormedType
  | _ => True

def Place.Sound : Place → Prop
  | .outside => True
  | .named name _ => isIdentifier name = true
  | .inside block spot => block.block.Sound ∧ spot.Sound

structure Reader.Sound (reader : Reader) : Prop where
  closed : ∀ block ∈ reader.closed, block.Sound
  place : reader.place.Sound

namespace Reader.Sound

variable {reader next : Reader} {block : OpenBlock} {token : Token}

theorem within (sound : reader.Sound) {spot : Spot} (whole : block.block.Sound)
    (fit : spot.Sound) : (reader.within block spot).Sound :=
  ⟨sound.closed, whole, fit⟩

theorem close (sound : reader.Sound) (whole : block.block.Sound) :
    (reader.close block).Sound := by
  refine ⟨fun other member => ?_, trivial⟩
  rcases List.mem_cons.mp member with rfl | member
  · exact whole
  · exact sound.closed other member

theorem readKeyword (sound : reader.Sound) (whole : block.block.Sound) {line : Nat}
    {keyword : String} (read : reader.readKeyword block line keyword = .ok next) :
    next.Sound := by
  simp only [Reader.readKeyword] at read
  repeat' split at read
  all_goals cases read
  · exact sound.within whole trivial
  · exact sound.within whole trivial
  · exact sound.within (whole.add trivial) trivial

theorem readLineEnd (sound : reader.Sound) (whole : block.block.Sound)
    (read : reader.readLineEnd block token = .ok next) : next.Sound := by
  simp only [Reader.readLineEnd] at read
  split at read
  all_goals cases read
  · exact sound.within whole trivial
  · exact sound.close whole

theorem readAfterType (sound : reader.Sound) (whole : block.block.Sound) {use : TypeUse}
    {type : Variable} (fit : type.WellFormedType) (lexeme : token.lexeme.Sound)
    (read : reader.readAfterType block use type token = .ok next) : next.Sound := by
  simp only [Reader.readAfterType] at read
  split at read
  · split at read
    · cases read
      exact sound.within whole ⟨fit.base, fit.bare⟩
    · contradiction
  · next name found =>
      cases read
      rw [found] at lexeme
      exact sound.within (whole.add ⟨fit.base, lexeme⟩) trivial
  · contradiction
  · contradiction
  · contradiction
  · have added : (block.add (.result type)).block.Sound := whole.add fit
    exact sound.readLineEnd added read

theorem readInside (sound : reader.Sound) (whole : block.block.Sound) {spot : Spot}
    (fit : spot.Sound) (lexeme : token.lexeme.Sound)
    (read : reader.readInside block token spot = .ok next) : next.Sound := by
  cases spot with
  | statement =>
      simp only [Reader.readInside] at read
      split at read
      · cases read
        exact sound
      · cases read
        exact sound.close whole
      · contradiction
      · exact sound.readKeyword whole read
      · contradiction
  | lineEnd => exact sound.readLineEnd whole read
  | typeStart use =>
      simp only [Reader.readInside] at read
      split at read
      · next ident found =>
          rw [found] at lexeme
          split at read
          · cases read
            exact sound.within whole trivial
          · cases read
            exact sound.within whole ⟨BaseType.ofIdent_wellFormed lexeme, rfl⟩
      · contradiction
  | typeName use =>
      simp only [Reader.readInside] at read
      split at read
      · next ident found =>
          rw [found] at lexeme
          cases read
          exact sound.within whole ⟨BaseType.ofIdent_wellFormed lexeme, rfl⟩
      · contradiction
  | afterType use type => exact sound.readAfterType whole fit lexeme read

theorem step (sound : reader.Sound) (lexeme : token.lexeme.Sound)
    (read : reader.step token = .ok next) : next.Sound := by
  rw [Reader.step] at read
  split at read
  · split at read
    · cases read
      exact sound
    · cases read
      exact sound
    · next name found =>
        cases read
        rw [found] at lexeme
        exact ⟨sound.closed, lexeme⟩
    · contradiction
  · next name line here =>
      have named := sound.place
      rw [here] at named
      split at read
      · cases read
        exact sound
      · cases read
        exact sound.within ⟨named, by simp [OpenBlock.block]⟩ trivial
      · contradiction
  · next block spot here =>
      have inside := sound.place
      rw [here] at inside
      exact sound.readInside inside.1 inside.2 lexeme read

theorem run {tokens : List Token} (sound : reader.Sound)
    (lexemes : ∀ token ∈ tokens, token.lexeme.Sound)
    (faultless : (reader.run tokens).fault = none) :
    ∀ block ∈ (reader.run tokens).blocks, block.Sound := by
  induction tokens generalizing reader with
  | nil =>
      rw [Reader.run] at faultless ⊢
      cases read : reader.step ⟨.eof, 0⟩ with
      | error fault => simp [read, Reader.stop] at faultless
      | ok final =>
          have ended : Lexeme.Sound (Token.lexeme ⟨.eof, 0⟩) := trivial
          intro block member
          exact (sound.step ended read).closed block (List.mem_reverse.mp member)
  | cons token rest ih =>
      rw [Reader.run] at faultless ⊢
      cases read : reader.step token with
      | error fault => simp [read, Reader.stop] at faultless
      | ok following =>
          have kept := sound.step (lexemes token List.mem_cons_self) read
          simp only [read] at faultless ⊢
          split at faultless
          · next ended =>
              rw [if_pos ended]
              intro block member
              exact kept.closed block (List.mem_reverse.mp member)
          · next more =>
              rw [if_neg more]
              exact ih kept (fun other member => lexemes other (List.mem_cons_of_mem _ member))
                faultless

end Reader.Sound

theorem parse_ok {text : String} {table : CallTable} (parsed : parse text = .ok table) :
    ∃ tokens, scan text = .ok tokens ∧ (Reading.ofTokens tokens).fault = none ∧
      table.calls = (Reading.ofTokens tokens).blocks.map Block.call := by
  rw [parse] at parsed
  cases scanned : scan text with
  | error fault =>
      rw [scanned] at parsed
      contradiction
  | ok tokens =>
      rw [scanned] at parsed
      refine ⟨tokens, rfl, ?_⟩
      cases fault : (Reading.ofTokens tokens).fault with
      | some fault =>
          simp only [bind, Except.bind, Reading.calls, fault] at parsed
          contradiction
      | none =>
          simp only [bind, Except.bind, Reading.calls, fault] at parsed
          rw [CallTable.ofCalls] at parsed
          split at parsed
          · contradiction
          · cases parsed
            exact ⟨rfl, rfl⟩

/-- Every call of a table that comes from a spec is well formed. -/
theorem parse_wellFormed {text : String} {table : CallTable} (parsed : parse text = .ok table) :
    ∀ call ∈ table.calls, call.WellFormed := by
  obtain ⟨tokens, scanned, faultless, calls⟩ := parse_ok parsed
  have start : ({} : Reader).Sound := ⟨by simp, trivial⟩
  intro call member
  rw [calls] at member
  obtain ⟨block, inside, rfl⟩ := List.mem_map.mp member
  exact (start.run (scan_sound scanned) faultless block inside).call

end Spec

end CommandProtocol
