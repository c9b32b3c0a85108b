import CommandProtocol.Proofs.LineScan

/-!
# Layout

Spaces around a line, a carriage return before its end, a comment behind it and empty lines do
not change what a spec means.  Only the lines of faults move, by the line feeds that were put
in above them.
-/

namespace CommandProtocol.Spec

/-! ## Other layouts of a text -/

def IsSpacing (chars : List Char) : Prop := ∀ char ∈ chars, char = ' ' ∨ char = '\t'

inductive IsComment : List Char → Prop
  | hash {text : List Char} (single : '\n' ∉ text) : IsComment ('#' :: text)
  | slashes {text : List Char} (single : '\n' ∉ text) : IsComment ('/' :: '/' :: text)

inductive IsTail : List Char → Prop
  | spacing {chars : List Char} (blank : IsSpacing chars) : IsTail chars
  | carriageReturn : IsTail ['\r']
  | comment {chars : List Char} (noted : IsComment chars) : IsTail (' ' :: chars)

/--
What is put into the lines of a text, which are counted from one.  Any of it may be nothing,
so each kind of change can also be made alone.
-/
structure Relayout where
  leading : Nat → List Char
  trailing : Nat → List Char
  doubled : Nat → Bool
  leading_spacing : ∀ number, IsSpacing (leading number)
  trailing_tail : ∀ number, IsTail (trailing number)

namespace Relayout

/-- The rest of a text, from some place in the line with the given number. -/
def within (layout : Relayout) (number : Nat) : List Char → List Char
  | [] => layout.trailing number
  | char :: rest =>
      if char = '\n' then
        layout.trailing number ++ '\n' :: (List.replicate (layout.doubled number).toNat '\n' ++
          (layout.leading (number + 1) ++ layout.within (number + 1) rest))
      else
        char :: layout.within number rest

def apply (layout : Relayout) (text : String) : String :=
  String.ofList (layout.leading 1 ++ layout.within 1 text.toList)

/-- The new number of a line, which moves down by the line feeds that are doubled above it. -/
def newLine (layout : Relayout) (number : Nat) : Nat :=
  number + (List.range' 1 (number - 1)).countP layout.doubled

variable {layout : Relayout} {number : Nat}

private theorem newLine_succ (positive : 0 < number) :
    layout.newLine (number + 1) = layout.newLine number + 1 + (layout.doubled number).toNat := by
  obtain ⟨earlier, rfl⟩ := Nat.exists_eq_add_one_of_ne_zero positive.ne'
  have above : List.range' 1 (earlier + 1) = List.range' 1 earlier ++ [earlier + 1] := by
    rw [List.range'_1_concat, Nat.add_comm 1 earlier]
  simp only [newLine, Nat.add_sub_cancel, above, List.countP_append, List.countP_singleton]
  cases layout.doubled (earlier + 1) <;> simp <;> omega

theorem within_append {line : List Char} (single : '\n' ∉ line) (rest : List Char) :
    layout.within number (line ++ rest) = line ++ layout.within number rest := by
  induction line with
  | nil => rfl
  | cons char line ih =>
      rw [List.mem_cons, not_or] at single
      rw [List.cons_append, within, if_neg (Ne.symm single.1), ih single.2, List.cons_append]

private theorem within_last {line : List Char} (single : '\n' ∉ line) :
    layout.within number line = line ++ layout.trailing number := by
  have whole : layout.within number (line ++ []) = _ := within_append single []
  simpa [within] using whole

private theorem within_newline (rest : List Char) :
    layout.within number ('\n' :: rest) = layout.trailing number ++
      '\n' :: (List.replicate (layout.doubled number).toNat '\n' ++
        (layout.leading (number + 1) ++ layout.within (number + 1) rest)) := by
  rw [within, if_pos rfl]

end Relayout

/-! ## What a line holds -/

theorem IsSpacing.blank {chars : List Char} (spaced : IsSpacing chars) {char : Char}
    (member : char ∈ chars) : char = ' ' ∨ char = '\t' ∨ char = '\r' := by
  rcases spaced char member with same | same
  · exact .inl same
  · exact .inr (.inl same)

theorem lexLine_blank {char : Char} (blank : char = ' ' ∨ char = '\t' ∨ char = '\r')
    (rest : List Char) :
    lexLine (beforeComment (char :: rest)) = lexLine (beforeComment rest) := by
  have other : char ≠ '#' ∧ char ≠ '/' := by rcases blank with rfl | rfl | rfl <;> decide
  rw [beforeComment_cons other, lexLine, if_pos blank]

theorem lexLine_spacing {spaces : List Char} (spaced : IsSpacing spaces) (rest : List Char) :
    lexLine (beforeComment (spaces ++ rest)) = lexLine (beforeComment rest) := by
  induction spaces with
  | nil => rfl
  | cons char spaces ih =>
      have later : IsSpacing spaces :=
        fun other member => spaced other (List.mem_cons_of_mem _ member)
      rw [List.cons_append, lexLine_blank (spaced.blank List.mem_cons_self), ih later]

namespace IsTail

variable {tail : List Char} (ended : IsTail tail)
include ended

theorem blank_head {char : Char} (first : char ∈ tail.head?) :
    char = ' ' ∨ char = '\t' ∨ char = '\r' := by
  cases ended with
  | spacing spaced => exact spaced.blank (List.mem_of_mem_head? first)
  | carriageReturn =>
      cases first
      exact .inr (.inr rfl)
  | comment noted =>
      cases first
      exact .inl rfl

theorem single : '\n' ∉ tail := by
  cases ended with
  | spacing spaced =>
      intro member
      rcases spaced _ member with same | same <;> contradiction
  | carriageReturn => decide
  | comment noted => cases noted <;> simpa

private theorem lexLine_eq_nil : lexLine (beforeComment tail) = .ok [] := by
  have nothing : lexLine (beforeComment []) = .ok [] := by rw [beforeComment, lexLine]
  cases ended with
  | spacing spaced => simpa [nothing] using lexLine_spacing spaced []
  | carriageReturn => rw [lexLine_blank (.inr (.inr rfl)), nothing]
  | comment noted =>
      rw [lexLine_blank (.inl rfl)]
      cases noted with
      | hash => rw [beforeComment, if_pos (.inl rfl), lexLine]
      | slashes => rw [beforeComment, if_pos (.inr ⟨rfl, rfl⟩), lexLine]

end IsTail

private theorem beforeComment_append_tail {tail : List Char} (ended : IsTail tail)
    (line : List Char) :
    beforeComment (line ++ tail) = beforeComment line ∨
      beforeComment (line ++ tail) = beforeComment line ++ beforeComment tail := by
  induction line with
  | nil => exact .inr rfl
  | cons char line ih =>
      -- a slash at the end of the line does not meet a second one
      have same : (line ++ tail).head? = some '/' ↔ line.head? = some '/' := by
        cases line with
        | cons next line => rfl
        | nil =>
            refine ⟨fun first => ?_, fun first => by contradiction⟩
            rcases ended.blank_head first with slash | slash | slash <;> contradiction
      simp only [List.cons_append, beforeComment, same]
      split
      · exact .inl rfl
      · rcases ih with kept | joined
        · exact .inl (congrArg _ kept)
        · exact .inr (congrArg _ joined)

private theorem lexLine_append {rest : List Char} (empty : lexLine rest = .ok [])
    (boundary : ∀ char ∈ rest.head?, isWordChar char = false) (line : List Char) :
    lexLine (line ++ rest) = lexLine line := by
  fun_induction lexLine line with
  | case1 => exact empty
  | case2 char line blank ih => rw [List.cons_append, lexLine, if_pos blank, ih]
  | case3 line blank ih => rw [List.cons_append, lexLine, if_neg blank, if_pos rfl, ih]
  | case4 line blank opening ih =>
      rw [List.cons_append, lexLine, if_neg blank, if_neg opening, if_pos rfl, ih]
  | case5 line blank opening closing ih =>
      rw [List.cons_append, lexLine, if_neg blank, if_neg opening, if_neg closing, if_pos rfl, ih]
  | case6 char line blank opening closing star letter ih =>
      rw [decide_isLetterOrDigit] at ih ⊢
      have continued : ∀ char ∈ line.takeWhile isWordChar, isWordChar char = true :=
        List.all_eq_true.mp List.all_takeWhile
      have stopped : ∀ char ∈ (line.dropWhile isWordChar ++ rest).head?,
          isWordChar char = false := by
        intro next first
        rw [List.head?_append, Option.mem_def, Option.or_eq_some_iff] at first
        rcases first with inside | ⟨-, behind⟩
        · exact isWordChar_head?_dropWhile line next inside
        · exact boundary next behind
      have whole : line ++ rest =
          line.takeWhile isWordChar ++ (line.dropWhile isWordChar ++ rest) := by
        rw [← List.append_assoc, List.takeWhile_append_dropWhile]
      rw [List.cons_append, whole, lexLine_word (isWordStart_iff.mpr letter) continued stopped, ih]
  | case7 char line blank opening closing star letter =>
      rw [List.cons_append, lexLine, if_neg blank, if_neg opening, if_neg closing, if_neg star,
        if_neg letter]

private theorem lexLine_surround {spaces tail : List Char} (spaced : IsSpacing spaces)
    (ended : IsTail tail) (line : List Char) :
    lexLine (beforeComment (spaces ++ (line ++ tail))) = lexLine (beforeComment line) := by
  have boundary : ∀ char ∈ (beforeComment tail).head?, isWordChar char = false := by
    intro char first
    rcases ended.blank_head (head?_beforeComment first) with rfl | rfl | rfl <;> rfl
  rw [lexLine_spacing spaced]
  rcases beforeComment_append_tail ended line with kept | joined
  · rw [kept]
  · rw [joined, lexLine_append ended.lexLine_eq_nil boundary]

/-! ## Scanning the other layout -/

namespace Scanner

def relocate (scanner : Scanner) (lines : Nat → Nat) : Scanner where
  reversed := scanner.reversed.map (Token.relocate lines)
  line := lines scanner.line
  mode := scanner.mode

variable {scanner : Scanner} {lines : Nat → Nat}

@[simp] theorem foldl_emit_relocate (lexemes : List Lexeme) :
    lexemes.foldl emit (scanner.relocate lines) = (lexemes.foldl emit scanner).relocate lines := by
  induction lexemes generalizing scanner with
  | nil => rfl
  | cons lexeme rest ih => exact @ih (scanner.emit lexeme)

theorem afterLine_relocate (found : Except Char (List Lexeme)) :
    (scanner.relocate lines).afterLine found =
      relocated lines (·.relocate lines) (scanner.afterLine found) := by
  cases found with
  | error char => rfl
  | ok lexemes => exact congrArg Except.ok (foldl_emit_relocate lexemes)

@[simp] theorem lineIsEmpty_relocate :
    (scanner.relocate lines).lineIsEmpty = scanner.lineIsEmpty := by
  obtain ⟨reversed, line, mode⟩ := scanner
  cases reversed <;> rfl

private theorem steps_newlines (between : scanner.mode = .between)
    (empty : scanner.lineIsEmpty = true) (count : Nat) (rest : List Char) :
    (List.replicate count '\n' ++ rest).foldlM step scanner =
      rest.foldlM step { scanner with line := scanner.line + count } := by
  induction count generalizing scanner with
  | zero => rfl
  | succ count ih =>
      -- an empty line leaves no token, so that only the line is counted
      have stepped : scanner.step '\n' = .ok { scanner with line := scanner.line + 1 } := by
        rw [step_of_between between]
        change Except.ok scanner.endLine = _
        rw [endLine, if_pos empty, ← between]
      have later := @ih { scanner with line := scanner.line + 1 } between empty
      rw [List.replicate_succ, List.cons_append, steps_cons stepped, later]
      simp only [Nat.add_assoc, Nat.add_comm 1]

private theorem endLine_relocate {count : Nat}
    (next : lines (scanner.line + 1) = lines scanner.line + 1 + count) :
    { (scanner.relocate lines).endLine with
      line := (scanner.relocate lines).endLine.line + count } =
      scanner.endLine.relocate lines := by
  rw [endLine, endLine, lineIsEmpty_relocate]
  split <;> simp [relocate, emit, next, Token.relocate]

end Scanner

section Scan

variable (layout : Relayout)

namespace Relayout

theorem single {line : List Char} (single : '\n' ∉ line) (number : Nat) :
    '\n' ∉ layout.leading number ++ (line ++ layout.trailing number) := by
  have before : '\n' ∉ layout.leading number :=
    (IsTail.spacing (layout.leading_spacing number)).single
  have after : '\n' ∉ layout.trailing number := (layout.trailing_tail number).single
  simp [before, single, after]

theorem lexLine_line (number : Nat) (line : List Char) :
    lexLine (beforeComment (layout.leading number ++ (line ++ layout.trailing number))) =
      lexLine (beforeComment line) :=
  lexLine_surround (layout.leading_spacing number) (layout.trailing_tail number) line

end Relayout

private theorem scan_within {scanner : Scanner} (between : scanner.mode = .between)
    (empty : scanner.lineIsEmpty = true) (positive : 0 < scanner.line) (chars : List Char) :
    ((layout.leading scanner.line ++ layout.within scanner.line chars).foldlM Scanner.step
        (scanner.relocate layout.newLine)).bind Scanner.finish =
      relocated layout.newLine (List.map (Token.relocate layout.newLine))
        ((chars.foldlM Scanner.step scanner).bind Scanner.finish) := by
  induction chars using induction_on_lines generalizing scanner with
  | last line single =>
      have there : (scanner.relocate layout.newLine).mode = .between := between
      rw [Relayout.within_last single, steps_last there (layout.single single _),
        layout.lexLine_line, Scanner.afterLine_relocate, steps_last between single]
      cases scanner.afterLine (lexLine (beforeComment line)) with
      | error fault => rfl
      | ok settled =>
          refine congrArg Except.ok ?_
          simp [Scanner.emit, Scanner.relocate, Token.relocate]
  | more line rest single ih =>
      have there : (scanner.relocate layout.newLine).mode = .between := between
      rw [Relayout.within_append single, Relayout.within_newline, ← List.append_assoc line,
        ← List.append_assoc (layout.leading scanner.line),
        steps_append_newline there (layout.single single _), layout.lexLine_line,
        Scanner.afterLine_relocate, steps_append_newline between single]
      -- both lines hold the same, so both scanners stop here or both reach the line feed
      cases lexLine (beforeComment line) with
      | error char => rfl
      | ok lexemes =>
          have same : (lexemes.foldl Scanner.emit scanner).line = scanner.line := by
            rw [Scanner.foldl_emit between]
          have next : layout.newLine (scanner.line + 1) = _ := Relayout.newLine_succ positive
          rw [← same] at next ⊢
          change ((_ : List Char).foldlM Scanner.step
            ((lexemes.foldl Scanner.emit scanner).relocate layout.newLine).endLine).bind _ = _
          rw [Scanner.steps_newlines rfl (Scanner.lineIsEmpty_endLine _),
            Scanner.endLine_relocate next]
          exact ih rfl (Scanner.lineIsEmpty_endLine _) (Nat.succ_pos _)

private theorem scan_apply (text : String) :
    scan (layout.apply text) =
      relocated layout.newLine (List.map (Token.relocate layout.newLine)) (scan text) := by
  rw [scan, Relayout.apply, String.toList_ofList]
  exact @scan_within layout {} rfl rfl Nat.one_pos text.toList

end Scan

/-! ## Reading the other layout -/

section Parsing

variable (layout : Relayout) (text : String)

private theorem readCalls_apply :
    readCalls (layout.apply text) = relocated layout.newLine id (readCalls text) := by
  rw [readCalls, scan_apply, readCalls]
  cases scanned : scan text with
  | error fault => rfl
  | ok tokens =>
      exact @Reading.calls_relocate [] tokens {} rfl rfl (by simp) (scan_terminated scanned)
        layout.newLine

private theorem parse_apply :
    parse (layout.apply text) = relocated layout.newLine id (parse text) := by
  rw [parse_eq, readCalls_apply, parse_eq]
  refine relocated_bind _ fun calls => ?_
  -- names are compared last, and a repeated one is reported without a line
  cases built : CallTable.ofCalls calls with
  | ok table => exact built
  | error fault =>
      obtain ⟨name, rfl⟩ := CallTable.duplicateCall_of_ofCalls built
      exact built

/--
A text in another layout has the same table.  A fault is the same fault, at a line that has
moved down by the line feeds that were put in above it.
-/
theorem parse_relayout :
    (∀ table, parse (layout.apply text) = .ok table ↔ parse text = .ok table) ∧
      ∀ fault, parse text = .error fault →
        parse (layout.apply text) = .error (fault.mapLine layout.newLine) := by
  rw [parse_apply]
  cases parse text with
  | ok table => exact ⟨fun _ => Iff.rfl, fun _ failed => by contradiction⟩
  | error fault =>
      refine ⟨fun _ => ⟨fun parsed => by contradiction, fun parsed => by contradiction⟩, ?_⟩
      intro other failed
      cases failed
      rfl

end Parsing

def crowdedLayout : Relayout where
  leading number := if number = 2 then ['\t'] else []
  trailing number := if number = 1 then " // x".toList else if number = 2 then ['\r'] else []
  doubled number := number = 1 || number = 2
  leading_spacing number := by
    split
    · simp [IsSpacing]
    · simp [IsSpacing]
  trailing_tail number := by
    split
    · exact .comment (.slashes (by decide))
    · split
      · exact .carriageReturn
      · exact .spacing (by simp [IsSpacing])

/-- The fault is found at the end of the second line, whose line feed is doubled itself. -/
theorem parse_relayout_crowded :
    crowdedLayout.apply "Get \x7b\n param x\n\x7d" = "Get \x7b // x\n\n\t param x\r\n\n\x7d" ∧
      parse "Get \x7b\n param x\n\x7d" = .error (.missingParamName 2 "Get") ∧
      parse "Get \x7b // x\n\n\t param x\r\n\n\x7d" = .error (.missingParamName 3 "Get") := by
  have relaid : crowdedLayout.apply "Get \x7b\n param x\n\x7d" =
      "Get \x7b // x\n\n\t param x\r\n\n\x7d" := rfl
  have failed : parse "Get \x7b\n param x\n\x7d" = .error (.missingParamName 2 "Get") := rfl
  exact ⟨relaid, failed, relaid ▸ (parse_relayout crowdedLayout _).2 _ failed⟩

end CommandProtocol.Spec
