import CommandProtocol.Proofs.Concatenation
import CommandProtocol.Proofs.SpecText
import Mathlib.Data.List.Chain

/-!
# Scanning line by line

The scanner reads a text as one run of characters.  The same tokens are found line by line:
each line is cut at its comment, taken apart into words and symbols, and closed by a line end
if it holds any.  The first character that is part of no word or symbol is the fault.
-/

namespace CommandProtocol

instance : DecidablePred IsLetter := fun _ => inferInstanceAs (Decidable (_ ∨ _))

instance : DecidablePred IsLetterOrDigit := fun _ => inferInstanceAs (Decidable (_ ∨ _))

namespace Spec

/-! ## Lines -/

def beforeComment : List Char → List Char
  | [] => []
  | char :: rest =>
      if char = '#' ∨ char = '/' ∧ rest.head? = some '/' then []
      else char :: beforeComment rest

def lexLine : List Char → Except Char (List Lexeme)
  | [] => .ok []
  | char :: rest =>
      if char = ' ' ∨ char = '\t' ∨ char = '\r' then lexLine rest
      else if char = '\x7b' then (lexLine rest).map (.openBrace :: ·)
      else if char = '\x7d' then (lexLine rest).map (.closeBrace :: ·)
      else if char = '*' then (lexLine rest).map (.star :: ·)
      else if IsLetter char then
        (lexLine (rest.dropWhile fun next => IsLetterOrDigit next)).map
          (.ident (String.ofList (char :: rest.takeWhile fun next => IsLetterOrDigit next)) :: ·)
      else .error char
termination_by chars => chars.length
decreasing_by
  all_goals have shorter :=
    (List.dropWhile_sublist (l := rest) fun next => decide (IsLetterOrDigit next)).length_le
  all_goals simp only [List.length_cons]
  all_goals omega

def lineTokens (count number : Nat) (chars : List Char) : Except SpecError (List Token) :=
  match lexLine (beforeComment chars) with
  | .error char => .error (.unexpectedChar number char)
  | .ok lexemes => .ok (lexemes.map (⟨·, number⟩) ++
      if number < count ∧ lexemes ≠ [] then [⟨.newline, number⟩] else [])

def scanLines (text : String) : Except SpecError (List Token) := do
  let lines := text.toList.splitOn '\n'
  let parts ← (lines.zipIdx 1).mapM fun (chars, number) => lineTokens lines.length number chars
  return parts.flatten ++ [⟨.eof, lines.length⟩]

/-! ## The end of a line -/

namespace Scanner

/-- What the end of a line or of the text finds first: a word ends here, a slash stays alone. -/
def settle (scanner : Scanner) : Except SpecError Scanner :=
  match scanner.mode with
  | .slash => .error (.unexpectedChar scanner.line '/')
  | _ => .ok { scanner.endWord with mode := .between }

private theorem settle_of_between {scanner : Scanner} (between : scanner.mode = .between) :
    scanner.settle = .ok scanner := by
  obtain ⟨reversed, line, mode⟩ := scanner
  cases between
  rfl

theorem settle_comment {scanner : Scanner} (between : scanner.mode = .between) :
    settle { scanner with mode := .comment } = .ok scanner := by
  obtain ⟨reversed, line, mode⟩ := scanner
  cases between
  rfl

@[simp] theorem endLine_mode (scanner : Scanner) (mode : ScanMode) :
    endLine { scanner with mode } = scanner.endLine := by
  have same : lineIsEmpty { scanner with mode } = scanner.lineIsEmpty := rfl
  rw [endLine, endLine, same]
  split <;> rfl

private theorem step_newline_eq (scanner : Scanner) :
    scanner.step '\n' = scanner.settle.map endLine := by
  obtain ⟨reversed, line, mode⟩ := scanner
  cases mode with
  | between => rfl
  | word letters => rfl
  | slash => rfl
  | comment => exact congrArg Except.ok (endLine_mode ⟨reversed, line, .between⟩ .comment)

private theorem finish_eq (scanner : Scanner) :
    scanner.finish = scanner.settle.map fun settled => (settled.emit .eof).reversed.reverse := by
  obtain ⟨reversed, line, mode⟩ := scanner
  cases mode <;> rfl

theorem steps_comment {scanner : Scanner} (inside : scanner.mode = .comment) {chars : List Char}
    (single : '\n' ∉ chars) : chars.foldlM step scanner = .ok scanner := by
  induction chars with
  | nil => rfl
  | cons char rest ih =>
      rw [List.mem_cons, not_or] at single
      have stepped : scanner.step char = .ok scanner := by
        rw [step, inside]
        exact if_neg (Ne.symm single.1)
      rw [steps_cons stepped, ih single.2]

private theorem settle_endWord {scanner : Scanner} {letters : List Char}
    (inside : scanner.mode = .word letters) {rest : List Char}
    (boundary : ∀ char ∈ rest.head?, isWordChar char = false) :
    (rest.foldlM step scanner).bind settle = (rest.foldlM step scanner.endWord).bind settle := by
  obtain ⟨reversed, line, mode⟩ := scanner
  cases inside
  cases rest with
  | nil => rfl
  | cons char rest =>
      have outside : isWordChar char = false := boundary char rfl
      have settled : Settled ⟨reversed, line, .word letters⟩ := .inr ⟨letters, rfl⟩
      rw [List.foldlM_cons, List.foldlM_cons, settled.step outside, Scanner.step,
        settled.endWord_mode]

end Scanner

/-! ## One line -/

private theorem beforeComment_append {letters rest : List Char}
    (continued : ∀ letter ∈ letters, isWordChar letter = true) :
    beforeComment (letters ++ rest) = letters ++ beforeComment rest := by
  induction letters with
  | nil => rfl
  | cons letter letters ih =>
      rw [List.forall_mem_cons] at continued
      have other : ¬ (letter = '#' ∨ letter = '/' ∧ (letters ++ rest).head? = some '/') := by
        rintro (rfl | ⟨rfl, -⟩)
        · exact absurd continued.1 (by decide)
        · exact absurd continued.1 (by decide)
      rw [List.cons_append, beforeComment, if_neg other, ih continued.2, List.cons_append]

theorem head?_beforeComment {chars : List Char} {char : Char}
    (first : char ∈ (beforeComment chars).head?) : char ∈ chars.head? := by
  cases chars with
  | nil => contradiction
  | cons other rest =>
      rw [beforeComment] at first
      split at first
      · contradiction
      · exact first

def Scanner.afterLine (scanner : Scanner) : Except Char (List Lexeme) → Except SpecError Scanner
  | .ok lexemes => .ok (lexemes.foldl emit scanner)
  | .error char => .error (.unexpectedChar scanner.line char)

theorem Scanner.afterLine_cons (scanner : Scanner) (lexeme : Lexeme)
    (later : Except Char (List Lexeme)) :
    scanner.afterLine (later.map (lexeme :: ·)) = (scanner.emit lexeme).afterLine later := by
  cases later <;> rfl

theorem Scanner.step_of_between {scanner : Scanner} (between : scanner.mode = .between)
    (char : Char) : scanner.step char = scanner.start char := by
  rw [step, between]

theorem beforeComment_cons {char : Char} (other : char ≠ '#' ∧ char ≠ '/') (rest : List Char) :
    beforeComment (char :: rest) = char :: beforeComment rest := by
  rw [beforeComment, if_neg]
  rintro (same | ⟨same, -⟩)
  · exact other.1 same
  · exact other.2 same

section Line

variable {rest : List Char} {scanner : Scanner}

/-- What is proved of a line, by induction on its characters. -/
def LineScans (chars : List Char) : Prop :=
  ∀ scanner : Scanner, scanner.mode = .between →
    (chars.foldlM Scanner.step scanner).bind Scanner.settle =
      scanner.afterLine (lexLine (beforeComment chars))

private theorem lineScans_comment (single : '\n' ∉ rest) : LineScans ('#' :: rest) := by
  intro scanner between
  have stepped : scanner.step '#' = .ok { scanner with mode := .comment } :=
    Scanner.step_of_between between '#'
  rw [Scanner.steps_cons stepped, Scanner.steps_comment rfl single, beforeComment,
    if_pos (.inl rfl), lexLine]
  exact Scanner.settle_comment between

private theorem lineScans_slash (single : '\n' ∉ rest) : LineScans ('/' :: rest) := by
  intro scanner between
  have stepped : scanner.step '/' = .ok { scanner with mode := .slash } :=
    Scanner.step_of_between between '/'
  have alone (chars : List Char) : scanner.afterLine (lexLine ('/' :: chars)) =
      .error (.unexpectedChar scanner.line '/') := by
    rw [lexLine]
    rfl
  rw [Scanner.steps_cons stepped]
  cases rest with
  | nil => exact (alone []).symm
  | cons next rest =>
      rw [List.mem_cons, not_or] at single
      by_cases second : next = '/'
      · subst second
        have commented : Scanner.step { scanner with mode := .slash } '/' =
            .ok { scanner with mode := .comment } := rfl
        rw [Scanner.steps_cons commented, Scanner.steps_comment rfl single.2, beforeComment,
          if_pos (.inr ⟨rfl, rfl⟩), lexLine]
        exact Scanner.settle_comment between
      · have failed : Scanner.step { scanner with mode := .slash } next =
            .error (.unexpectedChar scanner.line '/') := if_neg second
        have kept : ¬ ('/' = '#' ∨ '/' = '/' ∧ (next :: rest).head? = some '/') := by
          simpa using second
        rw [List.foldlM_cons, failed, beforeComment, if_neg kept, alone]
        rfl

private theorem lineScans_blank {char : Char} (blank : char = ' ' ∨ char = '\t' ∨ char = '\r')
    (later : LineScans rest) : LineScans (char :: rest) := by
  intro scanner between
  have other : char ≠ '#' ∧ char ≠ '/' := by rcases blank with rfl | rfl | rfl <;> decide
  have stepped : scanner.step char = .ok scanner := by
    rw [Scanner.step_of_between between]
    rcases blank with rfl | rfl | rfl <;> rfl
  rw [Scanner.steps_cons stepped, later scanner between, beforeComment_cons other, lexLine,
    if_pos blank]

theorem lineScans_symbol {char : Char} {lexeme : Lexeme} (other : char ≠ '#' ∧ char ≠ '/')
    (started : ∀ scanner : Scanner, scanner.start char = .ok (scanner.emit lexeme))
    (lexed : ∀ chars, lexLine (char :: chars) = (lexLine chars).map (lexeme :: ·))
    (later : LineScans rest) : LineScans (char :: rest) := by
  intro scanner between
  have stepped : scanner.step char = .ok (scanner.emit lexeme) :=
    (Scanner.step_of_between between char).trans (started scanner)
  rw [Scanner.steps_cons stepped, later (scanner.emit lexeme) rfl, beforeComment_cons other, lexed,
    Scanner.afterLine_cons]

theorem decide_isLetterOrDigit :
    (fun char => decide (IsLetterOrDigit char)) = isWordChar := by
  funext char
  rw [Bool.eq_iff_iff, decide_eq_true_iff, isWordChar_iff]

theorem lexLine_word {first : Char} (letter : isWordStart first = true) {word rest : List Char}
    (continued : ∀ char ∈ word, isWordChar char = true)
    (boundary : ∀ char ∈ rest.head?, isWordChar char = false) :
    lexLine (first :: (word ++ rest)) =
      (lexLine rest).map (.ident (String.ofList (first :: word)) :: ·) := by
  have other (symbol : Char) (not_letter : isWordStart symbol = false) : first ≠ symbol := by
    rintro rfl
    rw [letter] at not_letter
    contradiction
  have stopped : rest.takeWhile isWordChar = [] ∧ rest.dropWhile isWordChar = rest := by
    cases rest with
    | nil => exact ⟨rfl, rfl⟩
    | cons char rest =>
        have outside : isWordChar char = false := boundary char rfl
        simp [outside]
  rw [lexLine]
  simp only [decide_isLetterOrDigit, List.takeWhile_append_of_pos continued,
    List.dropWhile_append_of_pos continued, stopped, List.append_nil, isWordStart_iff.mp letter,
    other ' ' rfl, other '\t' rfl, other '\r' rfl, other '\x7b' rfl, other '\x7d' rfl,
    other '*' rfl, or_self, if_true, if_false]

theorem isWordChar_head?_dropWhile (rest : List Char) :
    ∀ char ∈ (rest.dropWhile isWordChar).head?, isWordChar char = false := by
  intro char first
  have stopped := List.head?_dropWhile_not isWordChar rest
  rw [Option.mem_def.mp first] at stopped
  simpa using stopped

private theorem lineScans_word {first : Char} (letter : isWordStart first = true)
    (later : LineScans (rest.dropWhile isWordChar)) : LineScans (first :: rest) := by
  intro scanner between
  have continued : ∀ char ∈ rest.takeWhile isWordChar, isWordChar char = true :=
    List.all_eq_true.mp List.all_takeWhile
  have boundary := isWordChar_head?_dropWhile rest
  have stepped : scanner.step first = .ok { scanner with mode := .word [first] } :=
    (Scanner.step_of_between between first).trans (Scanner.start_of_isWordStart letter)
  have ended : Scanner.endWord { scanner with
        mode := .word ((rest.takeWhile isWordChar).reverse ++ [first]) } =
      scanner.emit (.ident (String.ofList (first :: rest.takeWhile isWordChar))) := by
    simp [Scanner.endWord, Scanner.emit]
  have cut : beforeComment (first :: rest) = first :: (rest.takeWhile isWordChar ++
      beforeComment (rest.dropWhile isWordChar)) := by
    have whole : first :: rest =
        (first :: rest.takeWhile isWordChar) ++ rest.dropWhile isWordChar := by simp
    rw [whole, beforeComment_append, List.cons_append]
    exact List.forall_mem_cons.mpr ⟨isWordChar_of_isWordStart letter, continued⟩
  have apart := fun char first => boundary char (head?_beforeComment first)
  rw [cut, lexLine_word letter continued apart, Scanner.afterLine_cons, ← later _ rfl,
    Scanner.steps_cons stepped, ← ended, ← Scanner.settle_endWord rfl boundary]
  nth_rewrite 1 [← List.takeWhile_append_dropWhile (p := isWordChar) (l := rest)]
  rw [Scanner.steps_append (Scanner.steps_word _ _ rfl continued)]

end Line

theorem lineScans {chars : List Char} (single : '\n' ∉ chars) : LineScans chars := by
  induction size : chars.length using Nat.strong_induction_on generalizing chars with
  | _ size ih =>
      cases chars with
      | nil =>
          intro scanner between
          rw [beforeComment, lexLine]
          exact Scanner.settle_of_between between
      | cons char rest =>
          rw [List.mem_cons, not_or] at single
          -- a line is read on behind a character or behind a whole word
          have later {part : List Char} (inside : part.Sublist rest) : LineScans part := by
            have shorter := inside.length_le
            rw [List.length_cons] at size
            exact ih part.length (by omega) (fun member => single.2 (inside.mem member)) rfl
          by_cases hash : char = '#'
          · subst hash
            exact lineScans_comment single.2
          by_cases slash : char = '/'
          · subst slash
            exact lineScans_slash single.2
          by_cases blank : char = ' ' ∨ char = '\t' ∨ char = '\r'
          · exact lineScans_blank blank (later (.refl rest))
          by_cases opening : char = '\x7b'
          · subst opening
            exact lineScans_symbol (by decide) (fun _ => rfl) (fun _ => by rw [lexLine]; rfl)
              (later (.refl rest))
          by_cases closing : char = '\x7d'
          · subst closing
            exact lineScans_symbol (by decide) (fun _ => rfl) (fun _ => by rw [lexLine]; rfl)
              (later (.refl rest))
          by_cases star : char = '*'
          · subst star
            exact lineScans_symbol (by decide) (fun _ => rfl) (fun _ => by rw [lexLine]; rfl)
              (later (.refl rest))
          by_cases letter : isWordStart char = true
          · exact lineScans_word letter (later (List.dropWhile_sublist _))
          · intro scanner between
            have failed : scanner.step char = .error (.unexpectedChar scanner.line char) := by
              rw [Scanner.step_of_between between, Scanner.start, if_neg hash, if_neg slash,
                if_neg (Ne.symm single.1), if_neg blank, if_neg opening, if_neg closing,
                if_neg star, if_neg letter]
            rw [List.foldlM_cons, failed, beforeComment_cons ⟨hash, slash⟩, lexLine, if_neg blank,
              if_neg opening, if_neg closing, if_neg star, if_neg (mt isWordStart_iff.mpr letter)]
            rfl

/-! ## All lines -/

def InLine (lexemes : List Lexeme) : Prop := .newline ∉ lexemes ∧ .eof ∉ lexemes

theorem InLine.cons {lexeme : Lexeme} (proper : lexeme ≠ .newline ∧ lexeme ≠ .eof)
    {later : Except Char (List Lexeme)} (inside : ∀ rest, later = .ok rest → InLine rest)
    {lexemes : List Lexeme} (lexed : later.map (lexeme :: ·) = .ok lexemes) : InLine lexemes := by
  cases later with
  | error char => contradiction
  | ok rest =>
      cases lexed
      obtain ⟨line, text⟩ := inside rest rfl
      constructor
      · simpa [line] using proper.1.symm
      · simpa [text] using proper.2.symm

theorem inLine_of_lexLine {chars : List Char} :
    ∀ lexemes, lexLine chars = .ok lexemes → InLine lexemes := by
  fun_induction lexLine chars with
  | case1 =>
      intro lexemes lexed
      cases lexed
      exact ⟨List.not_mem_nil, List.not_mem_nil⟩
  | case2 char rest blank ih => exact ih
  | case3 rest blank ih => exact fun _ => .cons (by simp) ih
  | case4 rest blank opening ih => exact fun _ => .cons (by simp) ih
  | case5 rest blank opening closing ih => exact fun _ => .cons (by simp) ih
  | case6 char rest blank opening closing star letter ih => exact fun _ => .cons (by simp) ih
  | case7 =>
      intro lexemes lexed
      contradiction

def closedLine (number : Nat) (lexemes : List Lexeme) : List Token :=
  lexemes.map (⟨·, number⟩) ++ if lexemes ≠ [] then [⟨.newline, number⟩] else []

namespace Scanner

theorem foldl_emit {scanner : Scanner} (between : scanner.mode = .between)
    (lexemes : List Lexeme) :
    lexemes.foldl emit scanner = { scanner with
      reversed := (lexemes.map (⟨·, scanner.line⟩)).reverse ++ scanner.reversed } := by
  induction lexemes generalizing scanner with
  | nil => rfl
  | cons lexeme rest ih =>
      rw [List.foldl_cons, ih rfl]
      simp [emit, between]

@[simp] theorem lineIsEmpty_endLine (scanner : Scanner) : scanner.endLine.lineIsEmpty = true := by
  rw [endLine]
  split
  · next empty => exact empty
  · rfl

private theorem endLine_foldl_emit {scanner : Scanner} (between : scanner.mode = .between)
    (empty : scanner.lineIsEmpty = true) {lexemes : List Lexeme} (inside : InLine lexemes) :
    (lexemes.foldl emit scanner).endLine =
      { reversed := (closedLine scanner.line lexemes).reverse ++ scanner.reversed
        line := scanner.line + 1
        mode := .between } := by
  obtain rfl | ⟨earlier, last, rfl⟩ := lexemes.eq_nil_or_concat
  · rw [List.foldl_nil, endLine, if_pos empty]
    rfl
  · rw [List.concat_eq_append] at inside ⊢
    have filled : lineIsEmpty { scanner with
        reversed := ((earlier ++ [last]).map (Token.mk · scanner.line)).reverse ++
          scanner.reversed } = false := by
      have proper : last ≠ .newline := fun same => inside.1 (by simp [same])
      simpa [lineIsEmpty] using proper
    rw [foldl_emit between, endLine, filled]
    simp [emit, closedLine]

end Scanner

def partsFrom (count number : Nat) (lines : List (List Char)) :
    Except SpecError (List (List Token)) :=
  (lines.zipIdx number).mapM fun (chars, number) => lineTokens count number chars

@[simp] theorem partsFrom_cons (count number : Nat) (line : List Char) (rest : List (List Char)) :
    partsFrom count number (line :: rest) = (lineTokens count number line).bind fun part =>
      (partsFrom count (number + 1) rest).map (part :: ·) := by
  rw [partsFrom, List.zipIdx_cons, List.mapM_cons]
  rfl

private theorem partsFrom_cons_eq_ok {count number : Nat} {line : List Char}
    {rest : List (List Char)}
    {parts : List (List Token)} (found : partsFrom count number (line :: rest) = .ok parts) :
    ∃ lexemes later, lexLine (beforeComment line) = .ok lexemes ∧
      partsFrom count (number + 1) rest = .ok later ∧
      parts = (lexemes.map (⟨·, number⟩) ++
        if number < count ∧ lexemes ≠ [] then [⟨.newline, number⟩] else []) :: later := by
  rw [partsFrom_cons] at found
  obtain ⟨part, first, found⟩ := exists_of_bind_eq_ok found
  cases lexed : lexLine (beforeComment line) with
  | error char =>
      rw [lineTokens, lexed] at first
      contradiction
  | ok lexemes =>
      rw [lineTokens, lexed] at first
      cases first
      cases others : partsFrom count (number + 1) rest with
      | error fault =>
          rw [others] at found
          contradiction
      | ok later =>
          rw [others] at found
          cases found
          exact ⟨lexemes, later, rfl, rfl, rfl⟩

theorem scanLines_eq (text : String) :
    scanLines text = (partsFrom (text.toList.splitOn '\n').length 1 (text.toList.splitOn '\n')).map
      fun parts => parts.flatten ++ [⟨.eof, (text.toList.splitOn '\n').length⟩] := rfl

section Text

variable {scanner : Scanner}

/-- A text is a last line, or a line with its end and then a text. -/
@[elab_as_elim]
theorem induction_on_lines {motive : List Char → Prop} (chars : List Char)
    (last : ∀ line, '\n' ∉ line → motive line)
    (more : ∀ line rest, '\n' ∉ line → motive rest → motive (line ++ '\n' :: rest)) :
    motive chars := by
  induction size : chars.length using Nat.strong_induction_on generalizing chars with
  | _ length ih =>
      by_cases broken : '\n' ∈ chars
      · obtain ⟨line, rest, rfl, single⟩ := List.eq_append_cons_of_mem broken
        have shorter : rest.length < length := by
          rw [← size, List.length_append, List.length_cons]
          omega
        exact more line rest single (ih rest.length shorter rest rfl)
      · exact last chars broken

theorem steps_append_newline (between : scanner.mode = .between) {line : List Char}
    (single : '\n' ∉ line) (rest : List Char) :
    ((line ++ '\n' :: rest).foldlM Scanner.step scanner).bind Scanner.finish =
      (scanner.afterLine (lexLine (beforeComment line))).bind fun settled =>
        (rest.foldlM Scanner.step settled.endLine).bind Scanner.finish := by
  rw [← lineScans single scanner between, List.foldlM_append]
  cases line.foldlM Scanner.step scanner with
  | error fault => rfl
  | ok next =>
      change ((('\n' :: rest).foldlM Scanner.step next).bind Scanner.finish) =
        next.settle.bind fun settled =>
          (rest.foldlM Scanner.step settled.endLine).bind Scanner.finish
      rw [List.foldlM_cons, Scanner.step_newline_eq]
      cases next.settle <;> rfl

theorem steps_last (between : scanner.mode = .between) {line : List Char} (single : '\n' ∉ line) :
    (line.foldlM Scanner.step scanner).bind Scanner.finish =
      (scanner.afterLine (lexLine (beforeComment line))).map fun settled =>
        (settled.emit .eof).reversed.reverse := by
  rw [← lineScans single scanner between]
  cases line.foldlM Scanner.step scanner with
  | error fault => rfl
  | ok next => exact next.finish_eq

private theorem scan_from {chars : List Char} (between : scanner.mode = .between)
    (empty : scanner.lineIsEmpty = true) {count : Nat}
    (total : count + 1 = scanner.line + (chars.splitOn '\n').length) :
    (chars.foldlM Scanner.step scanner).bind Scanner.finish =
      (partsFrom count scanner.line (chars.splitOn '\n')).map fun parts =>
        scanner.reversed.reverse ++ (parts.flatten ++ [⟨.eof, count⟩]) := by
  induction chars using induction_on_lines generalizing scanner with
  | more line rest single ih =>
      rw [List.splitOn_append_cons_self_of_not_mem single] at total ⊢
      rw [List.length_cons] at total
      have present := List.length_pos_of_ne_nil (List.splitOn_ne_nil '\n' rest)
      have before : scanner.line < count := by omega
      rw [steps_append_newline between single, partsFrom_cons, lineTokens]
      cases lexed : lexLine (beforeComment line) with
      | error char => rfl
      | ok lexemes =>
          have ended := Scanner.endLine_foldl_emit between empty (inLine_of_lexLine _ lexed)
          have remaining : count + 1 = (lexemes.foldl Scanner.emit scanner).endLine.line +
              (rest.splitOn '\n').length := by
            rw [ended]
            dsimp only
            omega
          have later := ih (by rw [ended]) (Scanner.lineIsEmpty_endLine _) remaining
          refine later.trans ?_
          rw [ended]
          simp only [before, true_and]
          change _ = ((partsFrom count (scanner.line + 1) (rest.splitOn '\n')).map
            (closedLine scanner.line lexemes :: ·)).map _
          cases partsFrom count (scanner.line + 1) (rest.splitOn '\n') with
          | error fault => rfl
          | ok parts =>
              refine congrArg Except.ok ?_
              simp
  | last line single =>
      rw [List.splitOn_eq_singleton single] at total ⊢
      have last : count = scanner.line := by simpa using total
      subst last
      rw [steps_last between single, partsFrom_cons, lineTokens]
      cases lexLine (beforeComment line) with
      | error char => rfl
      | ok lexemes =>
          refine congrArg Except.ok ?_
          rw [Scanner.foldl_emit between]
          simp [Scanner.emit]

end Text

/-! ## Line ends apart -/

def Follows (first second : Token) : Prop := second.lexeme = .newline → first.lexeme ≠ .newline

section Follows

variable {rest : List Token} (later : ∀ previous, List.IsChain Follows (previous :: rest))
include later

theorem isChain_lexemes {lexemes : List Lexeme} (single : .newline ∉ lexemes) (number : Nat)
    (previous : Token) :
    List.IsChain Follows (previous :: (lexemes.map (⟨·, number⟩) ++ rest)) := by
  induction lexemes generalizing previous with
  | nil => exact later previous
  | cons lexeme lexemes ih =>
      rw [List.mem_cons, not_or] at single
      rw [List.map_cons, List.cons_append, List.isChain_cons_cons]
      exact ⟨fun same => absurd same.symm single.1, ih single.2 _⟩

private theorem isChain_closedLine {lexemes : List Lexeme} (single : .newline ∉ lexemes)
    (number : Nat) (previous : Token) :
    List.IsChain Follows (previous :: (closedLine number lexemes ++ rest)) := by
  obtain rfl | ⟨earlier, last, rfl⟩ := lexemes.eq_nil_or_concat
  · exact later previous
  · rw [List.concat_eq_append, List.mem_append, List.mem_singleton, not_or] at single
    have ended (previous : Token) :
        List.IsChain Follows (previous :: ⟨last, number⟩ :: ⟨.newline, number⟩ :: rest) := by
      rw [List.isChain_cons_cons, List.isChain_cons_cons]
      exact ⟨fun same => absurd same.symm single.2, fun _ => Ne.symm single.2, later _⟩
    simpa [closedLine] using isChain_lexemes ended single.1 number previous

end Follows

private theorem isChain_parts {count number : Nat} {lines : List (List Char)}
    {parts : List (List Token)}
    (found : partsFrom count number lines = .ok parts) (previous : Token) :
    List.IsChain Follows (previous :: (parts.flatten ++ [⟨.eof, count⟩])) := by
  induction lines generalizing number parts previous with
  | nil =>
      cases found
      simp [Follows]
  | cons line lines ih =>
      obtain ⟨lexemes, after, lexed, others, rfl⟩ := partsFrom_cons_eq_ok found
      have single := (inLine_of_lexLine _ lexed).1
      rw [List.flatten_cons, List.append_assoc]
      by_cases before : number < count
      · simp only [before, true_and]
        exact isChain_closedLine (ih others) single number previous
      · simp only [before, false_and, if_false, List.append_nil]
        exact isChain_lexemes (ih others) single number previous

private theorem isChain_scanLines {text : String} {tokens : List Token}
    (found : scanLines text = .ok tokens) (previous : Token) :
    List.IsChain Follows (previous :: tokens) ∧
      ∃ body, tokens = body ++ [⟨.eof, (text.toList.splitOn '\n').length⟩] := by
  rw [scanLines_eq] at found
  cases rows : partsFrom (text.toList.splitOn '\n').length 1 (text.toList.splitOn '\n') with
  | error fault =>
      rw [rows] at found
      contradiction
  | ok parts =>
      rw [rows] at found
      cases found
      exact ⟨isChain_parts rows previous, parts.flatten, rfl⟩

/--
The tokens of a text are those of its lines, one after the other.  So no text starts with a line
end, no line end follows another, and the end of the text is the last token only.
-/
theorem scan_eq_scanLines (text : String) :
    scan text = scanLines text ∧
      ∀ tokens, scan text = .ok tokens →
        (∀ token ∈ tokens.head?, token.lexeme ≠ .newline) ∧
          (∀ before first second after, tokens = before ++ first :: second :: after →
            first.lexeme = .newline → second.lexeme ≠ .newline) ∧
          ∃ body, tokens = body ++ [⟨.eof, (text.toList.splitOn '\n').length⟩] ∧
            ∀ token ∈ body, token.lexeme ≠ .eof := by
  have same : scan text = scanLines text := by
    rw [scanLines_eq]
    exact scan_from rfl rfl (Nat.add_comm _ _)
  refine ⟨same, fun tokens scanned => ?_⟩
  obtain ⟨chain, body, parts⟩ := isChain_scanLines (same ▸ scanned) ⟨.newline, 0⟩
  refine ⟨?_, ?_, body, parts, ?_⟩
  · intro token first starts
    exact (List.isChain_cons.mp chain).1 token first starts rfl
  · rintro before first second after rfl ends starts
    have apart := (List.isChain_append.mp (List.isChain_cons.mp chain).2).2.1
    exact (List.isChain_cons_cons.mp apart).1 starts ends
  · obtain ⟨others, line, whole, proper⟩ := scan_terminated scanned
    obtain ⟨rfl, -⟩ := List.append_inj' (parts.symm.trans whole) rfl
    exact proper

theorem scan_eq_scanLines_crowded :
    scanLines "A\t\x7b#\n\r\n*b9//\x7d" =
      .ok [⟨.ident "A", 1⟩, ⟨.openBrace, 1⟩, ⟨.newline, 1⟩, ⟨.star, 3⟩, ⟨.ident "b9", 3⟩,
        ⟨.eof, 3⟩] ∧
      scanLines "A\n 9" = .error (.unexpectedChar 2 '9') :=
  ⟨(scan_eq_scanLines _).1.symm.trans rfl, (scan_eq_scanLines _).1.symm.trans rfl⟩

end Spec

end CommandProtocol
