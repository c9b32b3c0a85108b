import CommandProtocol.Spec.Error

/-!
# Scanning a spec

The scanner reads one character at a time.  Its state holds the tokens found so
far, newest first, the current line, and what the last characters may still
become: part of a word, the first slash of a comment, or a comment.
-/

namespace CommandProtocol.Spec

def isWordStart (char : Char) : Bool := char.isAlpha || char == '_'

def isWordChar (char : Char) : Bool := char.isAlphanum || char == '_'

inductive ScanMode where
  | between
  | word (reversed : List Char)
  | slash
  | comment
  deriving DecidableEq, Repr

structure Scanner where
  reversed : List Token := []
  line : Nat := 1
  mode : ScanMode := .between
  deriving DecidableEq, Repr

namespace Scanner

def emit (scanner : Scanner) (lexeme : Lexeme) : Scanner :=
  { scanner with
    reversed := ⟨lexeme, scanner.line⟩ :: scanner.reversed
    mode := .between }

def lineIsEmpty (scanner : Scanner) : Bool :=
  match scanner.reversed with
  | [] => true
  | last :: _ => last.lexeme == .newline

/-- A line end is a token only if it ends a line that holds one. -/
def endLine (scanner : Scanner) : Scanner :=
  let ended := if scanner.lineIsEmpty then scanner else scanner.emit .newline
  { ended with line := scanner.line + 1, mode := .between }

def endWord (scanner : Scanner) : Scanner :=
  match scanner.mode with
  | .word reversed => scanner.emit (.ident (String.ofList reversed.reverse))
  | _ => scanner

def start (scanner : Scanner) (char : Char) : Except SpecError Scanner :=
  if char = '#' then .ok { scanner with mode := .comment }
  else if char = '/' then .ok { scanner with mode := .slash }
  else if char = '\n' then .ok scanner.endLine
  else if char = ' ' ∨ char = '\t' ∨ char = '\r' then .ok scanner
  else if char = '\x7b' then .ok (scanner.emit .openBrace)
  else if char = '\x7d' then .ok (scanner.emit .closeBrace)
  else if char = '*' then .ok (scanner.emit .star)
  else if isWordStart char then .ok { scanner with mode := .word [char] }
  else .error (.unexpectedChar scanner.line char)

def step (scanner : Scanner) (char : Char) : Except SpecError Scanner :=
  match scanner.mode with
  | .between => scanner.start char
  | .word reversed =>
      if isWordChar char then
        .ok { scanner with mode := .word (char :: reversed) }
      else
        scanner.endWord.start char
  | .slash =>
      if char = '/' then
        .ok { scanner with mode := .comment }
      else
        .error (.unexpectedChar scanner.line '/')
  | .comment =>
      if char = '\n' then .ok scanner.endLine else .ok scanner

def finish (scanner : Scanner) : Except SpecError (List Token) :=
  match scanner.mode with
  | .slash => .error (.unexpectedChar scanner.line '/')
  | _ => .ok (scanner.endWord.emit .eof).reversed.reverse

end Scanner

def scanChars (chars : List Char) : Except SpecError (List Token) := do
  let scanner ← chars.foldlM Scanner.step {}
  scanner.finish

def scan (text : String) : Except SpecError (List Token) :=
  scanChars text.toList

end CommandProtocol.Spec
