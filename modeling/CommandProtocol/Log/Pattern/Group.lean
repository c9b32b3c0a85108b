import CommandProtocol.Log.Pattern.Modes
import CommandProtocol.Text.Alphabetic
import CommandProtocol.Text.Numeric

/-!
# Groups of a pattern

What stands after the opening bracket of a group: nothing, a name, or changes of
modes.  Changes alone, without a group, hold for what follows them.
-/

namespace CommandProtocol.Log.Pattern

inductive GroupStart where
  | plain
  | named (name : List Char)
  | withModes (changes : List Change)
  | changesOnly (changes : List Change)
  deriving DecidableEq, Repr

namespace GroupStart

def isNameChar (char : Char) : Bool :=
  char == '_' || char == '.' || char == '[' || char == ']' || Text.isAlphabetic char ||
    Text.isNumeric char

def isName : List Char → Bool
  | [] => false
  | first :: rest => (first == '_' || Text.isAlphabetic first) && rest.all isNameChar

def readName (text : List Char) : Option (GroupStart × List Char) :=
  let name := text.takeWhile (· ≠ '>')
  match text.drop name.length with
  | _ :: rest => if isName name then some (.named name, rest) else none
  | [] => none

def readModes (text : List Char) : Option (GroupStart × List Char) := do
  let letters := text.takeWhile fun char => char ≠ ':' && char ≠ ')'
  let changes ← Change.readAll true [] letters
  match text.drop letters.length with
  | ':' :: rest => return (.withModes changes, rest)
  | ')' :: rest => if changes.isEmpty then none else return (.changesOnly changes, rest)
  | _ => none

/-- Looking ahead and looking back are refused. -/
def read : List Char → Option (GroupStart × List Char)
  | '?' :: '=' :: _ | '?' :: '!' :: _ => none
  | '?' :: '<' :: '=' :: _ | '?' :: '<' :: '!' :: _ => none
  | '?' :: 'P' :: '<' :: text | '?' :: '<' :: text => readName text
  | '?' :: text => readModes text
  | text => some (.plain, text)

end GroupStart

end CommandProtocol.Log.Pattern
