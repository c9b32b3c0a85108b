import CommandProtocol.Log.Event
import CommandProtocol.Log.Level
import CommandProtocol.Log.Pattern
import CommandProtocol.Text.Bytes
import CommandProtocol.Text.Number

/-!
# Log directives

A directive sets a level for some of the events.  In full it is written
`target[span{attribute=value}]=level`, and every part but one can be left out.
A directive without a level stands for every level.
-/

namespace CommandProtocol.Log

structure Requirement where
  name : String
  value : Option String := none
  deriving DecidableEq, Repr

/-- The value is a number or a pattern; anything after a second equals sign is passed over. -/
def Requirement.ofString? (text : String) : Option Requirement :=
  match text.splitOn "=" with
  | name :: value :: _ =>
      if Text.isNumber value || Pattern.isWellFormed value then
        some { name, value }
      else none
  | _ => some { name := text }

structure Directive where
  target : String := ""
  span : Option String := none
  requirement : Option Requirement := none
  level : Level := .trace
  deriving DecidableEq, Repr

namespace Directive

/-! ## Reading -/

def startsWord (char : Char) : Bool :=
  char == '-' || char == ':' || char == '_' || Text.isAlphabetic char || Text.isNumeric char

def ofWord (word : String) : Directive :=
  match Level.ofString? word with
  | some level => { level }
  | none => { target := word }

def withLevel? (text : List Char) (place : Nat) (directive : Directive) :
    List Char → Option Directive
  | [] => some directive
  | '=' :: _ => do
      let level ← Text.cut? text (place + 1) (Text.size text)
      if level = "" then some directive
      else (Level.ofString? level).map fun level => { directive with level }
  | _ => none

def ofBracket? (text : List Char) (target : String) (place : Nat) (inside : List Char) :
    Option Directive := do
  let name := inside.takeWhile fun char => char ≠ ']' && char ≠ '\x7b'
  let nameEnd := place + Text.size name
  let span ← Text.cut? text place nameEnd
  match inside.drop name.length with
  | ']' :: rest => withLevel? text (nameEnd + 1) { target, span := some span } rest
  | '\x7b' :: inner =>
      let required := inner.takeWhile (· ≠ '\x7d')
      let requiredEnd := nameEnd + 1 + Text.size required
      match inner.drop required.length with
      | '\x7d' :: ']' :: rest =>
          if required.isEmpty then none
          else
            let requirement ← Requirement.ofString? (← Text.cut? text (nameEnd + 1) requiredEnd)
            withLevel? text (requiredEnd + 2)
              { target, span := if span = "" then none else some span, requirement } rest
      | _ => none
  | _ => none

/--
Read a directive.  Blanks around it are passed over to find the places of its
parts, but the parts are then cut at these places out of the text with its blanks.
So a blank in front moves all parts, and a blank at the end belongs to the last one.
-/
def ofString? (directive : String) : Option Directive :=
  let text := directive.toList
  let trimmed := Text.trimBlanks text
  let word := trimmed.takeWhile fun char => char ≠ '=' && char ≠ '['
  let place := Text.size word
  match word, trimmed.drop word.length with
  | [], '[' :: inside => ofBracket? text "" 1 inside
  | [], _ => none
  | first :: _, rest =>
      if !startsWord first then none
      else
        match rest with
        | [] => some (ofWord directive)
        | '[' :: inside => do ofBracket? text (← Text.cut? text 0 place) (place + 1) inside
        | rest => do withLevel? text place { target := ← Text.cut? text 0 place } rest

/-! ## Choosing -/

/--
Whether a directive has a say about an event.  One that names a span or a value has
none: no event is reported inside a span, and values are looked at in spans only.
-/
def appliesTo (directive : Directive) (event : Event) : Bool :=
  directive.target.toList.isPrefixOf event.target.toList && directive.span.isNone &&
    directive.requirement.all fun requirement =>
      requirement.value.isNone && event.attributeNames.contains requirement.name

/--
The longer target is more specific.  With equal targets, a required attribute is
more specific than none, and of two attributes the one whose name is later in order.
-/
def moreSpecific (one other : Directive) : Bool :=
  if one.target.length ≠ other.target.length then
    other.target.length < one.target.length
  else
    match one.requirement, other.requirement with
    | some one, some other => other.name < one.name
    | some _, none => true
    | none, _ => false

def decisive (earlier later : Directive) : Directive :=
  if earlier.moreSpecific later then earlier else later

end Directive

end CommandProtocol.Log
