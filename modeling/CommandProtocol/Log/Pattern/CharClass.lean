import CommandProtocol.Log.Pattern.Atom

/-!
# Classes of characters

A class stands in square brackets.  It holds characters, ranges, named classes and
further brackets, and signs such as `&&` that combine what stands on their sides.
-/

namespace CommandProtocol.Log.Pattern

structure Bracket where
  items : Nat := 0
  depth : Nat := 0
  left : Option Nat := none
  /-- Only dashes were read, which stand for themselves at the start. -/
  atStart : Bool := true
  deriving DecidableEq, Repr

namespace Bracket

def add (bracket : Bracket) (depth : Nat) : Bracket :=
  { bracket with items := bracket.items + 1, depth := max bracket.depth depth }

def nesting (bracket : Bracket) : Nat :=
  let union := if 1 < bracket.items then bracket.depth + 1 else bracket.depth
  match bracket.left with
  | none => union
  | some left => max left union + 1

def combine (bracket : Bracket) : Bracket :=
  { left := some bracket.nesting, atStart := false }

end Bracket

def classNames : List String :=
  [ "alnum", "alpha", "ascii", "blank", "cntrl", "digit", "graph", "lower", "print", "punct",
    "space", "upper", "word", "xdigit" ]

def readNamedClass : List Char → Option (Bool × List Char)
  | ':' :: text =>
      let (negated, text) :=
        match text with
        | '^' :: text => (true, text)
        | text => (false, text)
      let name := text.takeWhile (· ≠ ':')
      match text.drop name.length with
      | ':' :: ']' :: rest =>
          if classNames.contains (String.ofList name) then some (negated, rest) else none
      | _ => none
  | _ => none

def Modes.admitsNamedClass (modes : Modes) (negated : Bool) : Bool :=
  if modes.unicode then !modes.ignoreCase else !negated

def openBracket (modes : Modes) (text : List Char) : Option (Bracket × List Char) :=
  match modes.skip text with
  | '^' :: rest => if modes.unicode then some ({}, rest) else none
  | rest => some ({}, rest)

def readClassAtom (modes : Modes) : List Char → Option (Atom × List Char)
  | [] => none
  | '\\' :: rest => Atom.readEscape modes rest
  | char :: rest => some (.ofChar char, rest)

def readRange (modes : Modes) (text : List Char) : Option (List Char) := do
  let (first, rest) ← readClassAtom modes text
  if !modes.admitsInClass first then none
  else
    match modes.skip rest with
    | '-' :: after =>
        if modes.peek after = some ']' || modes.peek after = some '-' then some rest
        else do
          let (last, rest) ← readClassAtom modes (modes.skip after)
          match first, last with
          | .literal low, .literal high =>
              if modes.admitsInClass last && low.char ≤ high.char then some rest else none
          | _, _ => none
    | _ => some rest

def stepInClass (modes : Modes) (bracket : Bracket) (outer : List Bracket) :
    List Char → Option (List Bracket × List Char)
  | [] => none
  | '[' :: rest =>
      let bracket := { bracket with atStart := false }
      match readNamedClass rest with
      | some (negated, rest) =>
          if modes.admitsNamedClass negated then some (bracket.add 0 :: outer, rest) else none
      | none => do
          let (inner, rest) ← openBracket modes rest
          return (inner :: bracket :: outer, rest)
  | ']' :: rest =>
      if bracket.atStart && bracket.items == 0 then
        if modes.admitsInClass (.ofChar ']') then
          some ({ bracket.add 0 with atStart := false } :: outer, rest)
        else none
      else
        match outer with
        | [] => none
        | next :: outer => some (next.add (bracket.nesting + 1) :: outer, rest)
  | '&' :: '&' :: rest | '~' :: '~' :: rest => some (bracket.combine :: outer, rest)
  | '-' :: rest =>
      if bracket.atStart then
        if modes.admitsInClass (.ofChar '-') then some (bracket.add 0 :: outer, rest) else none
      else
        match rest with
        | '-' :: rest => some (bracket.combine :: outer, rest)
        | _ => do
            let rest ← readRange modes ('-' :: rest)
            return (bracket.add 0 :: outer, rest)
  | text => do
      let rest ← readRange modes text
      return ({ bracket.add 0 with atStart := false } :: outer, rest)

/--
Read brackets until only the outermost is left, which stands for the place of the
class in the pattern; its depth is that of the class.  Every step takes a character,
so the number of characters is enough fuel.
-/
def readBrackets (modes : Modes) : Nat → List Bracket → List Char → Option (Nat × List Char)
  | _, [place], rest => some (place.depth, rest)
  | fuel + 1, bracket :: outer, text => do
      let (brackets, rest) ← stepInClass modes bracket outer (modes.skip text)
      readBrackets modes fuel brackets rest
  | _, _, _ => none

def readClass (modes : Modes) (text : List Char) : Option (Nat × List Char) := do
  let (bracket, rest) ← openBracket modes text
  readBrackets modes (rest.length + 1) [bracket, {}] rest

end CommandProtocol.Log.Pattern
