import CommandProtocol.Log.Pattern.CharClass
import CommandProtocol.Log.Pattern.Group

/-!
# Patterns for values

A log directive may give the value of an attribute as a pattern: characters,
classes in square brackets, groups in round ones, alternatives, and signs that
repeat what stands before them.  A pattern is read here for its form only, that is
whether it is one, and how deeply its parts are nested.

Counted repetition is not available, because a curly bracket ends the directive's own.
-/

namespace CommandProtocol.Log.Pattern

structure Sequence where
  parts : Nat := 0
  depth : Nat := 0
  /-- The nesting depth of the last part, if it can be repeated. -/
  last : Option Nat := none
  deriving DecidableEq, Repr

namespace Sequence

def add (sequence : Sequence) (depth : Nat) : Sequence where
  parts := sequence.parts + 1
  depth := max sequence.depth depth
  last := some depth

def addChange (sequence : Sequence) : Sequence :=
  { sequence with parts := sequence.parts + 1, last := none }

def repeatLast? (sequence : Sequence) : Option Sequence :=
  sequence.last.map fun last =>
    { sequence with depth := max sequence.depth (last + 1), last := some (last + 1) }

def nesting (sequence : Sequence) : Nat :=
  if 1 < sequence.parts then sequence.depth + 1 else sequence.depth

end Sequence

structure Body where
  alternatives : Option Nat := none
  sequence : Sequence := {}
  deriving DecidableEq, Repr

namespace Body

def add (body : Body) (depth : Nat) : Body :=
  { body with sequence := body.sequence.add depth }

def alternate (body : Body) : Body where
  alternatives := some (max (body.alternatives.getD 0) body.sequence.nesting)

def nesting (body : Body) : Nat :=
  match body.alternatives with
  | none => body.sequence.nesting
  | some depth => max depth body.sequence.nesting + 1

end Body

structure Reader where
  modes : Modes := {}
  body : Body := {}
  /-- The groups around this place, innermost first, with the modes to return to. -/
  outer : List (Modes × Body) := []
  names : List (List Char) := []
  deriving DecidableEq, Repr

namespace Reader

def add (reader : Reader) (depth : Nat) : Reader :=
  { reader with body := reader.body.add depth }

def addAtom? (reader : Reader) (atom : Atom) : Option Reader :=
  if reader.modes.admits atom then some (reader.add 0) else none

def change (reader : Reader) (changes : List Change) : Reader :=
  { reader with modes := changes.foldl Modes.change reader.modes }

def openGroup (reader : Reader) : Reader :=
  { reader with body := {}, outer := (reader.modes, reader.body) :: reader.outer }

def start? (reader : Reader) : GroupStart → Option Reader
  | .plain => some reader.openGroup
  | .named name =>
      if reader.names.contains name then none
      else some { reader.openGroup with names := name :: reader.names }
  | .withModes changes => some (reader.openGroup.change changes)
  | .changesOnly changes =>
      let body := { reader.body with sequence := reader.body.sequence.addChange }
      some ({ reader with body }.change changes)

def closeGroup? (reader : Reader) : Option Reader :=
  match reader.outer with
  | [] => none
  | (modes, body) :: outer =>
      some { reader with modes, outer, body := body.add (reader.body.nesting + 1) }

def repeatLast? (reader : Reader) (rest : List Char) : Option (Reader × List Char) := do
  let sequence ← reader.body.sequence.repeatLast?
  let rest :=
    match rest with
    | '?' :: rest => rest
    | rest => rest
  return ({ reader with body := { reader.body with sequence } }, rest)

def step (reader : Reader) : List Char → Option (Reader × List Char)
  | [] => none
  | '(' :: rest => do
      let (start, rest) ← GroupStart.read (reader.modes.skip rest)
      return (← reader.start? start, rest)
  | ')' :: rest => reader.closeGroup?.map (·, rest)
  | '|' :: rest => some ({ reader with body := reader.body.alternate }, rest)
  | '[' :: rest => do
      let (depth, rest) ← readClass reader.modes rest
      return (reader.add depth, rest)
  | '?' :: rest | '*' :: rest | '+' :: rest => reader.repeatLast? rest
  | '\x7b' :: _ => none
  | '\\' :: rest => do
      let (atom, rest) ← Atom.readEscape reader.modes rest
      return (← reader.addAtom? atom, rest)
  | '.' :: rest => if reader.modes.unicode then some (reader.add 0, rest) else none
  | '^' :: rest | '$' :: rest => some (reader.add 0, rest)
  | char :: rest => (reader.addAtom? (.ofChar char)).map (·, rest)

/-- Read a whole pattern.  Every step takes a character, so their number is enough fuel. -/
def run : Nat → Reader → List Char → Option Reader
  | 0, _, _ => none
  | fuel + 1, reader, text =>
      match reader.modes.skip text with
      | [] => some reader
      | text => do
          let (reader, rest) ← reader.step text
          run fuel reader rest

end Reader

def nestingLimit : Nat := 250

def isWellFormed (text : String) : Bool :=
  match Reader.run (text.length + 1) {} text.toList with
  | some reader => reader.outer.isEmpty && reader.body.nesting ≤ nestingLimit
  | none => false

end CommandProtocol.Log.Pattern
