import CommandProtocol.Log.Pattern.Modes

/-!
# Atoms of a pattern

Single characters and what a backslash starts.  Which of them are admitted depends
on the modes.  A pattern has no tables of letter case or of character properties at
its disposal, and it may not match a byte that is no character.
-/

namespace CommandProtocol.Log.Pattern

structure Literal where
  char : Char
  isByte : Bool := false
  deriving DecidableEq, Repr

inductive Atom where
  | literal (literal : Literal)
  | shorthand (negated : Bool)
  | textEdge
  | wordEdge
  deriving DecidableEq, Repr

namespace Atom

def ofChar (char : Char) : Atom := .literal { char }

def hexDigit? (char : Char) : Option Nat :=
  if char.isDigit then some (char.toNat - '0'.toNat)
  else if 'a' ≤ char ∧ char ≤ 'f' then some (char.toNat - 'a'.toNat + 10)
  else if 'A' ≤ char ∧ char ≤ 'F' then some (char.toNat - 'A'.toNat + 10)
  else none

def readCode (modes : Modes) (isByte : Bool) :
    Nat → Nat → List Char → Option (Atom × List Char)
  | 0, code, rest =>
      if code.isValidChar then some (.literal { char := .ofNat code, isByte }, rest) else none
  | digits + 1, code, text =>
      match modes.skip text with
      | [] => none
      | char :: rest => do
          let digit ← hexDigit? char
          readCode modes isByte digits (16 * code + digit) rest

def control? : Char → Option Char
  | 'a' => some '\x07'
  | 't' => some '\t'
  | 'n' => some '\n'
  | 'v' => some '\x0b'
  | 'f' => some '\x0c'
  | 'r' => some '\r'
  | _ => none

def readEscape (modes : Modes) : List Char → Option (Atom × List Char)
  | [] => none
  | char :: rest =>
      match char with
      | 'x' => readCode modes true 2 0 rest
      | 'u' => readCode modes false 4 0 rest
      | 'U' => readCode modes false 8 0 rest
      | 'd' | 's' | 'w' => some (.shorthand false, rest)
      | 'D' | 'S' | 'W' => some (.shorthand true, rest)
      | 'A' | 'z' => some (.textEdge, rest)
      | 'b' | 'B' | '<' | '>' => some (.wordEdge, rest)
      | _ =>
          if char.isAlphanum then (control? char).map fun control => (ofChar control, rest)
          else if char.toNat < 128 then some (ofChar char, rest)
          else none

end Atom

namespace Modes

/-- A character that is to match in either case is refused, unless it is matched as bytes. -/
def admitsLiteral (modes : Modes) (literal : Literal) : Bool :=
  if modes.unicode then !modes.ignoreCase
  else !literal.isByte || literal.char.toNat < 128

def admits (modes : Modes) : Atom → Bool
  | .literal literal => modes.admitsLiteral literal
  | .shorthand negated => !modes.unicode && !negated
  | .textEdge => true
  | .wordEdge => !modes.unicode

def admitsInClass (modes : Modes) : Atom → Bool
  | .literal literal => if modes.unicode then !modes.ignoreCase else literal.char.toNat < 128
  | .shorthand negated => modes.admits (.shorthand negated)
  | .textEdge | .wordEdge => false

end Modes

end CommandProtocol.Log.Pattern
