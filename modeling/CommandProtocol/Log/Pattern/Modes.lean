import CommandProtocol.Text.Blank

/-!
# Modes of a pattern

A pattern can switch modes on and off, for the rest of a group or for a group of
its own.  Three of them bear on which patterns are well formed.
-/

namespace CommandProtocol.Log.Pattern

inductive Mode where
  | ignoreCase
  | multiLine
  | dotMatchesNewline
  | swapGreed
  | unicode
  | carriageReturn
  | spaced
  deriving DecidableEq, Repr

def Mode.ofChar? : Char → Option Mode
  | 'i' => some .ignoreCase
  | 'm' => some .multiLine
  | 's' => some .dotMatchesNewline
  | 'U' => some .swapGreed
  | 'u' => some .unicode
  | 'R' => some .carriageReturn
  | 'x' => some .spaced
  | _ => none

structure Modes where
  ignoreCase : Bool := false
  unicode : Bool := true
  spaced : Bool := false
  deriving DecidableEq, Repr

structure Change where
  mode : Mode
  on : Bool
  deriving DecidableEq, Repr

/--
Read changes of modes.  Those after a dash are switched off.  No mode is named
twice, there is one dash at most, and it is not the last character.
-/
def Change.readAll (on : Bool) (seen : List Mode) : List Char → Option (List Change)
  | [] => some []
  | '-' :: rest => if !on || rest.isEmpty then none else readAll false seen rest
  | char :: rest => do
      let mode ← Mode.ofChar? char
      if seen.contains mode then none
      else return ⟨mode, on⟩ :: (← readAll on (mode :: seen) rest)

namespace Modes

def change (modes : Modes) (change : Change) : Modes :=
  match change.mode with
  | .ignoreCase => { modes with ignoreCase := change.on }
  | .unicode => { modes with unicode := change.on }
  | .spaced => { modes with spaced := change.on }
  | _ => modes

/-! ## Blanks and comments -/

def skipSpaced (inComment : Bool) : List Char → List Char
  | [] => []
  | char :: rest =>
      if inComment then skipSpaced (char != '\n') rest
      else if Text.isBlank char then skipSpaced false rest
      else if char == '#' then skipSpaced true rest
      else char :: rest

def skip (modes : Modes) (text : List Char) : List Char :=
  if modes.spaced then skipSpaced false text else text

/--
The next character, as far as it can be told without reading on.  Of a comment only
the mark and the blanks after it are passed over.
-/
def peek (modes : Modes) (text : List Char) : Option Char :=
  if !modes.spaced then text.head?
  else
    let next :=
      match text.dropWhile Text.isBlank with
      | '#' :: comment => (comment.dropWhile Text.isBlank).head?
      | rest => rest.head?
    next <|> text.head?

end Modes

end CommandProtocol.Log.Pattern
