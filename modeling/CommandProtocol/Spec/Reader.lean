import CommandProtocol.Spec.Block
import CommandProtocol.Spec.Error

/-!
# Reading blocks from tokens

The reader consumes one token at a time, so a fault is found at the first token
that no spec can continue with, and nothing after that token matters.  Its state
is the blocks closed so far and the place it has reached in the current one.

A `Reading` keeps what was read before a fault, because the blocks and the ignored
flags up to there are still reported.
-/

namespace CommandProtocol.Spec

inductive TypeUse where
  | param
  | result
  deriving DecidableEq, Repr

inductive Spot where
  | statement
  | lineEnd
  | typeStart (use : TypeUse)
  | typeName (use : TypeUse)
  | afterType (use : TypeUse) (type : Variable)
  deriving DecidableEq, Repr

/-- A block whose closing brace has not been read; statements newest first. -/
structure OpenBlock where
  name : String
  line : Nat
  reversed : List Statement := []
  deriving DecidableEq, Repr

namespace OpenBlock

def add (block : OpenBlock) (statement : Statement) : OpenBlock :=
  { block with reversed := statement :: block.reversed }

def block (block : OpenBlock) : Block := ⟨block.name, block.reversed.reverse⟩

end OpenBlock

inductive Place where
  | outside
  | named (name : String) (line : Nat)
  | inside (block : OpenBlock) (spot : Spot)
  deriving DecidableEq, Repr

structure Reader where
  closed : List Block := []
  place : Place := .outside
  deriving DecidableEq, Repr

structure Reading where
  blocks : List Block
  cut : Option Block := none
  fault : Option SpecError := none
  deriving DecidableEq, Repr

def unexpected (token : Token) (expected : Expectation) : SpecError :=
  if token.lexeme = .eof then
    .unexpectedEnd token.line expected
  else
    .unexpectedToken token.line token.lexeme expected

def maxPointers : Nat := 255

namespace Reader

def within (reader : Reader) (block : OpenBlock) (spot : Spot) : Reader :=
  { reader with place := .inside block spot }

def close (reader : Reader) (block : OpenBlock) : Reader :=
  { closed := block.block :: reader.closed, place := .outside }

def readKeyword (reader : Reader) (block : OpenBlock) (line : Nat) (keyword : String) :
    Except SpecError Reader :=
  if keyword = "param" then .ok (reader.within block (.typeStart .param))
  else if keyword = "ret" then .ok (reader.within block (.typeStart .result))
  else
    match Flag.ofKeyword? keyword with
    | some flag => .ok (reader.within (block.add (.flag flag)) .lineEnd)
    | none => .error (.unknownKeyword line block.name keyword)

def readLineEnd (reader : Reader) (block : OpenBlock) (token : Token) :
    Except SpecError Reader :=
  match token.lexeme with
  | .newline => .ok (reader.within block .statement)
  | .closeBrace => .ok (reader.close block)
  | .eof => .error (.unterminatedBlock block.line block.name)
  | _ => .error (unexpected token .endOfLine)

def readAfterType (reader : Reader) (block : OpenBlock) (use : TypeUse)
    (type : Variable) (token : Token) : Except SpecError Reader :=
  match token.lexeme, use with
  | .star, _ =>
      if type.pointers < maxPointers then
        .ok (reader.within block (.afterType use type.pointer))
      else
        .error (.unexpectedToken token.line .star .pointerLimit)
  | .ident name, .param =>
      .ok (reader.within (block.add (.param (type.named name))) .lineEnd)
  | .ident _, .result => .error (.namedReturn token.line block.name)
  | .openBrace, .param => .error (unexpected token .paramName)
  | _, .param => .error (.missingParamName token.line block.name)
  | _, .result => reader.readLineEnd (block.add (.result type)) token

def readInside (reader : Reader) (block : OpenBlock) (token : Token) :
    Spot → Except SpecError Reader
  | .statement =>
      match token.lexeme with
      | .newline => .ok reader
      | .closeBrace => .ok (reader.close block)
      | .eof => .error (.unterminatedBlock block.line block.name)
      | .ident keyword => reader.readKeyword block token.line keyword
      | _ => .error (unexpected token .keyword)
  | .lineEnd => reader.readLineEnd block token
  | .typeStart use =>
      match token.lexeme with
      | .ident ident =>
          if ident = "const" then
            .ok (reader.within block (.typeName use))
          else
            .ok (reader.within block (.afterType use { base := .ofIdent ident }))
      | _ => .error (unexpected token .typeName)
  | .typeName use =>
      match token.lexeme with
      | .ident ident =>
          .ok (reader.within block
            (.afterType use { base := .ofIdent ident, isConst := true }))
      | _ => .error (unexpected token .typeName)
  | .afterType use type => reader.readAfterType block use type token

def step (reader : Reader) (token : Token) : Except SpecError Reader :=
  match reader.place with
  | .outside =>
      match token.lexeme with
      | .newline | .eof => .ok reader
      | .ident name => .ok { reader with place := .named name token.line }
      | _ => .error (unexpected token .callName)
  | .named name line =>
      match token.lexeme with
      | .newline => .ok reader
      | .openBrace => .ok (reader.within { name, line } .statement)
      | _ => .error (unexpected token .openBrace)
  | .inside block spot => reader.readInside block token spot

def blocks (reader : Reader) : List Block := reader.closed.reverse

def openBlock? (reader : Reader) : Option Block :=
  match reader.place with
  | .inside block _ => some block.block
  | _ => none

def stop (reader : Reader) (fault : SpecError) : Reading where
  blocks := reader.blocks
  cut := reader.openBlock?
  fault := some fault

/--
Read tokens up to and including the first end token.  A list without one is read
as if it ended on line zero.
-/
def run (reader : Reader) : List Token → Reading
  | [] =>
      match reader.step ⟨.eof, 0⟩ with
      | .ok final => { blocks := final.blocks }
      | .error fault => reader.stop fault
  | token :: rest =>
      match reader.step token with
      | .error fault => reader.stop fault
      | .ok next =>
          if token.lexeme = .eof then { blocks := next.blocks } else next.run rest

end Reader

namespace Reading

def ofTokens (tokens : List Token) : Reading := Reader.run {} tokens

def calls (reading : Reading) : Except SpecError (List Call) :=
  match reading.fault with
  | some fault => .error fault
  | none => .ok (reading.blocks.map Block.call)

end Reading

end CommandProtocol.Spec
