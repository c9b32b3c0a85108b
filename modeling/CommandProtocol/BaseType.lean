import CommandProtocol.Text.Decimal

/-!
# Base types

A base type is `void`, a sized integer, a sized float, or a name that is passed
through to the generated code unchanged.  `BaseType.ofIdent` classifies an
identifier and `BaseType.cName` gives the C spelling back.
-/

namespace CommandProtocol

inductive BaseType where
  | void
  | int (bits : Nat)
  | uint (bits : Nat)
  | float (bits : Nat)
  | named (name : String)
  deriving DecidableEq, Repr

namespace BaseType

def integerWidths : List Nat := [8, 16, 32, 64]

/--
The width in `<width>_t`, the part of an integer type's name after `int`.  The
numeral may have leading zeros and one leading plus sign, and its value must be
one of `integerWidths`.
-/
def width? (spelling : List Char) : Option Nat :=
  match spelling.reverse with
  | 't' :: '_' :: reversed =>
      (Text.unsigned? reversed.reverse).filter (· ∈ integerWidths)
  | _ => none

def integer? (ident : String) : Option BaseType :=
  match ident.toList with
  | 'u' :: 'i' :: 'n' :: 't' :: spelling => (width? spelling).map .uint
  | 'i' :: 'n' :: 't' :: spelling => (width? spelling).map .int
  | _ => none

def ofIdent (ident : String) : BaseType :=
  if ident = "void" then .void
  else if ident = "float" then .float 32
  else if ident = "double" then .float 64
  else (integer? ident).getD (.named ident)

def bits? : BaseType → Option Nat
  | .int bits | .uint bits | .float bits => some bits
  | .void | .named _ => none

/-- The C spelling.  A float of any width other than 32 is a `double`. -/
def cName : BaseType → String
  | .void => "void"
  | .int bits => "int" ++ toString bits ++ "_t"
  | .uint bits => "uint" ++ toString bits ++ "_t"
  | .float bits => if bits = 32 then "float" else "double"
  | .named name => name

end BaseType

end CommandProtocol
