import CommandProtocol.BaseType

/-!
# Variables

A variable is a base type behind some levels of pointers, possibly `const`,
with the name it is bound to.  A bare type, such as the result of a call, is a
variable with the empty name.

Every pointer travels with a byte count.  `Variable.withLengths` completes a
parameter list with the counts that it does not declare.
-/

namespace CommandProtocol

structure Variable where
  base : BaseType
  pointers : Nat := 0
  isConst : Bool := false
  name : String := ""
  deriving DecidableEq, Repr

namespace Variable

/-! ## Building -/

def void : Variable := { base := .void }

def pointer (var : Variable) : Variable :=
  { var with pointers := var.pointers + 1 }

def constant (var : Variable) : Variable :=
  { var with isConst := true }

def named (var : Variable) (name : String) : Variable :=
  { var with name }

def bare (var : Variable) : Variable :=
  { var with name := "" }

/-! ## Classification -/

def isPointer (var : Variable) : Bool := decide (0 < var.pointers)

def isConstPointer (var : Variable) : Bool :=
  var.isConst && var.isPointer

/-- Plain `void`; a pointer to `void` is a value. -/
def isVoid (var : Variable) : Bool :=
  var.base == .void && !var.isPointer

/-! ## C spelling -/

def cType (var : Variable) : String :=
  (if var.isConst then "const " else "") ++ var.base.cName ++
    if var.isPointer then
      " " ++ String.ofList (List.replicate var.pointers '*')
    else ""

def declaration (var : Variable) : String :=
  var.cType ++ if var.name.isEmpty then "" else " " ++ var.name

/-! ## Length companions -/

def lengthName (var : Variable) : String := var.name ++ "_length"

def lengthCompanion (var : Variable) : Variable :=
  { base := .named "size_t", name := var.lengthName }

def declares (params : List Variable) (name : String) : Bool :=
  params.any fun param => param.name == name

/--
Insert the length companion right after each pointer whose companion's name is
not declared by any parameter of the list.
-/
def withLengths (params : List Variable) : List Variable :=
  params.flatMap fun param =>
    if param.isPointer && !declares params param.lengthName then
      [param, param.lengthCompanion]
    else
      [param]

end Variable

end CommandProtocol
