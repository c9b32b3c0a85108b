import CommandProtocol.InlinePlan
import CommandProtocol.Text.Quoted

/-!
# Plans in the log

The form in which the log shows the inline plan of a call, with the variables that
it copies.
-/

namespace CommandProtocol

open Text (quoted)

def BaseType.inspect : BaseType → String
  | .void => "Void"
  | .int bits => "Int(" ++ toString bits ++ ")"
  | .uint bits => "Uint(" ++ toString bits ++ ")"
  | .float bits => "Float(" ++ toString bits ++ ")"
  | .named name => "Named(" ++ quoted name ++ ")"

def Variable.inspect (var : Variable) : String :=
  "VarType \x7b base: " ++ var.base.inspect ++ ", ptr_level: " ++ toString var.pointers ++
    ", is_const: " ++ toString var.isConst ++ ", name: " ++ quoted var.name ++ " \x7d"

def Obstacle.inspect : Obstacle → String
  | .synchronous => "Synchronous"
  | .returnsValue => "ReturnsValue"
  | .mutablePointer param => "MutablePointer(" ++ quoted param ++ ")"
  | .multiLevelPointer param => "MultiLevelPointer(" ++ quoted param ++ ")"
  | .noPointers => "NoPointers"

def InlinePlan.inspect : InlinePlan → String
  | .inline payload =>
      "Inline \x7b payload: [" ++ ", ".intercalate (payload.map Variable.inspect) ++ "] \x7d"
  | .notInline obstacle => "NotInline(" ++ obstacle.inspect ++ ")"

end CommandProtocol
