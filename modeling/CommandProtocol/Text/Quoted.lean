import CommandProtocol.Text.Hidden

/-!
# Quoted characters and texts

How the log shows a character or a text: between quotes, with escapes for the
quote itself, the backslash, and every character that would not be seen.
-/

namespace CommandProtocol.Text

def hexadecimal (code : Nat) : String := String.ofList (Nat.toDigits 16 code)

def escaped (quote char : Char) : String :=
  if char = '\x00' then "\\0"
  else if char = '\t' then "\\t"
  else if char = '\r' then "\\r"
  else if char = '\n' then "\\n"
  else if char = '\\' then "\\\\"
  else if char = quote then "\\" ++ quote.toString
  else if isHidden char then "\\u\x7b" ++ hexadecimal char.toNat ++ "\x7d"
  else char.toString

def quotedChar (char : Char) : String := "'" ++ escaped '\'' char ++ "'"

def quoted (text : String) : String :=
  "\"" ++ String.join (text.toList.map (escaped '"')) ++ "\""

end CommandProtocol.Text
