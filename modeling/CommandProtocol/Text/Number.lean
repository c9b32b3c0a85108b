/-!
# Numbers

The written forms of a number that may have a sign, a fraction and an exponent.
-/

namespace CommandProtocol.Text

def withoutSign : List Char → List Char
  | '+' :: rest | '-' :: rest => rest
  | text => text

def isExponent : List Char → Bool
  | [] => true
  | 'e' :: rest =>
      let digits := withoutSign rest
      !digits.isEmpty && digits.all Char.isDigit
  | _ => false

/-- Digits before and after a point, not both missing, and then an exponent. -/
def isPlainNumber (text : List Char) : Bool :=
  let whole := text.takeWhile Char.isDigit
  match text.drop whole.length with
  | '.' :: rest =>
      let fraction := rest.takeWhile Char.isDigit
      !(whole ++ fraction).isEmpty && isExponent (rest.drop fraction.length)
  | rest => !whole.isEmpty && isExponent rest

def isNumber (text : String) : Bool :=
  let unsigned := withoutSign (text.toList.map Char.toLower)
  ["inf", "infinity", "nan"].contains (String.ofList unsigned) || isPlainNumber unsigned

end CommandProtocol.Text
