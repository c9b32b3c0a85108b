/-!
# Decimal numerals

Reading a nonempty run of the ten ASCII digits.  Leading zeros are allowed and
there is no upper bound; callers impose their own range.
-/

namespace CommandProtocol.Text

def digitValue (digit : Char) : Nat := digit.toNat - '0'.toNat

def digitsValue (digits : List Char) : Nat :=
  digits.foldl (fun value digit => 10 * value + digitValue digit) 0

def decimal? (numeral : List Char) : Option Nat :=
  if numeral ≠ [] ∧ numeral.all Char.isDigit then
    some (digitsValue numeral)
  else
    none

def unsigned? : List Char → Option Nat
  | '+' :: numeral => decimal? numeral
  | numeral => decimal? numeral

end CommandProtocol.Text
