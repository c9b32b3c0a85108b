import CommandProtocol.Text.CodeRanges

/-!
# Blank characters

White space of all scripts, and cutting it off both ends of a text.
-/

namespace CommandProtocol.Text

def blankRanges : CodeRanges :=
  [
    (0x9, 0xd), (0x20, 0x20), (0x85, 0x85), (0xa0, 0xa0), (0x1680, 0x1680), (0x2000, 0x200a),
    (0x2028, 0x2029), (0x202f, 0x202f), (0x205f, 0x205f), (0x3000, 0x3000)
  ]

def isBlank (char : Char) : Bool := blankRanges.covers char

def trimBlanks (text : List Char) : List Char :=
  ((text.dropWhile isBlank).reverse.dropWhile isBlank).reverse

end CommandProtocol.Text
