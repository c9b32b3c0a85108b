/-!
# Ranges of codes

A class of characters as a table of ranges, both ends included, in increasing order.
-/

namespace CommandProtocol.Text

abbrev CodeRanges := List (Nat × Nat)

def CodeRanges.covers (ranges : CodeRanges) (char : Char) : Bool :=
  ranges.any fun (first, last) => first ≤ char.toNat && char.toNat ≤ last

end CommandProtocol.Text
