/-!
# Sets of characters given by code point ranges

The properties of the Unicode character database are published as lists of closed ranges of code
points. The tables of this library keep that form, and one membership test reads them all.
-/

namespace GraphGateway.Text

/-- Whether the code point of a character lies in one of the closed ranges. -/
def inRanges (ranges : List (Nat × Nat)) (c : Char) : Bool :=
  ranges.any fun range => range.1 ≤ c.toNat && c.toNat ≤ range.2

end GraphGateway.Text
