import GraphGateway.Text.CodeRange

/-!
# White space and trimming

White space is the Unicode property White_Space. Trimming removes it from both ends of a text and
leaves what stands between.
-/

namespace GraphGateway.Text

/-- The ranges of the property White_Space. -/
def blankRanges : List (Nat × Nat) := [
  (0x9, 0xd), (0x20, 0x20), (0x85, 0x85), (0xa0, 0xa0), (0x1680, 0x1680),
  (0x2000, 0x200a), (0x2028, 0x2029), (0x202f, 0x202f), (0x205f, 0x205f), (0x3000, 0x3000)]

/-- Whether a character is white space. -/
def isBlank (c : Char) : Bool := inRanges blankRanges c

/-- A list of characters without the white space at its two ends. -/
def trimChars (text : List Char) : List Char :=
  ((text.dropWhile isBlank).reverse.dropWhile isBlank).reverse

/-- A text without the white space at its two ends. -/
def trim (text : String) : String := String.ofList (trimChars text.toList)

/-- Whether a text is empty or made of white space alone. -/
def isBlankText (text : String) : Bool := text.toList.all isBlank

end GraphGateway.Text
