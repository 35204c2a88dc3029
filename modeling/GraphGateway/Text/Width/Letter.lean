import GraphGateway.Text.Width.Character

/-!
# Letters that run together

In some scripts two letters in a row are written as one sign. These are the classes of letters that
do so, and of the invisible characters that do not keep them apart.
-/

namespace GraphGateway.Text

/-- The ranges of the characters without a column that end the joining of Arabic letters. -/
def joinBreakingRanges : List (Nat × Nat) := [
  (0x605, 0x605), (0x890, 0x891), (0x8e2, 0x8e2), (0x9be, 0x9be),
  (0x9d7, 0x9d7), (0xb3e, 0xb3e), (0xb57, 0xb57), (0xbbe, 0xbbe),
  (0xbd7, 0xbd7), (0xcc0, 0xcc0), (0xcc2, 0xcc2), (0xcc7, 0xcc8),
  (0xcca, 0xccb), (0xcd5, 0xcd6), (0xd3e, 0xd3e), (0xd4e, 0xd4e),
  (0xd57, 0xd57), (0xdcf, 0xdcf), (0xddf, 0xddf), (0x1160, 0x11ff),
  (0x1715, 0x1715), (0x1734, 0x1734), (0x180e, 0x180e), (0x1b35, 0x1b35),
  (0x1b3b, 0x1b3b), (0x1b3d, 0x1b3d), (0x1b43, 0x1b44), (0x1baa, 0x1baa),
  (0x1bf2, 0x1bf3), (0x200c, 0x200d), (0x2065, 0x2069), (0x302e, 0x302f),
  (0x3164, 0x3164), (0xa8fa, 0xa8fa), (0xa953, 0xa953), (0xa9c0, 0xa9c0),
  (0xd7b0, 0xd7c6), (0xd7cb, 0xd7fb), (0xffa0, 0xffa0), (0xfff0, 0xfff8),
  (0x111c0, 0x111c0), (0x111c2, 0x111c3), (0x11235, 0x11235), (0x1133e, 0x1133e),
  (0x1134d, 0x1134d), (0x11357, 0x11357), (0x113b8, 0x113b8), (0x113c2, 0x113c2),
  (0x113c5, 0x113c5), (0x113c7, 0x113c9), (0x113cf, 0x113cf), (0x113d1, 0x113d1),
  (0x114b0, 0x114b0), (0x114bd, 0x114bd), (0x115af, 0x115af), (0x116b6, 0x116b6),
  (0x11930, 0x11930), (0x1193d, 0x1193d), (0x1193f, 0x1193f), (0x11941, 0x11941),
  (0x11a84, 0x11a89), (0x11d46, 0x11d46), (0x11f02, 0x11f02), (0x11f41, 0x11f41),
  (0x16ff0, 0x16ff1), (0x1d165, 0x1d166), (0x1d16d, 0x1d172), (0x1d250, 0x1d252),
  (0x1d280, 0x1d281), (0xe0000, 0xe0000), (0xe0002, 0xe001f), (0xe0080, 0xe00ff),
  (0xe01f0, 0xe0fff)]

/-- Whether a character without a column leaves the joining of the Arabic letters around it as it
is. -/
def isJoinTransparent (c : Char) : Bool := charWidth c = 0 && !inRanges joinBreakingRanges c

/-- Whether a character is a form of the Arabic letter lam. -/
def isLam (c : Char) : Bool :=
  inRanges [(0x644, 0x644), (0x6b5, 0x6b8), (0x76a, 0x76a), (0x8a6, 0x8a6), (0x8c7, 0x8c7)] c

/-- Whether a character is a form of the Arabic letter alef. -/
def isAlef (c : Char) : Bool :=
  inRanges [(0x622, 0x623), (0x625, 0x625), (0x627, 0x627), (0x671, 0x673), (0x675, 0x675),
    (0x773, 0x774), (0x870, 0x882)] c

/-- Whether a character is an invisible one that does not keep letters of other scripts apart. -/
def isLigatureTransparent (c : Char) : Bool :=
  inRanges [(0x34f, 0x34f), (0x17b4, 0x17b5), (0x180b, 0x180d), (0x180f, 0x180f), (0x200d, 0x200d),
    (0xfe00, 0xfe0f), (0xe0100, 0xe01ef)] c

/-- Whether a character is a Khmer letter that can be written below the letter before it. -/
def isSubscribedKhmer (c : Char) : Bool :=
  inRanges [(0x1780, 0x1782), (0x1784, 0x1787), (0x1789, 0x178c), (0x178e, 0x1793),
    (0x1795, 0x1798), (0x179b, 0x179d), (0x17a0, 0x17a0), (0x17a2, 0x17a2), (0x17a7, 0x17a7),
    (0x17ab, 0x17ac), (0x17af, 0x17af)] c

/-- Whether a character is a Tifinagh consonant. -/
def isTifinagh (c : Char) : Bool := inRanges [(0x2d31, 0x2d65), (0x2d6f, 0x2d6f)] c

/-- Whether a character is a Lisu tone letter that may be the first of a pair. -/
def isFirstLisuTone (c : Char) : Bool := inRanges [(0xa4f8, 0xa4fb)] c

/-- Whether a character is a Lisu tone letter that may be the second of a pair. -/
def isSecondLisuTone (c : Char) : Bool := inRanges [(0xa4fc, 0xa4fd)] c

/-- Whether a character is a curly quotation mark, which has a wide form. -/
def isCurlyQuote (c : Char) : Bool := inRanges [(0x2018, 0x2019), (0x201c, 0x201d)] c

end GraphGateway.Text
