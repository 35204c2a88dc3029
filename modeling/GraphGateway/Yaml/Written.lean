import GraphGateway.Yaml.Cursor
import GraphGateway.Yaml.Number

/-!
# Writing YAML scalars

A text is written plainly where it reads back as the same text, in single quotes where it would be
taken for something else, and in double quotes where it holds characters that must be escaped. A
text of several lines is written as a literal block.
-/

namespace GraphGateway.Yaml

/-- Whether a character can stand unescaped in written text. -/
def isWritable (c : Char) : Bool :=
  let n := c.toNat
  n = 0xa || (0x20 ≤ n && n ≤ 0x7e) || (0xa0 ≤ n && n ≤ 0xd7ff) ||
    (0xe000 ≤ n && n ≤ 0xfffd && n ≠ 0xfeff) || 0x10000 ≤ n

/-- Whether a space, tab, line break or the end stands at the start of a text. -/
def startsBlank : List Char → Bool
  | [] => true
  | c :: _ => isSpaceOrTab c || isBreak c

/-- Whether the first character of a text means something else at the start of a plain scalar. -/
def opensIndicator : List Char → Bool
  | [] => false
  | c :: rest =>
    "#,[]\x7b\x7d&*!|>'\"%@".toList.contains c || c.toNat = 0x60 ||
      ([ '?', ':', '-' ].contains c && startsBlank rest)

/-- Whether a plain scalar would end inside a text: at a colon before a blank, or at a number sign
after one. -/
def endsInside (afterBlank : Bool) : List Char → Bool
  | [] => false
  | c :: rest =>
    (c = ':' && startsBlank rest) || (c = '#' && afterBlank) ||
      endsInside (isSpaceOrTab c || isBreak c) rest

/-- Whether two given kinds of characters stand side by side somewhere in a text. -/
def hasAdjacent (first second : Char → Bool) : List Char → Bool
  | a :: b :: rest => (first a && second b) || hasAdjacent first second (b :: rest)
  | _ => false

/-- The ways in which a text may be written. -/
structure WrittenForms where
  plain : Bool
  single : Bool
  literal : Bool

/-- The ways in which a text may be written so that it reads back. -/
def WrittenForms.of (text : List Char) : WrittenForms :=
  let special := !text.all isWritable
  let spaceBreak := hasAdjacent (· = ' ') isBreak text
  let breakSpace := hasAdjacent isBreak (· = ' ') text
  let atEnd (test : Char → Bool) := text.head?.any test || text.getLast?.any test
  let marked := text.take 3 == ['-', '-', '-'] || text.take 3 == ['.', '.', '.']
  let indicator := marked || opensIndicator text || endsInside true text
  { plain := !special && !spaceBreak && !breakSpace && !atEnd (· = ' ') && !atEnd isBreak &&
      !text.any isBreak && !indicator
    single := !special && !spaceBreak && !breakSpace
    literal := !special && !spaceBreak && !text.getLast?.any (· = ' ') && !text.isEmpty }

/-- Hexadecimal digits in capitals, with zeros in front up to a width. -/
def upperHex (width n : Nat) : List Char :=
  let digits := (Nat.toDigits 16 n).map Char.toUpper
  List.replicate (width - digits.length) '0' ++ digits

/-- A character between double quotes. -/
def escapeDouble (c : Char) : List Char :=
  let n := c.toNat
  if isWritable c && !isBreak c && c ≠ '"' && c ≠ '\\' then [c]
  else if n = 0 then ['\\', '0']
  else if n = 7 then ['\\', 'a']
  else if n = 8 then ['\\', 'b']
  else if n = 9 then ['\\', 't']
  else if n = 10 then ['\\', 'n']
  else if n = 11 then ['\\', 'v']
  else if n = 12 then ['\\', 'f']
  else if n = 13 then ['\\', 'r']
  else if n = 27 then ['\\', 'e']
  else if c = '"' then ['\\', '"']
  else if c = '\\' then ['\\', '\\']
  else if n = 0x85 then ['\\', 'N']
  else if n = 0x2028 then ['\\', 'L']
  else if n = 0x2029 then ['\\', 'P']
  else if n ≤ 0xff then '\\' :: 'x' :: upperHex 2 n
  else if n ≤ 0xffff then '\\' :: 'u' :: upperHex 4 n
  else '\\' :: 'U' :: upperHex 8 n

/-- A text in double quotes. -/
def writeDouble (text : List Char) : List Char := '"' :: (text.flatMap escapeDouble ++ ['"'])

/-- The inside of single quotes: a quote is written twice, and a line that follows a break other
than a line feed is indented. -/
def writeSingleInside (afterBreak : Bool) : List Char → List Char
  | [] => if afterBreak then [' ', ' '] else []
  | c :: rest =>
    if isBreak c then c :: writeSingleInside true rest
    else
      let indent := if afterBreak && c ≠ ' ' then [' ', ' '] else []
      let written := if c = '\'' then ['\'', '\''] else [c]
      indent ++ written ++ writeSingleInside (afterBreak && c = ' ') rest

/-- A text in single quotes. -/
def writeSingle (text : List Char) : List Char := '\'' :: (writeSingleInside false text ++ ['\''])

/-- The lines of a literal block, each indented by two spaces unless it is empty. -/
def writeLiteralLines (lineStart : Bool) : List Char → List Char
  | [] => []
  | c :: rest =>
    if isBreak c then c :: writeLiteralLines true rest
    else (if lineStart then [' ', ' ', c] else [c]) ++ writeLiteralLines false rest

/-- What the header of a literal block says about its indentation and its end. -/
def literalHints (text : List Char) : List Char :=
  let indentation := if text.head?.any (fun c => c = ' ' || isBreak c) then ['2'] else []
  let chomping := match text.reverse with
    | [] => ['-']
    | last :: before =>
      if !isBreak last then ['-']
      else if before.isEmpty || before.head?.any isBreak then ['+']
      else []
  indentation ++ chomping

/-- A text as a literal block, with the line break at its end. -/
def writeLiteral (text : List Char) : List Char :=
  let ending := if text.getLast?.any isBreak then [] else ['\n']
  '|' :: literalHints text ++ '\n' :: (writeLiteralLines true text ++ ending)

/-- A text as the value of a mapping at the outermost level, with the line break at its end. -/
def writeValue (text : String) : String :=
  let chars := text.toList
  let forms := WrittenForms.of chars
  String.ofList <|
    if chars.contains '\n' then
      if forms.literal then writeLiteral chars else writeDouble chars ++ ['\n']
    else if forms.plain && !readsAsOther text && !hasLeadingZero chars then chars ++ ['\n']
    else if forms.single then writeSingle chars ++ ['\n']
    else writeDouble chars ++ ['\n']

end GraphGateway.Yaml
