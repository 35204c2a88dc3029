/-!
# Reading position in a YAML text

A cursor is the rest of a text with the line, column and offset at which it starts. YAML knows five
line breaks; a carriage return followed by a line feed is one of them, not two.
-/

namespace GraphGateway.Yaml

/-- Whether a character ends a line. -/
def isBreak (c : Char) : Bool :=
  c = '\n' || c = '\r' || c.toNat = 0x85 || c.toNat = 0x2028 || c.toNat = 0x2029

/-- Whether a character is a space or tab. -/
def isSpaceOrTab (c : Char) : Bool := c = ' ' || c = '\t'

/-- Whether a character may stand in the name of an anchor, directive or tag handle. -/
def isWordChar (c : Char) : Bool := c.isAlphanum || c = '_' || c = '-'

/-- Whether a character may stand in a YAML text at all. -/
def isAllowed (c : Char) : Bool :=
  let n := c.toNat
  n = 0x9 || n = 0xa || n = 0xd || (0x20 ≤ n && n ≤ 0x7e) || n = 0x85 ||
    (0xa0 ≤ n && n ≤ 0xd7ff) || (0xe000 ≤ n && n ≤ 0xfffd) || 0x10000 ≤ n

/-- The mark that may open a text or a line and has no meaning. -/
def byteOrderMark : Char := Char.ofNat 0xfeff

/-- A position in a text. -/
structure Cursor where
  rest : List Char
  line : Nat := 0
  column : Nat := 0
  offset : Nat := 0

namespace Cursor

/-- The next character. -/
def peek? (cursor : Cursor) : Option Char := cursor.rest.head?

/-- The character a number of places ahead. -/
def peekAt? (cursor : Cursor) (places : Nat) : Option Char := cursor.rest[places]?

/-- Whether the next character is a given one. -/
def startsWith (cursor : Cursor) (c : Char) : Bool := cursor.peek? == some c

/-- The position after a number of characters that are not line breaks. -/
def skip (cursor : Cursor) (places : Nat) : Cursor :=
  { cursor with
    rest := cursor.rest.drop places
    column := cursor.column + places
    offset := cursor.offset + places }

/-- The characters from here on that satisfy a test, and the position after them. The test holds of
no line break. -/
def takeRun (cursor : Cursor) (test : Char → Bool) : List Char × Cursor :=
  let run := cursor.rest.takeWhile test
  (run, cursor.skip run.length)

/-- The position after the characters that satisfy a test. The test holds of no line break. -/
def skipRun (cursor : Cursor) (test : Char → Bool) : Cursor := (cursor.takeRun test).2

/-- The line break here, as it counts in a text, and the position at the start of the next line. The
breaks of plain text files all count as a line feed. -/
def takeBreak (cursor : Cursor) : Char × Cursor :=
  let next (rest : List Char) (places : Nat) : Cursor :=
    { rest, line := cursor.line + 1, column := 0, offset := cursor.offset + places }
  match cursor.rest with
  | '\r' :: '\n' :: rest => ('\n', next rest 2)
  | c :: rest =>
    (if c.toNat = 0x2028 || c.toNat = 0x2029 then c else '\n', next rest 1)
  | [] => ('\n', cursor)

/-- The position at the start of the next line, if there is a line break here. -/
def skipBreak (cursor : Cursor) : Cursor := cursor.takeBreak.2

/-- Whether a blank, a line break or the end of the text stands a number of places ahead. -/
def blankOrEndAt (cursor : Cursor) (places : Nat) : Bool :=
  match cursor.peekAt? places with
  | none => true
  | some c => isSpaceOrTab c || isBreak c

/-- Whether a line break or the end of the text is here. -/
def atLineEnd (cursor : Cursor) : Bool :=
  match cursor.peek? with
  | none => true
  | some c => isBreak c

/-- The position behind spaces and tabs. -/
def skipBlanks (cursor : Cursor) : Cursor := cursor.skipRun isSpaceOrTab

/-- The position behind a comment, if one starts here. -/
def skipComment (cursor : Cursor) : Cursor :=
  if cursor.startsWith '#' then cursor.skipRun (!isBreak ·) else cursor

/-- Whether a line here opens with one of the marks that bound documents. -/
def atDocumentMark (cursor : Cursor) : Bool :=
  cursor.column = 0 && cursor.blankOrEndAt 3 &&
    (cursor.rest.take 3 == ['-', '-', '-'] || cursor.rest.take 3 == ['.', '.', '.'])

end Cursor

end GraphGateway.Yaml
