import GraphGateway.Yaml.Scalar
import GraphGateway.Yaml.Token

/-!
# Cutting a YAML text into tokens

One step skips white space and comments, closes the blocks that the new column ends, and reads one
token. Whether a scalar or collection is a key shows only at the colon behind it; until then its
place in the list of tokens is remembered, and the colon puts the key token there.
-/

namespace GraphGateway.Yaml

/-- A place at which a key may have started. -/
structure KeyPlace where
  /-- Whether nothing but a key may stand there. -/
  required : Bool
  /-- The number of tokens before it. -/
  index : Nat
  line : Nat
  column : Nat
  offset : Nat

/-- The state between two tokens. -/
structure Lexer where
  cursor : Cursor
  tokens : Array Token := #[]
  /-- The column of the innermost block, -1 outside all blocks. -/
  indent : Int := -1
  /-- The columns of the blocks around it, the nearest first. -/
  indents : List Int := []
  /-- Whether a key may start here. -/
  keyAllowed : Bool := true
  /-- The place of a possible key in the innermost flow collection, or in the blocks. -/
  key? : Option KeyPlace := none
  /-- The places of possible keys in the flow collections and blocks around it. -/
  outerKeys : List (Option KeyPlace) := []

namespace Lexer

/-- Whether the next token is inside a flow collection. -/
def inFlow (lexer : Lexer) : Bool := !lexer.outerKeys.isEmpty

/-- Adds a token. -/
def emit (lexer : Lexer) (token : Token) : Lexer := { lexer with tokens := lexer.tokens.push token }

/-- Moves on by a number of characters. -/
def skip (lexer : Lexer) (places : Nat) : Lexer := { lexer with cursor := lexer.cursor.skip places }

/-- White space, comments and line breaks before a token. A line break in a block allows a key. A
tab is white space only where no key may start. -/
def skipToToken : Nat → Lexer → Lexer
  | 0, lexer => lexer
  | fuel + 1, lexer =>
    let cursor :=
      if lexer.cursor.column = 0 && lexer.cursor.startsWith byteOrderMark then lexer.cursor.skip 1
      else lexer.cursor
    let tabs := lexer.inFlow || !lexer.keyAllowed
    let cursor := (cursor.skipRun fun c => c = ' ' || (tabs && c = '\t')).skipComment
    if cursor.peek?.any isBreak then
      skipToToken fuel
        { lexer with
          cursor := cursor.skipBreak, keyAllowed := lexer.keyAllowed || !lexer.inFlow }
    else { lexer with cursor }

/-- A possible key ends with its line and after 1024 characters; a required one may not. -/
def expire (cursor : Cursor) : Option KeyPlace → Except Fault (Option KeyPlace)
  | none => .ok none
  | some place =>
    if place.line < cursor.line || place.offset + 1024 < cursor.offset then
      if place.required then .error .missingColon else .ok none
    else .ok (some place)

/-- Forgets the possible keys that have expired. -/
def expireKeys (lexer : Lexer) : Except Fault Lexer := do
  return { lexer with
    key? := ← expire lexer.cursor lexer.key?
    outerKeys := ← lexer.outerKeys.mapM (expire lexer.cursor) }

/-- Gives up the possible key; a required one may not be given up. -/
def dropKey (lexer : Lexer) : Except Fault Lexer :=
  if lexer.key?.any (·.required) then .error .missingColon else .ok { lexer with key? := none }

/-- Remembers that a key may start here. -/
def saveKey (lexer : Lexer) : Except Fault Lexer := do
  if !lexer.keyAllowed then return lexer
  let lexer ← lexer.dropKey
  return { lexer with
    key? := some {
      required := !lexer.inFlow && lexer.indent == (lexer.cursor.column : Int)
      index := lexer.tokens.size
      line := lexer.cursor.line
      column := lexer.cursor.column
      offset := lexer.cursor.offset } }

/-- Opens a block at a column, if it lies deeper than the innermost one; the token that opens it
stands before the token with an index. -/
def openBlock (lexer : Lexer) (column index : Nat) (token : Token) : Lexer :=
  if !lexer.inFlow && lexer.indent < column then
    { lexer with
      indent := column
      indents := lexer.indent :: lexer.indents
      tokens := lexer.tokens.insertIdxIfInBounds index token }
  else lexer

/-- Closes the blocks that lie deeper than a column. -/
def closeBlocks (lexer : Lexer) (column : Int) : Lexer :=
  if lexer.inFlow then lexer else go lexer lexer.indents
where
  /-- Closes one block after the other. -/
  go (lexer : Lexer) : List Int → Lexer
    | [] => lexer
    | outer :: rest =>
      if column < lexer.indent then
        go { lexer with
          indent := outer, indents := rest, tokens := lexer.tokens.push .blockEnd } rest
      else lexer

/-- Reads the number of a version: one to nine digits. -/
def takeVersionNumber (cursor : Cursor) : Except Fault (Nat × Cursor) :=
  let (digits, next) := cursor.takeRun Char.isDigit
  if digits.isEmpty || digits.length > 9 then .error .badDirective
  else .ok (digits.foldl (fun n c => 10 * n + (c.toNat - '0'.toNat)) 0, next)

/-- Reads a tag handle: an exclamation mark, perhaps with a word and a second mark. -/
def takeTagHandle (cursor : Cursor) : Except Fault (String × Cursor) :=
  if !cursor.startsWith '!' then .error .badTag
  else
    let (word, next) := (cursor.skip 1).takeRun isWordChar
    if next.startsWith '!' then .ok (String.ofList ('!' :: word ++ ['!']), next.skip 1)
    else .ok (String.ofList ('!' :: word), next)

/-- Whether a character may stand in a tag; flow indicators may only where the tag is enclosed. -/
def isTagChar (enclosed : Bool) (c : Char) : Bool :=
  isWordChar c || ";/?:@&=+$.!~*'()%".toList.contains c ||
    (enclosed && [',', '[', ']'].contains c)

/-- How many bytes of a character are to follow, given how many were to follow before a byte. A
character of one to four bytes tells by its first how many there are; the others are continuation
bytes. What character they write is not looked at. -/
def bytesToFollow? (before byte : Nat) : Option Nat :=
  if before = 0 then
    if byte < 0x80 then some 0
    else if byte < 0xc0 then none
    else if byte < 0xe0 then some 1
    else if byte < 0xf0 then some 2
    else if byte < 0xf8 then some 3
    else none
  else if 0x80 ≤ byte && byte < 0xc0 then some (before - 1)
  else none

/-- The bytes of the characters of a tag. An escape such as `%C3` writes a byte, and the bytes of
one character stand in adjacent escapes; `before` of them are still to come. -/
def tagBytes? : Nat → List Char → Option Tag
  | 0, [] => some []
  | _ + 1, [] => none
  | before, '%' :: a :: b :: rest => do
    let byte ← hexNumber? [a, b]
    return UInt8.ofNat byte :: (← tagBytes? (← bytesToFollow? before byte) rest)
  | 0, c :: rest =>
    if c = '%' then none else do return UInt8.ofNat c.toNat :: (← tagBytes? 0 rest)
  | _ + 1, _ => none

/-- Reads the characters of a tag, at least one where they are `required`. A zero byte ends a tag,
whatever is written behind it. -/
def takeTagChars (enclosed required : Bool) (cursor : Cursor) : Except Fault (Tag × Cursor) :=
  let (run, next) := cursor.takeRun (isTagChar enclosed)
  if required && run.isEmpty then .error .badTag
  else match tagBytes? 0 run with
    | some bytes => .ok (bytes.takeWhile (· ≠ 0), next)
    | none => .error .badTag

/-- Reads a directive. -/
def takeDirective (cursor : Cursor) : Except Fault (Token × Cursor) := do
  let (name, next) := (cursor.skip 1).takeRun isWordChar
  if name.isEmpty || !next.blankOrEndAt 0 then throw .badDirective
  let (token, next) ← match String.ofList name with
    | "YAML" => do
      let (major, next) ← takeVersionNumber next.skipBlanks
      if !next.startsWith '.' then throw .badDirective
      let (minor, next) ← takeVersionNumber (next.skip 1)
      pure (Token.versionDirective major minor, next)
    | "TAG" => do
      let (handle, next) ← takeTagHandle next.skipBlanks
      if handle ≠ "!" && !(handle.length > 1 && handle.endsWith "!") then throw .badTag
      if !next.peek?.any isSpaceOrTab then throw .badDirective
      let (expansion, next) ← takeTagChars true true next.skipBlanks
      if !next.blankOrEndAt 0 then throw .badDirective
      pure (Token.tagDirective handle expansion, next)
    | _ => throw .badDirective
  let next := next.skipBlanks.skipComment
  if !next.atLineEnd then throw .badDirective
  return (token, next.skipBreak)

/-- Reads the name of an anchor or alias; the cursor is at its indicator. -/
def takeAnchorName (cursor : Cursor) : Except Fault (String × Cursor) :=
  let (name, next) := (cursor.skip 1).takeRun isWordChar
  let ends := next.blankOrEndAt 0 ||
    next.peek?.any fun c => ['?', ':', ',', ']', '\x7d', '%', '@', Char.ofNat 0x60].contains c
  if name.isEmpty || !ends then .error .badAnchor else .ok (String.ofList name, next)

/-- Reads a tag: enclosed, with a handle, or plain. -/
def takeTag (inFlow : Bool) (cursor : Cursor) : Except Fault (Token × Cursor) := do
  let (token, next) ←
    if cursor.peekAt? 1 == some '<' then do
      let (suffix, next) ← takeTagChars true true (cursor.skip 2)
      if !next.startsWith '>' then throw .badTag
      pure (Token.tag "" suffix, next.skip 1)
    else do
      let (handle, next) ← takeTagHandle cursor
      let named := handle.length > 1 && handle.endsWith "!"
      let (bytes, next) ← takeTagChars false named next
      if named then pure (Token.tag handle bytes, next)
      else
        let suffix := Tag.ofText (String.ofList (handle.toList.drop 1)) ++ bytes
        pure (if suffix.isEmpty then Token.tag "" (.ofText "!") else Token.tag "!" suffix, next)
  if next.blankOrEndAt 0 || (inFlow && next.startsWith ',') then return (token, next)
  throw .badTag

/-- Ends the text: closes everything that is open. -/
def finish (lexer : Lexer) : Except Fault Lexer := do
  let lexer ← (lexer.closeBlocks (-1)).dropKey
  return lexer.emit .streamEnd

/-- A token at the start of a line that ends all blocks. -/
def bound (lexer : Lexer) : Except Fault Lexer := do
  let lexer ← (lexer.closeBlocks (-1)).dropKey
  return { lexer with keyAllowed := false }

/-- The colon after a key. -/
def takeValue (lexer : Lexer) : Except Fault Lexer := do
  match lexer.key? with
  | some place =>
    let lexer := { lexer with
      tokens := lexer.tokens.insertIdxIfInBounds place.index .key, key? := none }
    let lexer := lexer.openBlock place.column place.index .blockMappingStart
    return ({ lexer with keyAllowed := false }.skip 1).emit .value
  | none =>
    if lexer.inFlow then return ({ lexer with keyAllowed := false }.skip 1).emit .value
    if !lexer.keyAllowed then throw (.misplaced "mapping values")
    let lexer := lexer.openBlock lexer.cursor.column lexer.tokens.size .blockMappingStart
    return ({ lexer with keyAllowed := true }.skip 1).emit .value

/-- Whether a plain scalar starts here. A tab that is not passed over as white space starts none. -/
def startsPlain (lexer : Lexer) (c : Char) : Bool :=
  let indicators := "-?:,[]\x7b\x7d#&*!|>'\"%@".toList
  let plainFirst :=
    !isSpaceOrTab c && !isBreak c && !indicators.contains c && c.toNat ≠ 0x60
  plainFirst || (c = '-' && !lexer.cursor.blankOrEndAt 1) ||
    (!lexer.inFlow && (c = '?' || c = ':') && !lexer.cursor.blankOrEndAt 1)

/-- The opening of a flow collection. -/
def openFlow (lexer : Lexer) (token : Token) : Except Fault Lexer := do
  let lexer ← lexer.saveKey
  let lexer := { lexer with
    outerKeys := lexer.key? :: lexer.outerKeys, key? := none, keyAllowed := true }
  return (lexer.emit token).skip 1

/-- The closing of a flow collection. -/
def closeFlow (lexer : Lexer) (token : Token) : Except Fault Lexer := do
  let lexer ← lexer.dropKey
  let lexer := match lexer.outerKeys with
    | outer :: rest => { lexer with key? := outer, outerKeys := rest }
    | [] => lexer
  return ({ lexer with keyAllowed := false }.emit token).skip 1

/-- A token that may be a key, read by a function on the cursor. -/
def takeKeyed (lexer : Lexer) (read : Cursor → Except Fault (Token × Cursor)) :
    Except Fault Lexer := do
  let lexer ← lexer.saveKey
  let (token, cursor) ← read lexer.cursor
  return { lexer with cursor, keyAllowed := false }.emit token

/-- A block scalar. -/
def takeBlockScalar (lexer : Lexer) (folded : Bool) : Except Fault Lexer := do
  let lexer ← lexer.dropKey
  let (text, cursor) ← takeBlock folded lexer.indent (lexer.cursor.skip 1)
  return { lexer with cursor, keyAllowed := true }.emit
    (.scalar text (if folded then .folded else .literal))

/-- A plain scalar. After one that ends with its line a key may start. -/
def takePlainScalar (lexer : Lexer) : Except Fault Lexer := do
  let lexer ← lexer.saveKey
  let (text, cursor, broken) ← takePlain (lexer.indent + 1) lexer.inFlow
    (lexer.cursor.rest.length + 1) [] {} lexer.cursor
  return { lexer with cursor, keyAllowed := broken }.emit (.scalar text .plain)

/-- The entry of a block sequence. -/
def takeBlockEntry (lexer : Lexer) : Except Fault Lexer := do
  if !lexer.inFlow && !lexer.keyAllowed then throw (.misplaced "block sequence entries")
  let lexer := lexer.openBlock lexer.cursor.column lexer.tokens.size .blockSequenceStart
  let lexer ← lexer.dropKey
  return ({ lexer with keyAllowed := true }.emit .blockEntry).skip 1

/-- A question mark before a key. -/
def takeKey (lexer : Lexer) : Except Fault Lexer := do
  if !lexer.inFlow && !lexer.keyAllowed then throw (.misplaced "mapping keys")
  let lexer := lexer.openBlock lexer.cursor.column lexer.tokens.size .blockMappingStart
  let lexer ← lexer.dropKey
  return ({ lexer with keyAllowed := !lexer.inFlow }.emit .key).skip 1

/-- The token that starts with a character here. -/
def takeToken (lexer : Lexer) (c : Char) : Except Fault Lexer := do
  let blankNext := lexer.cursor.blankOrEndAt 1
  if lexer.cursor.column = 0 && c = '%' then
    let lexer ← lexer.bound
    let (token, cursor) ← takeDirective lexer.cursor
    return { lexer with cursor }.emit token
  else if lexer.cursor.atDocumentMark then
    let lexer ← lexer.bound
    return (lexer.emit (if c = '-' then .documentStart else .documentEnd)).skip 3
  else if c = '[' then lexer.openFlow .flowSequenceStart
  else if c = '\x7b' then lexer.openFlow .flowMappingStart
  else if c = ']' then lexer.closeFlow .flowSequenceEnd
  else if c = '\x7d' then lexer.closeFlow .flowMappingEnd
  else if c = ',' then
    let lexer ← lexer.dropKey
    return ({ lexer with keyAllowed := true }.emit .flowEntry).skip 1
  else if c = '-' && blankNext then lexer.takeBlockEntry
  else if c = '?' && (lexer.inFlow || blankNext) then lexer.takeKey
  else if c = ':' && (lexer.inFlow || blankNext) then lexer.takeValue
  else if c = '*' then
    lexer.takeKeyed fun cursor => do
      let (name, cursor) ← takeAnchorName cursor
      return (.alias name, cursor)
  else if c = '&' then
    lexer.takeKeyed fun cursor => do
      let (name, cursor) ← takeAnchorName cursor
      return (.anchor name, cursor)
  else if c = '!' then lexer.takeKeyed (takeTag lexer.inFlow)
  else if (c = '|' || c = '>') && !lexer.inFlow then lexer.takeBlockScalar (c = '>')
  else if c = '\'' || c = '"' then
    lexer.takeKeyed fun cursor => do
      let single : Bool := c = '\''
      let (text, cursor) ← takeQuoted single (cursor.rest.length + 1) [] (cursor.skip 1)
      return (.scalar text (if single then .singleQuoted else .doubleQuoted), cursor)
  else if lexer.startsPlain c then lexer.takePlainScalar
  else throw .unknownToken

/-- Takes tokens until the text ends. Every step reads at least one character. -/
def run : Nat → Lexer → Except Fault Lexer
  | 0, lexer => .ok lexer
  | fuel + 1, lexer => do
    let lexer := lexer.skipToToken (lexer.cursor.rest.length + 1)
    let lexer ← lexer.expireKeys
    match lexer.cursor.peek? with
    | none => lexer.finish
    | some c => run fuel (← (lexer.closeBlocks lexer.cursor.column).takeToken c)

end Lexer

/-- The tokens of a text. -/
def tokens (text : String) : Except Fault (List Token) := do
  let chars := text.toList
  if !chars.all isAllowed then throw .forbiddenCharacter
  let lexer ← Lexer.run (chars.length + 1) { cursor := { rest := chars } }
  return lexer.tokens.toList

end GraphGateway.Yaml
