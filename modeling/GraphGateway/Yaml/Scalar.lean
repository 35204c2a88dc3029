import GraphGateway.Yaml.Cursor
import GraphGateway.Yaml.Fault

/-!
# Reading YAML scalars

Plain and quoted scalars may run over several lines. The white space between two of their parts is a
gap: within a line it counts as it stands, one line break counts as a space, and of several breaks
all but the first count. Block scalars keep their lines, or fold them in a similar way.
-/

namespace GraphGateway.Yaml

/-- The white space between two parts of a scalar. -/
structure Gap where
  /-- The blanks before the first line break, the last one first. -/
  blanks : List Char := []
  /-- Whether a line has ended. -/
  broken : Bool := false
  /-- The first line break, unless it was escaped. -/
  firstBreak? : Option Char := none
  /-- The line breaks after the first, the last one first. -/
  laterBreaks : List Char := []

/-- What a gap counts as. -/
def Gap.text (gap : Gap) : List Char :=
  if gap.broken then
    match gap.firstBreak?, gap.laterBreaks with
    | some '\n', [] => [' ']
    | some '\n', later => later.reverse
    | some c, later => c :: later.reverse
    | none, later => later.reverse
  else gap.blanks.reverse

/-- The white space from here on. Where a line is continued, a tab may not stand in the place of its
indentation. -/
def takeGap (indent : Int) : Nat → Gap → Cursor → Except Fault (Gap × Cursor)
  | 0, gap, cursor => .ok (gap, cursor)
  | fuel + 1, gap, cursor =>
    match cursor.peek? with
    | none => .ok (gap, cursor)
    | some c =>
      if isSpaceOrTab c then
        if gap.broken then
          if c = '\t' && (cursor.column : Int) < indent then .error .tabAsIndentation
          else takeGap indent fuel gap (cursor.skip 1)
        else takeGap indent fuel { gap with blanks := c :: gap.blanks } (cursor.skip 1)
      else if isBreak c then
        let (b, next) := cursor.takeBreak
        let gap :=
          if gap.broken then { gap with laterBreaks := b :: gap.laterBreaks }
          else { gap with blanks := [], broken := true, firstBreak? := some b }
        takeGap indent fuel gap next
      else .ok (gap, cursor)

/-- Whether a character separates or encloses items of a flow collection. -/
def isFlowIndicator (c : Char) : Bool := [',', '[', ']', '\x7b', '\x7d'].contains c

/-- The part of a plain scalar from here to the next white space, the last character first. A colon
before white space ends the scalar, and so does a flow indicator in a flow collection. -/
def takePlainPart (inFlow : Bool) : Nat → List Char → Cursor → Except Fault (List Char × Cursor)
  | 0, part, cursor => .ok (part, cursor)
  | fuel + 1, part, cursor =>
    match cursor.peek? with
    | none => .ok (part, cursor)
    | some c =>
      if isSpaceOrTab c || isBreak c then .ok (part, cursor)
      else if c = ':' && inFlow &&
          (cursor.peekAt? 1).any (fun d => isFlowIndicator d || d = '?') then
        .error .unexpectedColon
      else if (c = ':' && cursor.blankOrEndAt 1) || (inFlow && isFlowIndicator c) then
        .ok (part, cursor)
      else takePlainPart inFlow fuel (c :: part) (cursor.skip 1)

/-- A plain scalar from here on: its text, the position behind it and the white space after it, and
whether that white space ends a line. `indent` is the least column of a continuation line; the text
before the cursor is given with its last character first. -/
def takePlain (indent : Int) (inFlow : Bool) :
    Nat → List Char → Gap → Cursor → Except Fault (String × Cursor × Bool)
  | 0, text, gap, cursor => .ok (String.ofList text.reverse, cursor, gap.broken)
  | fuel + 1, text, gap, cursor => do
    let (part, next) ←
      if cursor.atDocumentMark || cursor.startsWith '#' then .ok ([], cursor)
      else takePlainPart inFlow (fuel + 1) [] cursor
    if part.isEmpty then return (String.ofList text.reverse, cursor, gap.broken)
    let text := part ++ (gap.text.reverse ++ text)
    let (gap, next) ← takeGap indent (fuel + 1) {} next
    let ends := (gap.blanks.isEmpty && !gap.broken) || (!inFlow && (next.column : Int) < indent)
    if ends then return (String.ofList text.reverse, next, gap.broken)
    takePlain indent inFlow fuel text gap next

/-- The value of a hexadecimal digit. -/
def hexDigit? (c : Char) : Option Nat :=
  if '0' ≤ c && c ≤ '9' then some (c.toNat - '0'.toNat)
  else if 'a' ≤ c && c ≤ 'f' then some (c.toNat - 'a'.toNat + 10)
  else if 'A' ≤ c && c ≤ 'F' then some (c.toNat - 'A'.toNat + 10)
  else none

/-- The number that hexadecimal digits write. -/
def hexNumber? (digits : List Char) : Option Nat :=
  digits.foldlM (fun n c => (16 * n + ·) <$> hexDigit? c) 0

/-- What the character after a backslash stands for, where it stands for one character by itself. -/
def simpleEscape? (c : Char) : Option Char :=
  match c with
  | '0' => some (Char.ofNat 0)
  | 'a' => some (Char.ofNat 7)
  | 'b' => some (Char.ofNat 8)
  | 't' => some '\t'
  | '\t' => some '\t'
  | 'n' => some '\n'
  | 'v' => some (Char.ofNat 11)
  | 'f' => some (Char.ofNat 12)
  | 'r' => some '\r'
  | 'e' => some (Char.ofNat 27)
  | ' ' => some ' '
  | '"' => some '"'
  | '/' => some '/'
  | '\\' => some '\\'
  | 'N' => some (Char.ofNat 0x85)
  | '_' => some (Char.ofNat 0xa0)
  | 'L' => some (Char.ofNat 0x2028)
  | 'P' => some (Char.ofNat 0x2029)
  | _ => none

/-- How many hexadecimal digits follow the character after a backslash. -/
def codeEscapeLength? (c : Char) : Option Nat :=
  match c with
  | 'x' => some 2
  | 'u' => some 4
  | 'U' => some 8
  | _ => none

/-- The character that an escape stands for, and the position behind it; the cursor is at the
backslash. -/
def takeEscape (cursor : Cursor) : Except Fault (Char × Cursor) :=
  match cursor.peekAt? 1 with
  | none => .error .badEscape
  | some c =>
    match simpleEscape? c, codeEscapeLength? c with
    | some escaped, _ => .ok (escaped, cursor.skip 2)
    | none, some length =>
      let digits := (cursor.rest.drop 2).take length
      match hexNumber? digits with
      | some code =>
        if digits.length = length && code.isValidChar then
          .ok (Char.ofNat code, cursor.skip (2 + length))
        else .error .badEscape
      | none => .error .badEscape
    | none, none => .error .badEscape

/-- The part of a quoted scalar from here to the next white space, the last character first, and the
gap with which the white space starts: an escaped line break is dropped. -/
def takeQuotedPart (single : Bool) :
    Nat → List Char → Cursor → Except Fault (List Char × Gap × Cursor)
  | 0, part, cursor => .ok (part, {}, cursor)
  | fuel + 1, part, cursor =>
    match cursor.rest with
    | [] => .ok (part, {}, cursor)
    | c :: rest =>
      if isSpaceOrTab c || isBreak c then .ok (part, {}, cursor)
      else if single then
        if c = '\'' then
          if rest.head? = some '\'' then takeQuotedPart single fuel ('\'' :: part) (cursor.skip 2)
          else .ok (part, {}, cursor)
        else takeQuotedPart single fuel (c :: part) (cursor.skip 1)
      else if c = '"' then .ok (part, {}, cursor)
      else if c = '\\' then
        if rest.head?.any isBreak then
          .ok (part, { broken := true }, (cursor.skip 1).skipBreak)
        else do
          let (escaped, next) ← takeEscape cursor
          takeQuotedPart single fuel (escaped :: part) next
      else takeQuotedPart single fuel (c :: part) (cursor.skip 1)

/-- The rest of a quoted scalar up to its closing quote: the text, and the position behind the
quote. The text before the cursor is given with its last character first. -/
def takeQuoted (single : Bool) : Nat → List Char → Cursor → Except Fault (String × Cursor)
  | 0, _, _ => .error .unclosedScalar
  | fuel + 1, text, cursor => do
    if cursor.atDocumentMark then throw .documentMarkInScalar
    if cursor.rest.isEmpty then throw .unclosedScalar
    let (part, gap, next) ← takeQuotedPart single (fuel + 1) [] cursor
    let text := part ++ text
    if next.startsWith (if single then '\'' else '"') then
      return (String.ofList text.reverse, next.skip 1)
    else
      let (gap, next) ← takeGap 0 (fuel + 1) gap next
      takeQuoted single fuel (gap.text.reverse ++ text) next

/-- What becomes of the line breaks at the end of a block scalar. -/
inductive Chomping where
  | strip
  | clip
  | keep
  deriving DecidableEq, Repr

/-- The chomping that a character of a header asks for. -/
def chomping? (c : Char) : Option Chomping :=
  if c = '+' then some .keep else if c = '-' then some .strip else none

/-- The header of a block scalar after its indicator: chomping and explicit indentation, in either
order, and a comment. -/
def takeBlockHeader (cursor : Cursor) : Except Fault (Chomping × Option Nat × Cursor) := do
  let chomp (cursor : Cursor) : Option Chomping × Cursor :=
    match cursor.peek?.bind chomping? with
    | some chomping => (some chomping, cursor.skip 1)
    | none => (none, cursor)
  let digit (cursor : Cursor) : Except Fault (Option Nat × Cursor) :=
    match cursor.peek? with
    | some c =>
      if c = '0' then .error .badBlockHeader
      else if c.isDigit then .ok (some (c.toNat - '0'.toNat), cursor.skip 1)
      else .ok (none, cursor)
    | none => .ok (none, cursor)
  let (before?, cursor) := chomp cursor
  let (indentation?, cursor) ← digit cursor
  let (after?, cursor) :=
    if before?.isNone && indentation?.isSome then chomp cursor else (none, cursor)
  let cursor := cursor.skipBlanks.skipComment
  if !cursor.atLineEnd then throw .badBlockHeader
  return ((before?.orElse fun _ => after?).getD .clip, indentation?, cursor.skipBreak)

/-- Spaces and empty lines before a line of a block scalar: the line breaks, the last one first, the
greatest column reached, and the position. Without a known indentation all spaces count. -/
def takeBlockBreaks (indent? : Option Nat) :
    Nat → List Char → Nat → Cursor → Except Fault (List Char × Nat × Cursor)
  | 0, breaks, greatest, cursor => .ok (breaks, greatest, cursor)
  | fuel + 1, breaks, greatest, cursor =>
    let spaces := (cursor.rest.takeWhile (· = ' ')).length
    let wanted := match indent? with
      | some indent => min spaces (indent - cursor.column)
      | none => spaces
    let cursor := cursor.skip wanted
    let greatest := max greatest cursor.column
    if cursor.startsWith '\t' && indent?.all (cursor.column < ·) then .error .tabAsIndentation
    else if cursor.peek?.any isBreak then
      let (b, next) := cursor.takeBreak
      takeBlockBreaks indent? fuel (b :: breaks) greatest next
    else .ok (breaks, greatest, cursor)

/-- The state between two lines of a block scalar. -/
structure BlockText where
  /-- The text so far, the last character first. -/
  text : List Char := []
  /-- The line break that ends the last line. -/
  lastBreak : List Char := []
  /-- The empty lines after it. -/
  emptyLines : List Char := []
  /-- Whether the last line starts with a blank. -/
  indented : Bool := false

/-- The lines of a block scalar from here on, as long as they keep the indentation. A folded scalar
joins two lines that both start without a blank. -/
def takeBlockLines (folded : Bool) (indent : Nat) :
    Nat → BlockText → Cursor → Except Fault (BlockText × Cursor)
  | 0, block, cursor => .ok (block, cursor)
  | fuel + 1, block, cursor => do
    if cursor.column ≠ indent || cursor.rest.isEmpty then return (block, cursor)
    let indented := cursor.peek?.any isSpaceOrTab
    let join : List Char :=
      if folded && block.lastBreak.head? = some '\n' && !block.indented && !indented then
        if block.emptyLines.isEmpty then [' '] else []
      else block.lastBreak
    let (line, next) := cursor.takeRun (!isBreak ·)
    let text := line.reverse ++ (block.emptyLines.reverse ++ (join.reverse ++ block.text))
    let (lastBreak, next) := match next.peek? with
      | some _ => let (b, next) := next.takeBreak; ([b], next)
      | none => ([], next)
    let (breaks, _, next) ← takeBlockBreaks (some indent) (fuel + 1) [] 0 next
    takeBlockLines folded indent fuel
      { text, lastBreak, emptyLines := breaks.reverse, indented } next

/-- A block scalar from here on; the cursor is behind its indicator and `parent` is the column of
the block around it. -/
def takeBlock (folded : Bool) (parent : Int) (cursor : Cursor) :
    Except Fault (String × Cursor) := do
  let (chomping, indentation?, cursor) ← takeBlockHeader cursor
  let explicit? := indentation?.map fun n => ((max parent 0) + n).toNat
  let (breaks, greatest, cursor) ←
    takeBlockBreaks explicit? (cursor.rest.length + 1) [] 0 cursor
  let indent := explicit?.getD (max greatest (max (parent + 1) 1).toNat)
  let (block, cursor) ← takeBlockLines folded indent (cursor.rest.length + 1)
    { emptyLines := breaks.reverse } cursor
  let ending := match chomping with
    | .strip => []
    | .clip => block.lastBreak
    | .keep => block.lastBreak ++ block.emptyLines
  return (String.ofList (block.text.reverse ++ ending), cursor)

end GraphGateway.Yaml
