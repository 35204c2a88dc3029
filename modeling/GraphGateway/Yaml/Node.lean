import GraphGateway.Yaml.Fault
import GraphGateway.Yaml.Token

/-!
# YAML documents

A document is a tree of scalars, sequences and mappings. Anchors are numbered: an alias refers to a
number, and what stands under a number is known once the document is complete.
-/

namespace GraphGateway.Yaml

/-- A scalar: its text, how it was written, and its tag. -/
structure Scalar where
  text : String
  style : ScalarStyle := .plain
  tag? : Option Tag := none
  deriving DecidableEq, Repr

/-- A node of a document. -/
inductive Node where
  | scalar (scalar : Scalar)
  | sequence (items : List Node)
  | mapping (entries : List (Node × Node))
  | alias (number : Nat)
  deriving Inhabited

/-- The anchors of a document. -/
structure Anchors where
  /-- The number of each name, the latest first. -/
  numbers : List (String × Nat) := []
  /-- What stands under each number, the latest first: a scalar, or nothing for a collection. -/
  targets : List (Nat × Option Scalar) := []

namespace Anchors

/-- The anchors with one more. A name counts once however often it is used, and its number is the
count of the names before it is added. -/
def define (anchors : Anchors) (name : String) (target : Option Scalar) : Anchors :=
  let number := anchors.numbers.length
  { numbers := (name, number) :: anchors.numbers.filter (·.1 != name)
    targets := (number, target) :: anchors.targets }

/-- The number of a name. -/
def number? (anchors : Anchors) (name : String) : Option Nat := anchors.numbers.lookup name

end Anchors

/-- A document: its root and its anchors. -/
structure Document where
  root : Node
  anchors : Anchors

/-- The scalar that a node is or refers to. -/
def Document.scalar? (document : Document) : Node → Option Scalar
  | .scalar scalar => some scalar
  | .alias number => (document.anchors.targets.lookup number).join
  | _ => none

/-- What is known while a document is read from tokens. -/
structure Reading where
  tokens : List Token
  handles : List (String × Tag) := []
  anchors : Anchors := {}

/-- A reader of tokens. -/
abbrev Reader := StateT Reading (Except Fault)

namespace Reader

/-- The next token. -/
def peek : Reader Token := return (← get).tokens.head?.getD .streamEnd

/-- Moves on by one token. -/
def advance : Reader Unit := modify fun reading => { reading with tokens := reading.tokens.tail }

/-- Moves on if the next token is a given one, and says whether it was. -/
def accept (token : Token) : Reader Bool := do
  if (← peek) = token then
    advance
    return true
  return false

/-- An anchor before a node. -/
def anchor? : Reader (Option String) := do
  match ← peek with
  | .anchor name =>
    advance
    return some name
  | _ => return none

/-- A tag before a node, its handle replaced by what it stands for. -/
def tag? : Reader (Option Tag) := do
  match ← peek with
  | .tag handle suffix =>
    advance
    if handle.isEmpty then return some suffix
    match (← get).handles.lookup handle with
    | some expansion => return some (expansion ++ suffix)
    | none => throw .undefinedTagHandle
  | _ => return none

/-- Numbers an anchor, if there is one. -/
def define (name? : Option String) (target : Option Scalar) : Reader Unit :=
  match name? with
  | some name => modify fun reading =>
      { reading with anchors := reading.anchors.define name target }
  | none => pure ()

/-- The scalar of a place where nothing is written. -/
def emptyScalar (tag? : Option Tag) : Scalar := { text := "", tag? }

/-- Whether a token ends an item of a block mapping. -/
def endsBlockItem (token : Token) : Bool := token = .key || token = .value || token = .blockEnd

mutual

/-- A node. A sequence in a block mapping may stand without an indentation of its own. -/
def node (block unindented : Bool) : Nat → Reader Node
  | 0 => throw (.expected "node content")
  | fuel + 1 => do
    if let .alias name ← peek then
      advance
      match (← get).anchors.number? name with
      | some number => return .alias number
      | none => throw .unknownAnchor
    let first? ← anchor?
    let tag? ← tag?
    let name? ← if first?.isSome then pure first? else anchor?
    match ← peek with
    | .scalar text style =>
      advance
      let scalar := { text, style, tag? }
      define name? (some scalar)
      return .scalar scalar
    | .blockEntry =>
      if unindented then
        define name? none
        return .sequence (← unindentedItems fuel)
      else withoutContent name? tag?
    | .flowSequenceStart =>
      advance
      define name? none
      return .sequence (← flowItems true fuel)
    | .flowMappingStart =>
      advance
      define name? none
      return .mapping (← flowEntries true fuel)
    | .blockSequenceStart =>
      if block then
        advance
        define name? none
        return .sequence (← blockItems fuel)
      else withoutContent name? tag?
    | .blockMappingStart =>
      if block then
        advance
        define name? none
        return .mapping (← blockEntries fuel)
      else withoutContent name? tag?
    | _ => withoutContent name? tag?

/-- A node of which only an anchor or a tag is written. -/
def withoutContent (name? : Option String) (tag? : Option Tag) : Reader Node := do
  if name?.isNone && tag?.isNone then throw (.expected "node content")
  let scalar := emptyScalar tag?
  define name? (some scalar)
  return .scalar scalar

/-- The items of a block sequence. -/
def blockItems : Nat → Reader (List Node)
  | 0 => throw (.expected "'-' indicator")
  | fuel + 1 => do
    if ← accept .blockEnd then return []
    if !(← accept .blockEntry) then throw (.expected "'-' indicator")
    let next ← peek
    let item ←
      if next = .blockEntry || next = .blockEnd then pure (.scalar (emptyScalar none))
      else node true false fuel
    return item :: (← blockItems fuel)

/-- The items of a block sequence without an indentation of its own. -/
def unindentedItems : Nat → Reader (List Node)
  | 0 => return []
  | fuel + 1 => do
    if !(← accept .blockEntry) then return []
    let next ← peek
    let item ←
      if next = .blockEntry || endsBlockItem next then pure (.scalar (emptyScalar none))
      else node true false fuel
    return item :: (← unindentedItems fuel)

/-- A key or value of a block mapping, after its indicator. -/
def blockItem : Nat → Reader Node
  | 0 => throw (.expected "node content")
  | fuel + 1 => do
    if endsBlockItem (← peek) then return .scalar (emptyScalar none)
    node true true fuel

/-- The entries of a block mapping. -/
def blockEntries : Nat → Reader (List (Node × Node))
  | 0 => throw (.expected "key")
  | fuel + 1 => do
    if ← accept .blockEnd then return []
    if !(← accept .key) then throw (.expected "key")
    let key ← blockItem fuel
    let value ← if ← accept .value then blockItem fuel else pure (.scalar (emptyScalar none))
    return (key, value) :: (← blockEntries fuel)

/-- A value in a flow collection, if a colon comes next; it may be empty before some tokens. -/
def flowValue (ends : Token) : Nat → Reader Node
  | 0 => throw (.expected "node content")
  | fuel + 1 => do
    if !(← accept .value) then return .scalar (emptyScalar none)
    let next ← peek
    if next = .flowEntry || next = ends then return .scalar (emptyScalar none)
    node false false fuel

/-- The items of a flow sequence. An item may be a mapping of one entry, written without braces. -/
def flowItems (first : Bool) : Nat → Reader (List Node)
  | 0 => throw (.expected "',' or ']'")
  | fuel + 1 => do
    if ← accept .flowSequenceEnd then return []
    if !first then
      if !(← accept .flowEntry) then throw (.expected "',' or ']'")
    if ← accept .flowSequenceEnd then return []
    let item ←
      if ← accept .key then do
        let next ← peek
        let key ←
          if next = .value || next = .flowEntry || next = .flowSequenceEnd then do
            advance
            pure (.scalar (emptyScalar none))
          else node false false fuel
        let value ← flowValue .flowSequenceEnd fuel
        pure (.mapping [(key, value)])
      else node false false fuel
    return item :: (← flowItems false fuel)

/-- The entries of a flow mapping. -/
def flowEntries (first : Bool) : Nat → Reader (List (Node × Node))
  | 0 => throw (.expected "',' or closing brace")
  | fuel + 1 => do
    if ← accept .flowMappingEnd then return []
    if !first then
      if !(← accept .flowEntry) then throw (.expected "',' or closing brace")
    if ← accept .flowMappingEnd then return []
    let entry ←
      if ← accept .key then do
        let next ← peek
        let key ←
          if next = .value || next = .flowEntry || next = .flowMappingEnd then
            pure (.scalar (emptyScalar none))
          else node false false fuel
        let value ← flowValue .flowMappingEnd fuel
        pure (key, value)
      else do
        let key ← node false false fuel
        pure (key, .scalar (emptyScalar none))
    return entry :: (← flowEntries false fuel)

end

/-- The tag handles that are known without a directive. -/
def defaultHandles : List (String × Tag) :=
  [("!", .ofText "!"), ("!!", .ofText "tag:yaml.org,2002:")]

/-- The directives before a document: the handles they declare, and whether a version was given. -/
def directives : Nat → Bool → List (String × Tag) → Reader (List (String × Tag) × Bool)
  | 0, versioned, handles => return (handles, versioned)
  | fuel + 1, versioned, handles => do
    match ← peek with
    | .versionDirective major minor =>
      if versioned then throw .repeatedDirective
      if major ≠ 1 || (minor ≠ 1 && minor ≠ 2) then throw .incompatibleVersion
      advance
      directives fuel true handles
    | .tagDirective handle expansion =>
      if (handles.lookup handle).isSome then throw .repeatedDirective
      advance
      directives fuel versioned ((handle, expansion) :: handles)
    | _ => return (handles, versioned)

/-- Whether a token leaves an explicit document without content. -/
def endsDocument : Token → Bool
  | .versionDirective .. | .tagDirective .. | .documentStart | .documentEnd | .streamEnd => true
  | _ => false

/-- The first document, if there is one. More of them, or anything else behind it, is refused. -/
def document? : Reader (Option Document) := do
  let fuel := 4 * (← get).tokens.length + 8
  if (← peek) = .streamEnd then return none
  let (handles, versioned) ← directives fuel false []
  modify fun reading => { reading with handles := handles ++ defaultHandles }
  let explicit ← accept .documentStart
  if !explicit && (versioned || !handles.isEmpty) then throw (.expected "<document start>")
  let root ←
    if explicit && endsDocument (← peek) then pure (.scalar (emptyScalar none))
    else node true false fuel
  modify fun reading =>
    { reading with tokens := reading.tokens.dropWhile (· = .documentEnd) }
  if (← peek) ≠ .streamEnd then throw .severalDocuments
  return some { root, anchors := (← get).anchors }

end Reader

/-- The document that tokens make up, or nothing where they hold none. -/
def Document.ofTokens? (tokens : List Token) : Except Fault (Option Document) :=
  Prod.fst <$> Reader.document?.run { tokens }

end GraphGateway.Yaml
