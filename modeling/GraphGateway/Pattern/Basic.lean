import GraphGateway.Error
import GraphGateway.Identifier

/-!
# Path patterns

A path pattern is a list of selectors, for nodes and edges in turn, that starts and ends on a node.
A selector is a label or the wildcard; tokens are trimmed before they are read.
-/

namespace GraphGateway

/-- What one step of a path may be. -/
inductive Selector where
  /-- Anything. -/
  | any
  /-- Elements with a label. -/
  | labeled (label : String)
  deriving DecidableEq, Repr

namespace Selector

/-- The token that selects anything. -/
def wildcard : String := "*"

/-- The selector that a token stands for. -/
def parse (token : String) : Except Error Selector :=
  let trimmed := Text.trim token
  if trimmed.isEmpty then .error .emptyPattern
  else if trimmed = wildcard then .ok any
  else .ok (labeled trimmed)

/-- Whether the selector selects anything. -/
def isWildcard : Selector → Bool
  | any => true
  | labeled _ => false

/-- The trimmed token of a selector. -/
def token : Selector → String
  | any => wildcard
  | labeled label => label

/-- The selector as a node step of a query. -/
def nodeStep : Selector → String
  | any => "()"
  | labeled label => "(:" ++ Identifier.quote label ++ ")"

/-- The selector as an edge step of a query, along the direction of the edge. -/
def edgeStep : Selector → String
  | any => "-->"
  | labeled label => "-[:" ++ Identifier.quote label ++ "]->"

end Selector

/-- The two kinds of steps of a path. -/
inductive StepKind where
  | node
  | edge
  deriving DecidableEq, Repr

namespace StepKind

/-- The kind that follows in a path. -/
def next : StepKind → StepKind
  | node => edge
  | edge => node

/-- The name of a kind. -/
def name : StepKind → String
  | node => "node"
  | edge => "edge"

/-- The text of a step of a kind. -/
def fragment : StepKind → Selector → String
  | node, selector => selector.nodeStep
  | edge, selector => selector.edgeStep

end StepKind

/-- A path pattern: selectors for nodes and edges in turn, an odd number of them. -/
structure Pattern where
  selectors : List Selector
  odd : selectors.length % 2 = 1

namespace Pattern

/-- The pattern that tokens stand for. The first empty token counts before the number of tokens. -/
def parse (tokens : List String) : Except Error Pattern := do
  let selectors ← tokens.mapM Selector.parse
  if selectors.isEmpty then .error .emptyPattern
  else if odd : selectors.length % 2 = 1 then .ok ⟨selectors, odd⟩
  else .error (.unsupportedPattern (.evenLength selectors.length))

/-- The number of steps. -/
def size (pattern : Pattern) : Nat := pattern.selectors.length

/-- The number of node steps. -/
def nodeSteps (pattern : Pattern) : Nat := (pattern.size + 1) / 2

/-- The number of edge steps. -/
def edgeSteps (pattern : Pattern) : Nat := pattern.size / 2

/-- Selectors paired with the kinds of their steps, from a given kind on. -/
def stepsFrom (kind : StepKind) : List Selector → List (StepKind × Selector)
  | [] => []
  | selector :: rest => (kind, selector) :: stepsFrom kind.next rest

/-- The steps of a pattern, nodes and edges in turn. -/
def steps (pattern : Pattern) : List (StepKind × Selector) := stepsFrom .node pattern.selectors

end Pattern

end GraphGateway
