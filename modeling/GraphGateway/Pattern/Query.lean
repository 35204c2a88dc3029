import GraphGateway.Pattern.Basic

/-!
# Queries of path patterns

A pattern of one label compiles to a query for nodes, a longer pattern to a query for whole paths.
The lone wildcard has no query: to list every node of the store is not a path query.
-/

namespace GraphGateway

/-- What the rows of a query hold. -/
inductive QueryShape where
  | nodes
  | paths
  deriving DecidableEq, Repr

namespace QueryShape

/-- The column that holds the result. -/
def column : QueryShape → String
  | nodes => "n"
  | paths => "p"

/-- The name of a shape. -/
def name : QueryShape → String
  | nodes => "nodes"
  | paths => "paths"

end QueryShape

/-- A query with what is needed to read its result. -/
structure PathQuery where
  text : String
  limit : Int64
  shape : QueryShape
  nodeSteps : Nat
  edgeSteps : Nat

namespace PathQuery

/-- The column that holds the result. -/
def column (query : PathQuery) : String := query.shape.column

/-- Whether the limit lets nothing through, so that the result is known to be empty. -/
def isExhausted (query : PathQuery) : Bool := query.limit ≤ 0

/-- The text of the limit that ends a query. -/
def limitText (limit : Int64) : String := " LIMIT " ++ toString limit.toInt

/-- The query for the nodes with a label. -/
def ofLabel (label : String) (limit : Int64) : PathQuery where
  text := "MATCH (n:" ++ Identifier.quote label ++ ") RETURN n" ++ limitText limit
  limit := limit
  shape := .nodes
  nodeSteps := 1
  edgeSteps := 0

/-- The query for the paths of a pattern. -/
def ofSteps (pattern : Pattern) (limit : Int64) : PathQuery where
  text :=
    "MATCH p=" ++ String.join (pattern.steps.map fun step => step.1.fragment step.2) ++
      " RETURN p" ++ limitText limit
  limit := limit
  shape := .paths
  nodeSteps := pattern.nodeSteps
  edgeSteps := pattern.edgeSteps

end PathQuery

/-- The query of a pattern. -/
def Pattern.compile (pattern : Pattern) (limit : Int64) : Except Error PathQuery :=
  match pattern.selectors with
  | [.any] => .error (.unsupportedPattern .loneWildcard)
  | [.labeled label] => .ok (PathQuery.ofLabel label limit)
  | _ => .ok (PathQuery.ofSteps pattern limit)

/-- The query that tokens stand for. -/
def PathQuery.ofTokens (tokens : List String) (limit : Int64) : Except Error PathQuery := do
  let pattern ← Pattern.parse tokens
  pattern.compile limit

end GraphGateway
