import GraphGateway.Gateway.Basic
import GraphGateway.Neighborhood
import GraphGateway.Schema
import GraphGateway.Statement.Whole

/-!
# Operations that answer with graphs

The paths of a pattern, the neighbourhood of a node and the schema of the store. A limit that lets
nothing through is answered without asking the store.
-/

namespace GraphGateway.Gateway

open Call

/-- The graph of the paths that match a pattern; the configured limit counts when none is given. -/
def pathGraph (gateway : Gateway) (tokens : List String) (limit? : Option Int64) : Call Graph := do
  let query ← check (PathQuery.ofTokens tokens (limit?.getD gateway.settings.defaultLimit))
  if query.isExhausted then return {}
  let rows ← read (GraphStatement.path query)
  let pieces ← check (Piece.ofRows query.column rows)
  draw fun supply => Graph.ofPieces supply pieces

/-- The graph around a node. -/
def neighborhood (id : String) (limit : Int64) : Call Graph := do
  if limit ≤ 0 then return {}
  let rows ← read (GraphStatement.neighborhood id limit)
  let neighborRows ← check (NeighborRow.ofRows rows)
  draw fun supply => Graph.ofNeighborhood supply id neighborRows limit

/-- The graph of the schema. -/
def schema : Call Graph := do
  let rows ← read GraphStatement.schema
  let schema ← check (Schema.ofRows rows)
  draw fun supply => Graph.ofSchema supply schema

/-- The labels in use. -/
def nodeLabels : Call (List String) := do
  check (Answer.texts Column.label (← read GraphStatement.nodeLabels))

/-- The relationship types in use. -/
def edgeLabels : Call (List String) := do
  check (Answer.texts Column.relationshipType (← read GraphStatement.edgeLabels))

/-- Deletes everything. -/
def clear : Call Unit := do
  let _ ← write GraphStatement.clear

end GraphGateway.Gateway
