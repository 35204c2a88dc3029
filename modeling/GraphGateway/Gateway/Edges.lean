import GraphGateway.Gateway.Basic

/-!
# Operations on edges

Reading, creating, changing and deleting edges. As with nodes, an edge is created or changed only
after the store has been asked whether its id is there, and the id is stored among the properties.
-/

namespace GraphGateway.Gateway

open Call

/-- Whether an edge has an id. -/
def hasEdge (id : String) : Call Bool := do
  let count ← check (Answer.count (← read (EdgeStatement.presence id)))
  return count > 0

/-- The edge with an id. -/
def edge? (id : String) : Call (Option Edge) := do
  let edges ← edgesOf (← read (EdgeStatement.byId id))
  return edges.head?

/-- An edge from one node to another, perhaps only of a type. -/
def edgeBetween? (source target : String) (type? : Option String) : Call (Option Edge) := do
  let type? ← check (type?.mapM checkLabel)
  let edges ← edgesOf (← read (EdgeStatement.between source target type?))
  return edges.head?

/-- Edges of a type. -/
def edgesLabeled (type : String) (amount : Int64) : Call (List Edge) := do
  if amount ≤ 0 then return []
  let type ← check (checkLabel type)
  edgesOf (← read (EdgeStatement.labeled type amount))

/-- Edges that a filter lets through; the configured limit counts when no amount is given. -/
def edgesMatching (gateway : Gateway) (filter : Json) (amount? : Option Int64) :
    Call (List Edge) := do
  let amount := amount?.getD gateway.settings.defaultLimit
  let statement ← check (EdgeStatement.matching gateway.filters filter amount)
  edgesOf (← read statement)

/-- The number of edges that a filter lets through. -/
def countEdges (gateway : Gateway) (filter : Json) : Call Int64 := do
  let statement ← check (EdgeStatement.count gateway.filters filter)
  check (Answer.count (← read statement))

/-- The checked type of a new edge; the configured type counts when none is given. -/
def typeOfNew (gateway : Gateway) (labels : List String) : Except Error String := do
  match ← checkType labels with
  | some type => return type
  | none => checkLabel gateway.settings.defaultEdgeLabel

/-- Creates an edge under the id of the request, or under a new one. The store answers with no row
when one of the two nodes is missing. -/
def createEdge (gateway : Gateway) (request : EdgeRequest) : Call Edge := do
  let type ← check (typeOfNew gateway request.labels)
  let id ← match usableId? request.id? with
    | some id => pure id
    | none => mint
  if ← hasEdge id then throw (.itemExists (.edge id))
  let properties := request.properties.withoutReserved
  let rows ← write
    (EdgeStatement.create request.source request.target type (storedData id properties))
  if rows.isEmpty then throw (.itemMissing (.endpoints request.source request.target))
  return {
    id, properties, source := request.source, target := request.target, label? := some type }

/-- The name of an edge that may have been asked for by its type too. -/
def edgeItem (id : String) : Option String → Item
  | some type => .typedEdge id type
  | none => .edge id

/-- Replaces the properties of the edge with an id, perhaps only if it is of a type. -/
def updateEdge (id : String) (labels : List String) (properties : Properties) : Call Edge := do
  if Text.isBlankText id then throw (.invalidInput .edgeWithoutId)
  let type? ← check (checkType labels)
  if !(← hasEdge id) then throw (.itemMissing (.edge id))
  let data := storedData id properties.withoutReserved
  let edges ← edgesOf (← write (EdgeStatement.update id type? data))
  match edges.head? with
  | some edge => return edge
  | none => throw (.itemMissing (edgeItem id type?))

/-- Updates the edge with the id of the request if it is there, and creates it otherwise. -/
def upsertEdge (gateway : Gateway) (request : EdgeRequest) : Call Edge := do
  let existing? ← match usableId? request.id? with
    | some id => do
      let present ← hasEdge id
      pure (if present then some id else none)
    | none => pure none
  match existing? with
  | some id => updateEdge id request.labels request.properties
  | none => createEdge gateway request

/-- Deletes the edge with an id. -/
def deleteEdge (id : String) : Call Unit := do
  let _ ← write (EdgeStatement.delete id)

end GraphGateway.Gateway
