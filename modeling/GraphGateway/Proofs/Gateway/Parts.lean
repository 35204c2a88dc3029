import GraphGateway.Gateway.Edges
import GraphGateway.Gateway.Nodes

/-!
# Storing operations in parts

The operations that create and change elements, as the sequences of their parts: the choice of an
id, the question whether it is there, the checks, and the one statement that changes the store.
-/

namespace GraphGateway.Gateway

open Call

/-- The id of a request, or a new one. -/
def chooseId (id? : Option String) : Call String :=
  match usableId? id? with
  | some id => pure id
  | none => mint

/-- What is left of creating a node once its id is known to be free. -/
def createFreeNode (gateway : Gateway) (request : NodeRequest) (id : String) : Call Node := do
  let labels ← check (labelsOfNew gateway request.labels)
  let properties := request.properties.withoutReserved
  let _ ← write (NodeStatement.create labels (storedData id properties))
  return Node.ofLabels id labels properties

/-- What is left of changing a node once its id is known to be there. -/
def updatePresentNode (request : NodeRequest) (id : String) : Call Node := do
  let labels ← check (request.labels.mapM checkLabel)
  let nodes ← nodesOf (← write
    (NodeStatement.update id labels (storedData id request.properties.withoutReserved)))
  match nodes.head? with
  | some node => return node
  | none => throw (.itemMissing (.node id))

/-- What is left of creating an edge once its id is known to be free. -/
def createFreeEdge (request : EdgeRequest) (type id : String) : Call Edge := do
  let properties := request.properties.withoutReserved
  let rows ← write
    (EdgeStatement.create request.source request.target type (storedData id properties))
  if rows.isEmpty then throw (.itemMissing (.endpoints request.source request.target))
  else return {
    id, properties, source := request.source, target := request.target, label? := some type }

/-- What is left of changing an edge once its id is known to be there. -/
def updatePresentEdge (type? : Option String) (properties : Properties) (id : String) :
    Call Edge := do
  let edges ← edgesOf (← write
    (EdgeStatement.update id type? (storedData id properties.withoutReserved)))
  match edges.head? with
  | some edge => return edge
  | none => throw (.itemMissing (edgeItem id type?))

/-- Creating a node: an id is chosen, and the store is asked for it first. -/
theorem createNode_eq (gateway : Gateway) (request : NodeRequest) :
    createNode gateway request = (do
      let id ← chooseId request.id?
      let present ← hasNode id
      if present then throw (.itemExists (.node id)) else createFreeNode gateway request id) := by
  unfold createNode chooseId
  cases usableId? request.id? <;> rfl

/-- Changing a node. -/
theorem updateNode_eq (request : NodeRequest) :
    updateNode request =
      match usableId? request.id? with
      | none => throw (.invalidInput .nodeWithoutId)
      | some id => (do
        let present ← hasNode id
        if !present then throw (.itemMissing (.node id)) else updatePresentNode request id) := by
  unfold updateNode
  cases usableId? request.id? <;> rfl

/-- Changing a node or creating it. -/
theorem upsertNode_eq (gateway : Gateway) (request : NodeRequest) :
    upsertNode gateway request =
      match usableId? request.id? with
      | none => createNode gateway request
      | some id => (do
        let present ← hasNode id
        if present then updateNode request else createNode gateway request) := by
  unfold upsertNode
  cases usableId? request.id? <;> rfl

/-- Creating an edge: once its type is known, as for a node. -/
theorem createEdge_eq (gateway : Gateway) (request : EdgeRequest) :
    createEdge gateway request = (do
      let type ← check (typeOfNew gateway request.labels)
      let id ← chooseId request.id?
      let present ← hasEdge id
      if present then throw (.itemExists (.edge id)) else createFreeEdge request type id) := by
  unfold createEdge chooseId
  cases usableId? request.id? <;> rfl

/-- Changing an edge. -/
theorem updateEdge_eq (id : String) (labels : List String) (properties : Properties) :
    updateEdge id labels properties =
      if Text.isBlankText id then throw (.invalidInput .edgeWithoutId)
      else (do
        let type? ← check (checkType labels)
        let present ← hasEdge id
        if !present then throw (.itemMissing (.edge id))
        else updatePresentEdge type? properties id) :=
  rfl

/-- Changing an edge or creating it. -/
theorem upsertEdge_eq (gateway : Gateway) (request : EdgeRequest) :
    upsertEdge gateway request =
      match usableId? request.id? with
      | none => createEdge gateway request
      | some id => (do
        let present ← hasEdge id
        if present then updateEdge id request.labels request.properties
        else createEdge gateway request) := by
  unfold upsertEdge
  cases usableId? request.id? with
  | none => rfl
  | some id =>
    refine congrArg (bind (hasEdge id)) (funext fun present => ?_)
    cases present <;> rfl

end GraphGateway.Gateway
