import GraphGateway.Assembly.Basic

/-!
# Schemas

A store describes its schema by one row of virtual nodes and relationships, one for every label and
every way a relationship type is used. Their identities live in a space apart from the data, so
every element of a schema graph gets a new id.
-/

namespace GraphGateway

/-- The virtual nodes and relationships of a schema. -/
structure Schema where
  nodes : List StoreNode := []
  relationships : List StoreRelationship := []

namespace Schema

/-- The column of the virtual nodes. -/
def nodesColumn : String := "nodes"

/-- The column of the virtual relationships. -/
def relationshipsColumn : String := "relationships"

/-- The elements of a list in a column. Null elements are passed over, elements of another kind are
an error. -/
def elements {α : Type} (column : String) (view : Cell → Option α) :
    List Cell → Except Error (List α)
  | [] => .ok []
  | cell :: rest =>
    if cell.isNull then elements column view rest
    else match view cell with
      | some element => (element :: ·) <$> elements column view rest
      | none => .error (.unexpectedShape (.listElement column cell.kind))

/-- The schema in an answer, of which only the first row counts. -/
def ofRows : List Row → Except Error Schema
  | [] => .ok {}
  | row :: _ => do
    let nodes ← elements nodesColumn Cell.node? (← row.list nodesColumn)
    let relationships ← elements relationshipsColumn Cell.relationship?
      (← row.list relationshipsColumn)
    return { nodes, relationships }

/-- The state of a schema's assembly: identities of nodes always get new ids. -/
structure Draft where
  supply : IdSupply
  nodes : Identities := { policy := .mint }
  graph : Graph := {}

namespace Draft

/-- Places a virtual node. -/
def placeNode (draft : Draft) (node : StoreNode) : Except Error Unit × Draft :=
  match draft.nodes.assign node.identity node.carriedId? draft.supply with
  | .error error => (.error error, draft)
  | .ok (id, nodes, supply) =>
    (.ok (), { draft with nodes, supply, graph := (draft.graph.addNode (node.toNode id)).1 })

/-- Places a virtual relationship under a new id. -/
def placeRelationship (draft : Draft) (relationship : StoreRelationship) :
    Except Error Unit × Draft :=
  let (id, supply) := draft.supply.mint
  let draft := { draft with supply }
  let step : Except Error Graph := do
    let source ← draft.nodes.endpoint id relationship.start
    let target ← draft.nodes.endpoint id relationship.finish
    let (graph, _) ← draft.graph.addEdge (relationship.toEdge id source target)
    return graph
  match step with
  | .error error => (.error error, draft)
  | .ok graph => (.ok (), { draft with graph })

/-- Takes steps over a list until one fails. -/
def all {α : Type} (step : Draft → α → Except Error Unit × Draft) (draft : Draft) :
    List α → Except Error Unit × Draft
  | [] => (.ok (), draft)
  | item :: rest =>
    match step draft item with
    | (.error error, draft) => (.error error, draft)
    | (.ok (), draft) => all step draft rest

end Draft

end Schema

/-- The graph of a schema, all nodes before all relationships, and the supply that is left. -/
def Graph.ofSchema (supply : IdSupply) (schema : Schema) : Except Error Graph × IdSupply :=
  match Schema.Draft.all Schema.Draft.placeNode { supply } schema.nodes with
  | (.error error, draft) => (.error error, draft.supply)
  | (.ok (), draft) =>
    let (answer, draft) :=
      Schema.Draft.all Schema.Draft.placeRelationship draft schema.relationships
    (answer.map fun _ => draft.graph, draft.supply)

end GraphGateway
