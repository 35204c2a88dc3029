import GraphGateway.Assembly.Identities
import GraphGateway.Graph.Basic
import GraphGateway.Store.Piece

/-!
# Assembling a graph

Pieces of an answer are placed one after the other into a growing graph. Nodes and relationships get
their stable ids in two separate spaces of identities and from one supply. A step that fails says
why and leaves behind what it had done until then, so that an assembly can go on after it.
-/

namespace GraphGateway

/-- The graph node of a store node with a stable id. -/
def StoreNode.toNode (node : StoreNode) (id : String) : Node :=
  Node.ofLabels id node.labels node.properties.withoutReserved

/-- The graph edge of a relationship with stable ids. -/
def StoreRelationship.toEdge (relationship : StoreRelationship) (id source target : String) :
    Edge where
  id := id
  source := source
  target := target
  label? := relationship.label?
  properties := relationship.properties.withoutReserved

/-- The state of an assembly. -/
structure Assembly where
  supply : IdSupply
  nodes : Identities := { policy := .reuse }
  relationships : Identities := { policy := .reuse }
  graph : Graph := {}

namespace Assembly

/-- The stable id of a relationship. -/
def edgeId (assembly : Assembly) (relationship : StoreRelationship) :
    Except Error (String × Assembly) := do
  let (id, relationships, supply) ←
    assembly.relationships.assign relationship.identity relationship.carriedId? assembly.supply
  return (id, { assembly with relationships, supply })

/-- Adds an edge and answers with its id. -/
def addEdge (assembly : Assembly) (edge : Edge) : Except Error String × Assembly :=
  match assembly.graph.addEdge edge with
  | .error error => (.error error, assembly)
  | .ok (graph, _) => (.ok edge.id, { assembly with graph })

/-- Places a node and answers with its stable id. -/
def placeNode (assembly : Assembly) (node : StoreNode) : Except Error String × Assembly :=
  match assembly.nodes.assign node.identity node.carriedId? assembly.supply with
  | .error error => (.error error, assembly)
  | .ok (id, nodes, supply) =>
    (.ok id, { assembly with nodes, supply, graph := (assembly.graph.addNode (node.toNode id)).1 })

/-- Places a relationship between the nodes at its own ends, which must have been placed, and
answers with its stable id. -/
def placeRelationship (assembly : Assembly) (relationship : StoreRelationship) :
    Except Error String × Assembly :=
  match assembly.edgeId relationship with
  | .error error => (.error error, assembly)
  | .ok (id, assembly) =>
    match assembly.nodes.endpoint id relationship.start with
    | .error error => (.error error, assembly)
    | .ok source =>
      match assembly.nodes.endpoint id relationship.finish with
      | .error error => (.error error, assembly)
      | .ok target => assembly.addEdge (relationship.toEdge id source target)

/-- Places a relationship between two nodes given by their stable ids, whatever its own ends are,
and answers with its stable id. -/
def placeBetween (assembly : Assembly) (relationship : StoreRelationship)
    (source target : String) : Except Error String × Assembly :=
  match assembly.edgeId relationship with
  | .error error => (.error error, assembly)
  | .ok (id, assembly) => assembly.addEdge (relationship.toEdge id source target)

/-- Places a hop: its two nodes, then its relationship. -/
def placeHop (assembly : Assembly) (hop : Hop) : Except Error String × Assembly :=
  match assembly.placeNode hop.start with
  | (.error error, assembly) => (.error error, assembly)
  | (.ok _, assembly) =>
    match assembly.placeNode hop.finish with
    | (.error error, assembly) => (.error error, assembly)
    | (.ok _, assembly) => assembly.placeRelationship hop.relationship

/-- Places a piece. -/
def place (assembly : Assembly) (piece : Piece) : Except Error Unit × Assembly :=
  let (answer, assembly) := match piece with
    | .node node => assembly.placeNode node
    | .relationship relationship => assembly.placeRelationship relationship
    | .hop hop => assembly.placeHop hop
  (answer.map fun _ => (), assembly)

/-- Places pieces until one fails. -/
def placeAll (assembly : Assembly) : List Piece → Except Error Unit × Assembly
  | [] => (.ok (), assembly)
  | piece :: rest =>
    match assembly.place piece with
    | (.error error, assembly) => (.error error, assembly)
    | (.ok (), assembly) => assembly.placeAll rest

/-- The graph of an assembly, if its last step did not fail, and the supply that is left. -/
def finish (outcome : Except Error Unit × Assembly) : Except Error Graph × IdSupply :=
  (outcome.1.map fun _ => outcome.2.graph, outcome.2.supply)

end Assembly

/-- The graph of a list of pieces, and the supply that is left. -/
def Graph.ofPieces (supply : IdSupply) (pieces : List Piece) : Except Error Graph × IdSupply :=
  Assembly.finish (({ supply } : Assembly).placeAll pieces)

end GraphGateway
