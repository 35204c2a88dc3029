import GraphGateway.Datum.Json
import GraphGateway.Graph.Basic

/-!
# Graphs as JSON

Two JSON forms of graph elements. In the flat form the properties stand beside the structural
members, which win where names meet. In the nested form the properties are a member of their own,
and the elements of a graph stand under their ids.
-/

namespace GraphGateway

/-- The JSON form of properties. -/
def Properties.toJson (properties : Properties) : SortedMap Json :=
  properties.mapValues Datum.toJson

/-- The flat form of a node. -/
def Node.toFlatJson (node : Node) : Json :=
  .ofMap <| ((Properties.toJson node.properties).insert "id" (.string node.id)).insert
    "labels" (.ofStrings node.labels)

/-- The flat form of an edge. -/
def Edge.toFlatJson (edge : Edge) : Json :=
  .ofMap <| ((((Properties.toJson edge.properties).insert "id" (.string edge.id)).insert
    "labels" (.ofStrings edge.labels)).insert "sourceId" (.string edge.source)).insert
    "targetId" (.string edge.target)

/-- The flat form of a graph: its nodes and its edges, in order. -/
def Graph.toFlatJson (graph : Graph) : Json :=
  .ofMembers [("nodes", .array (graph.nodes.map Node.toFlatJson)),
    ("edges", .array (graph.edges.map Edge.toFlatJson))]

/-- The nested form of a node. -/
def Node.toNestedJson (node : Node) : Json :=
  .ofMembers [("id", .string node.id), ("labels", .ofStrings node.labels),
    ("properties", .ofMap (Properties.toJson node.properties))]

/-- The nested form of an edge. -/
def Edge.toNestedJson (edge : Edge) : Json :=
  .ofMembers [("id", .string edge.id), ("labels", .ofStrings edge.labels),
    ("properties", .ofMap (Properties.toJson edge.properties)),
    ("source_id", .string edge.source), ("target_id", .string edge.target)]

/-- The nested form of a graph: its elements under their ids. -/
def Graph.toNestedJson (graph : Graph) : Json :=
  .ofMembers [("nodes", .ofMembers (graph.nodes.map fun node => (node.id, node.toNestedJson))),
    ("edges", .ofMembers (graph.edges.map fun edge => (edge.id, edge.toNestedJson)))]

end GraphGateway
