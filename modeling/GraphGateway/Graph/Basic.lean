import GraphGateway.Error

/-!
# Graphs

A graph of nodes and directed edges with stable ids. Elements stay in the order in which they were
added, the first element added under an id is the one that counts, and an edge is accepted only
when both its ends are nodes of the graph.
-/

namespace GraphGateway

/-- A node of a graph: a stable id, labels in order without repetition, and properties. -/
structure Node where
  id : String
  labels : List String := []
  properties : Properties := {}

/-- Nodes are equal when their ids are, whatever else they have. -/
instance : BEq Node where
  beq node other := node.id == other.id

namespace Node

/-- The node with the given labels, of which only first occurrences count. -/
def ofLabels (id : String) (labels : List String) (properties : Properties) : Node where
  id := id
  labels := labels.eraseDups
  properties := properties

/-- Whether a node has a label. -/
def hasLabel (node : Node) (label : String) : Bool := node.labels.contains label

/-- The node with one more label, at the end unless the node has it already. -/
def addLabel (node : Node) (label : String) : Node :=
  if node.hasLabel label then node else { node with labels := node.labels ++ [label] }

/-- The value of a property. -/
def property? (node : Node) (key : String) : Option Datum := node.properties.get? key

/-- The node with a value under a property. -/
def setProperty (node : Node) (key : String) (value : Datum) : Node :=
  { node with properties := node.properties.insert key value }

end Node

/-- A directed edge of a graph. It carries at most one label, the type of the relationship. -/
structure Edge where
  id : String
  source : String
  target : String
  label? : Option String := none
  properties : Properties := {}

/-- Edges are equal when their ids are, whatever else they have. -/
instance : BEq Edge where
  beq edge other := edge.id == other.id

namespace Edge

/-- The labels of an edge as a list. -/
def labels (edge : Edge) : List String := edge.label?.toList

/-- Whether the edge goes from a node. -/
def startsFrom (edge : Edge) (id : String) : Bool := edge.source == id

/-- Whether the edge goes to a node. -/
def endsAt (edge : Edge) (id : String) : Bool := edge.target == id

/-- The value of a property. -/
def property? (edge : Edge) (key : String) : Option Datum := edge.properties.get? key

/-- The edge with a value under a property. -/
def setProperty (edge : Edge) (key : String) (value : Datum) : Edge :=
  { edge with properties := edge.properties.insert key value }

end Edge

/-- Nodes and edges in the order in which they were added. -/
structure Graph where
  nodes : List Node := []
  edges : List Edge := []

namespace Graph

/-- The graph without elements. -/
def empty : Graph := {}

/-- The node with an id. -/
def node? (graph : Graph) (id : String) : Option Node := graph.nodes.find? (·.id == id)

/-- The edge with an id. -/
def edge? (graph : Graph) (id : String) : Option Edge := graph.edges.find? (·.id == id)

/-- Whether a node has an id. -/
def hasNode (graph : Graph) (id : String) : Bool := graph.nodes.any (·.id == id)

/-- Whether an edge has an id. -/
def hasEdge (graph : Graph) (id : String) : Bool := graph.edges.any (·.id == id)

/-- Whether there is neither a node nor an edge. -/
def isEmpty (graph : Graph) : Bool := graph.nodes.isEmpty && graph.edges.isEmpty

/-- The graph with one more node, and whether it was added: a node with a known id is ignored. -/
def addNode (graph : Graph) (node : Node) : Graph × Bool :=
  if graph.hasNode node.id then (graph, false)
  else ({ graph with nodes := graph.nodes ++ [node] }, true)

/-- The graph with one more edge, and whether it was added: an edge with a known id is ignored. Both
ends must be nodes of the graph; the source is looked for first. -/
def addEdge (graph : Graph) (edge : Edge) : Except Error (Graph × Bool) :=
  if !graph.hasNode edge.source then .error (.danglingEndpoint edge.id edge.source)
  else if !graph.hasNode edge.target then .error (.danglingEndpoint edge.id edge.target)
  else if graph.hasEdge edge.id then .ok (graph, false)
  else .ok ({ graph with edges := graph.edges ++ [edge] }, true)

/-- The edges that go from a node. -/
def outgoing (graph : Graph) (id : String) : List Edge := graph.edges.filter (·.startsFrom id)

/-- The edges that go to a node. -/
def incoming (graph : Graph) (id : String) : List Edge := graph.edges.filter (·.endsAt id)

end Graph

end GraphGateway
