import GraphGateway.Proofs.Graph.Growth

/-!
# Building a graph

Any sequence of additions to the empty graph, refused ones included, told by the sequence alone. A
node counts where it is the first with its id. An edge is accepted where nodes with the ids of both
its ends come before it, and counts where it is the first accepted one with its id. Main statement:
the graph holds just these elements, in this order.
-/

namespace GraphGateway

/-- An element that is to be added to a graph. -/
inductive Addition where
  | node (node : Node)
  | edge (edge : Edge)

/-- The node that is added, if one is. -/
def Addition.node? : Addition → Option Node
  | node added => some added
  | edge _ => none

/-- The nodes among additions, in order. -/
def addedNodes (additions : List Addition) : List Node := additions.filterMap Addition.node?

@[simp] theorem addedNodes_nil : addedNodes [] = [] := rfl

@[simp] theorem addedNodes_cons_node (node : Node) (rest : List Addition) :
    addedNodes (.node node :: rest) = node :: addedNodes rest := rfl

@[simp] theorem addedNodes_cons_edge (edge : Edge) (rest : List Addition) :
    addedNodes (.edge edge :: rest) = addedNodes rest := rfl

/-- One of the nodes has an id. -/
def Knows (nodes : List Node) (id : String) : Prop := ∃ node ∈ nodes, node.id = id

instance (nodes : List Node) (id : String) : Decidable (Knows nodes id) :=
  inferInstanceAs (Decidable (∃ node ∈ nodes, node.id = id))

/-- The edges among additions that find nodes for both their ends among those added before them, the
given ones included, in order. -/
def acceptedAfter (before : List Node) : List Addition → List Edge
  | [] => []
  | .node node :: rest => acceptedAfter (before ++ [node]) rest
  | .edge edge :: rest =>
    if Knows before edge.source ∧ Knows before edge.target then edge :: acceptedAfter before rest
    else acceptedAfter before rest

/-- The edges among additions that are accepted, in order. -/
def acceptedEdges (additions : List Addition) : List Edge := acceptedAfter [] additions

namespace Graph

/-- The graph after an addition. A refused edge is left out. -/
def after (graph : Graph) : Addition → Graph
  | .node node => (graph.addNode node).1
  | .edge edge =>
    match graph.addEdge edge with
    | .ok (grown, _) => grown
    | .error _ => graph

/-- The graph that additions build from the empty one, of which a refused one does not keep the next
from being made. -/
def build (additions : List Addition) : Graph := additions.foldl after empty

/-- The graph holds the first under each id of some nodes and of some edges. -/
structure HoldsFirsts (graph : Graph) (nodes : List Node) (edges : List Edge) : Prop where
  nodes_eq : graph.nodes = firstsBy Node.id nodes
  edges_eq : graph.edges = firstsBy Edge.id edges

namespace HoldsFirsts

variable {graph : Graph} {nodes : List Node} {edges : List Edge}

/-- An id is known to the graph just when one of the nodes has it. -/
theorem mem_nodeIds (hholds : graph.HoldsFirsts nodes edges) {id : String} :
    id ∈ graph.nodeIds ↔ Knows nodes id := by
  rw [nodeIds, hholds.nodes_eq, mem_map_firstsBy, List.mem_map, Knows]

/-- Adding a node puts it behind the nodes. -/
theorem addNode (hholds : graph.HoldsFirsts nodes edges) (node : Node) :
    (graph.addNode node).1.HoldsFirsts (nodes ++ [node]) edges where
  nodes_eq := by
    rw [nodes_addNode, firstsBy_append_singleton, ← hholds.nodes_eq, nodeIds, hholds.nodes_eq]
    simp only [mem_map_firstsBy]
  edges_eq := (edges_addNode _ _).trans hholds.edges_eq

/-- Adding an edge between known nodes puts it behind the edges. -/
theorem addEdge (hholds : graph.HoldsFirsts nodes edges) {edge : Edge} {grown : Graph}
    {added : Bool} (h : graph.addEdge edge = .ok (grown, added)) :
    grown.HoldsFirsts nodes (edges ++ [edge]) where
  nodes_eq := (nodes_of_addEdge h).trans hholds.nodes_eq
  edges_eq := by
    obtain ⟨-, -, rfl, -⟩ := addEdge_eq_ok_iff.mp h
    rw [firstsBy_append_singleton, ← hholds.edges_eq, edgeIds, hholds.edges_eq]
    simp only [mem_map_firstsBy]
    split
    · exact hholds.edges_eq
    · rw [← hholds.edges_eq]

/-- An edge that is accepted finds nodes for both its ends. -/
theorem knows_of_addEdge (hholds : graph.HoldsFirsts nodes edges) {edge : Edge} {grown : Graph}
    {added : Bool} (h : graph.addEdge edge = .ok (grown, added)) :
    Knows nodes edge.source ∧ Knows nodes edge.target := by
  obtain ⟨hsource, htarget, -, -⟩ := addEdge_eq_ok_iff.mp h
  exact ⟨hholds.mem_nodeIds.mp hsource, hholds.mem_nodeIds.mp htarget⟩

/-- An edge is refused just when it misses a node for one of its ends; the source is named before
the target. -/
theorem addEdge_eq_error_iff (hholds : graph.HoldsFirsts nodes edges) {edge : Edge}
    {error : Error} :
    graph.addEdge edge = .error error ↔
      (¬Knows nodes edge.source ∧ error = .danglingEndpoint edge.id edge.source) ∨
      (Knows nodes edge.source ∧ ¬Knows nodes edge.target ∧
        error = .danglingEndpoint edge.id edge.target) := by
  rw [Graph.addEdge_eq_error_iff, hholds.mem_nodeIds, hholds.mem_nodeIds]

/-- Additions put their nodes behind the nodes, and the edges that are accepted behind the edges. -/
theorem foldl_after (hholds : graph.HoldsFirsts nodes edges) (additions : List Addition) :
    (additions.foldl after graph).HoldsFirsts (nodes ++ addedNodes additions)
      (edges ++ acceptedAfter nodes additions) := by
  induction additions generalizing graph nodes edges with
  | nil => simpa [acceptedAfter] using hholds
  | cons addition rest ih =>
    cases addition with
    | node node =>
      rw [List.foldl_cons, after, acceptedAfter]
      simpa using ih (hholds.addNode node)
    | edge edge =>
      cases hadd : graph.addEdge edge with
      | ok outcome =>
        rw [List.foldl_cons, after, hadd, acceptedAfter, if_pos (hholds.knows_of_addEdge hadd)]
        simpa using ih (hholds.addEdge hadd)
      | error error =>
        have hmissing : ¬(Knows nodes edge.source ∧ Knows nodes edge.target) := by
          rcases hholds.addEdge_eq_error_iff.mp hadd with ⟨hsource, -⟩ | ⟨-, htarget, -⟩
          · exact fun h => hsource h.1
          · exact fun h => htarget h.2
        rw [List.foldl_cons, after, hadd, acceptedAfter, if_neg hmissing]
        exact ih hholds

/-- A graph that is built holds the first nodes and the first accepted edges under their ids. -/
theorem build (additions : List Addition) :
    (Graph.build additions).HoldsFirsts (addedNodes additions) (acceptedEdges additions) := by
  have hempty : empty.HoldsFirsts [] [] := ⟨rfl, rfl⟩
  exact hempty.foldl_after additions

/-- An id leads to the first node that has it. -/
theorem node?_eq (hholds : graph.HoldsFirsts nodes edges) (id : String) :
    graph.node? id = nodes.find? (·.id == id) := by
  rw [node?, hholds.nodes_eq]
  exact find?_firstsBy Node.id nodes id

/-- An id leads to the first edge that has it. -/
theorem edge?_eq (hholds : graph.HoldsFirsts nodes edges) (id : String) :
    graph.edge? id = edges.find? (·.id == id) := by
  rw [edge?, hholds.edges_eq]
  exact find?_firstsBy Edge.id edges id

end HoldsFirsts

/-- An addition keeps a graph sound, also one that is refused. -/
theorem Sound.after {graph : Graph} (hsound : graph.Sound) (addition : Addition) :
    (graph.after addition).Sound := by
  cases addition with
  | node node => exact hsound.addNode node
  | edge edge =>
    rw [Graph.after]
    split
    next hadd => exact hsound.addEdge hadd
    next => exact hsound

/-- Additions keep a graph sound. -/
theorem Sound.foldl_after {graph : Graph} (hsound : graph.Sound) (additions : List Addition) :
    (additions.foldl Graph.after graph).Sound := by
  induction additions generalizing graph with
  | nil => exact hsound
  | cons addition rest ih => exact ih (hsound.after addition)

/-- A graph that is built finds under an id the first node added with it, and the first edge
accepted with it, and lists just these, in the order in which they were added, every id once and
every edge between its nodes. A further element is put behind the others where the answer says so,
and else nothing changes. An edge is refused just when no node was added for one of its ends, the
source being named before the target, and then nothing changes either. -/
theorem build_holds_firsts (additions : List Addition) :
    let graph := build additions
    let nodes := addedNodes additions
    let edges := acceptedEdges additions
    (∀ id, graph.node? id = nodes.find? (·.id == id) ∧ graph.edge? id = edges.find? (·.id == id)) ∧
    (graph.nodes = firstsBy Node.id nodes ∧ graph.edges = firstsBy Edge.id edges) ∧
    (graph.nodeIds.Nodup ∧ graph.edgeIds.Nodup) ∧
    ((∀ node ∈ graph.nodes, graph.node? node.id = some node) ∧
      ∀ edge ∈ graph.edges, graph.edge? edge.id = some edge) ∧
    (∀ edge ∈ graph.edges, edge.source ∈ graph.nodeIds ∧ edge.target ∈ graph.nodeIds) ∧
    (∀ node,
      (graph.addNode node).1.nodes =
        graph.nodes ++ (if (graph.addNode node).2 then [node] else []) ∧
      (graph.addNode node).1.edges = graph.edges) ∧
    (∀ edge grown added, graph.addEdge edge = .ok (grown, added) →
      grown.nodes = graph.nodes ∧
      grown.edges = graph.edges ++ (if added then [edge] else [])) ∧
    ∀ edge error,
      (graph.addEdge edge = .error error ↔
        (¬Knows nodes edge.source ∧ error = .danglingEndpoint edge.id edge.source) ∨
        (Knows nodes edge.source ∧ ¬Knows nodes edge.target ∧
          error = .danglingEndpoint edge.id edge.target)) ∧
      (graph.addEdge edge = .error error → build (additions ++ [.edge edge]) = graph) := by
  intro graph nodes edges
  have hholds : graph.HoldsFirsts nodes edges := .build additions
  have hsound : graph.Sound := Sound.empty.foldl_after additions
  refine ⟨fun id => ⟨hholds.node?_eq id, hholds.edge?_eq id⟩, ⟨hholds.nodes_eq, hholds.edges_eq⟩,
    ⟨hsound.nodup_nodeIds, hsound.nodup_edgeIds⟩, ⟨fun node hnode => ?_, fun edge hedge => ?_⟩,
    fun edge hedge => ⟨hsound.source_mem edge hedge, hsound.target_mem edge hedge⟩,
    fun node => ⟨?_, edges_addNode _ _⟩, fun edge grown added hadd => ⟨nodes_of_addEdge hadd, ?_⟩,
    fun edge error => ⟨hholds.addEdge_eq_error_iff, fun herror => ?_⟩⟩
  · exact (node?_eq_some_iff hsound.nodup_nodeIds).mpr ⟨hnode, rfl⟩
  · exact (edge?_eq_some_iff hsound.nodup_edgeIds).mpr ⟨hedge, rfl⟩
  · rw [addNode]
    split <;> simp
  · obtain ⟨-, -, rfl, rfl⟩ := addEdge_eq_ok_iff.mp hadd
    split <;> simp_all
  · rw [build, List.foldl_append, ← build, List.foldl_cons, List.foldl_nil, after, herror]

end Graph

end GraphGateway
