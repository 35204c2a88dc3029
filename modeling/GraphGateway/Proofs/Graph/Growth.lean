import GraphGateway.Graph.Basic
import GraphGateway.Proofs.Graph.Firsts

/-!
# How a graph grows

Adding an element either leaves a graph as it is or appends the element, and an edge is refused just
when one of its ends is missing. From this follows what every graph keeps that is built by adding:
its ids are distinct and its edges join nodes of the graph.
-/

namespace GraphGateway.Graph

/-- The ids of the nodes, in order. -/
def nodeIds (graph : Graph) : List String := graph.nodes.map (·.id)

/-- The ids of the edges, in order. -/
def edgeIds (graph : Graph) : List String := graph.edges.map (·.id)

/-- Appending a value unless it is known adds that value and loses none. -/
private theorem mem_append_unless_mem {values : List String} {value other : String} :
    other ∈ (if value ∈ values then values else values ++ [value]) ↔
      other = value ∨ other ∈ values := by
  split
  next hknown => exact ⟨Or.inr, fun h => h.elim (fun heq => heq ▸ hknown) fun hmem => hmem⟩
  next hnew => simp [or_comm]

/-- A list without repetition stays so when a value is appended unless it is known. -/
private theorem nodup_append_unless_mem {values : List String} {value : String}
    (hvalues : values.Nodup) :
    (if value ∈ values then values else values ++ [value]).Nodup := by
  split
  · exact hvalues
  next hnew =>
    refine List.nodup_append.mpr ⟨hvalues, by simp, ?_⟩
    intro known hknown other hother heq
    rw [List.mem_singleton] at hother
    exact hnew (hother ▸ heq ▸ hknown)

/-- A graph has a node just when the id is among those of its nodes. -/
theorem hasNode_iff {graph : Graph} {id : String} :
    graph.hasNode id = true ↔ id ∈ graph.nodeIds := by
  simp [hasNode, nodeIds]

/-- A graph has an edge just when the id is among those of its edges. -/
theorem hasEdge_iff {graph : Graph} {id : String} :
    graph.hasEdge id = true ↔ id ∈ graph.edgeIds := by
  simp [hasEdge, edgeIds]

/-- A node is appended unless its id is known. -/
theorem nodes_addNode (graph : Graph) (node : Node) :
    (graph.addNode node).1.nodes =
      if node.id ∈ graph.nodeIds then graph.nodes else graph.nodes ++ [node] := by
  simp only [addNode, hasNode_iff]
  split <;> rfl

/-- A node with a known id changes nothing. -/
theorem addNode_of_mem {graph : Graph} {node : Node} (h : node.id ∈ graph.nodeIds) :
    (graph.addNode node).1 = graph := by
  rw [addNode, if_pos (hasNode_iff.mpr h)]

/-- A node with a new id is appended. -/
theorem addNode_of_notMem {graph : Graph} {node : Node} (h : node.id ∉ graph.nodeIds) :
    (graph.addNode node).1 = { graph with nodes := graph.nodes ++ [node] } := by
  rw [addNode, if_neg fun hknown => h (hasNode_iff.mp hknown)]

/-- Adding a node leaves the edges alone. -/
@[simp] theorem edges_addNode (graph : Graph) (node : Node) :
    (graph.addNode node).1.edges = graph.edges := by
  unfold addNode
  split <;> rfl

/-- Adding a node leaves the ids of the edges alone. -/
@[simp] theorem edgeIds_addNode (graph : Graph) (node : Node) :
    (graph.addNode node).1.edgeIds = graph.edgeIds := by
  simp only [edgeIds, edges_addNode]

/-- The id of a node is appended unless it is known. -/
theorem nodeIds_addNode (graph : Graph) (node : Node) :
    (graph.addNode node).1.nodeIds =
      if node.id ∈ graph.nodeIds then graph.nodeIds else graph.nodeIds ++ [node.id] := by
  rw [nodeIds, nodes_addNode]
  split <;> simp [nodeIds]

/-- After adding a node, its id is known besides those known before. -/
@[simp] theorem mem_nodeIds_addNode {graph : Graph} {node : Node} {id : String} :
    id ∈ (graph.addNode node).1.nodeIds ↔ id = node.id ∨ id ∈ graph.nodeIds := by
  rw [nodeIds_addNode, mem_append_unless_mem]

/-- A node of the grown graph was there before or is the new one. -/
theorem mem_nodes_of_addNode {graph : Graph} {node other : Node}
    (h : other ∈ (graph.addNode node).1.nodes) : other ∈ graph.nodes ∨ other = node := by
  rw [nodes_addNode] at h
  split at h
  · exact Or.inl h
  · simpa using h

/-- An edge is accepted just when both its ends are there, and is appended unless its id is
known. -/
theorem addEdge_eq_ok_iff {graph after : Graph} {edge : Edge} {added : Bool} :
    graph.addEdge edge = .ok (after, added) ↔
      edge.source ∈ graph.nodeIds ∧ edge.target ∈ graph.nodeIds ∧
        after = (if edge.id ∈ graph.edgeIds then graph
          else { graph with edges := graph.edges ++ [edge] }) ∧
        added = decide (edge.id ∉ graph.edgeIds) := by
  simp only [addEdge, Bool.not_eq_true', ← Bool.not_eq_true, hasNode_iff, hasEdge_iff]
  by_cases hsource : edge.source ∈ graph.nodeIds
  · by_cases htarget : edge.target ∈ graph.nodeIds
    · by_cases hknown : edge.id ∈ graph.edgeIds
      · simp [hsource, htarget, hknown, eq_comm]
      · simp [hsource, htarget, hknown, eq_comm]
    · simp [hsource, htarget]
  · simp [hsource]

/-- An edge with a new id between known nodes is appended. -/
theorem addEdge_of_notMem {graph : Graph} {edge : Edge} (hsource : edge.source ∈ graph.nodeIds)
    (htarget : edge.target ∈ graph.nodeIds) (hnew : edge.id ∉ graph.edgeIds) :
    graph.addEdge edge = .ok ({ graph with edges := graph.edges ++ [edge] }, true) :=
  addEdge_eq_ok_iff.mpr ⟨hsource, htarget, by rw [if_neg hnew], by simp [hnew]⟩

/-- An edge is refused just when one of its ends is missing; the source is named before the
target. -/
theorem addEdge_eq_error_iff {graph : Graph} {edge : Edge} {error : Error} :
    graph.addEdge edge = .error error ↔
      (edge.source ∉ graph.nodeIds ∧ error = .danglingEndpoint edge.id edge.source) ∨
      (edge.source ∈ graph.nodeIds ∧ edge.target ∉ graph.nodeIds ∧
        error = .danglingEndpoint edge.id edge.target) := by
  simp only [addEdge, Bool.not_eq_true', ← Bool.not_eq_true, hasNode_iff, hasEdge_iff]
  by_cases hsource : edge.source ∈ graph.nodeIds
  · by_cases htarget : edge.target ∈ graph.nodeIds
    · by_cases hknown : edge.id ∈ graph.edgeIds <;> simp [hsource, htarget, hknown]
    · simp [hsource, htarget, eq_comm]
  · simp [hsource, eq_comm]

/-- What every graph built by adding elements keeps: distinct ids, and edges between its nodes. -/
structure Sound (graph : Graph) : Prop where
  nodup_nodeIds : graph.nodeIds.Nodup
  nodup_edgeIds : graph.edgeIds.Nodup
  source_mem : ∀ edge ∈ graph.edges, edge.source ∈ graph.nodeIds
  target_mem : ∀ edge ∈ graph.edges, edge.target ∈ graph.nodeIds

/-- A node is found under its id where ids are distinct. -/
theorem node?_eq_some_iff {graph : Graph} (hnodup : graph.nodeIds.Nodup) {id : String}
    {node : Node} : graph.node? id = some node ↔ node ∈ graph.nodes ∧ node.id = id :=
  find?_key_eq_some_iff hnodup

/-- An edge is found under its id where ids are distinct. -/
theorem edge?_eq_some_iff {graph : Graph} (hnodup : graph.edgeIds.Nodup) {id : String}
    {edge : Edge} : graph.edge? id = some edge ↔ edge ∈ graph.edges ∧ edge.id = id :=
  find?_key_eq_some_iff hnodup

/-- The empty graph is sound. -/
theorem Sound.empty : Sound {} where
  nodup_nodeIds := List.nodup_nil
  nodup_edgeIds := List.nodup_nil
  source_mem := by simp
  target_mem := by simp

/-- Adding a node keeps a graph sound. -/
theorem Sound.addNode {graph : Graph} (hsound : graph.Sound) (node : Node) :
    (graph.addNode node).1.Sound where
  nodup_nodeIds := by
    rw [nodeIds_addNode]
    exact nodup_append_unless_mem hsound.nodup_nodeIds
  nodup_edgeIds := by
    rw [edgeIds_addNode]
    exact hsound.nodup_edgeIds
  source_mem := by
    intro edge hedge
    rw [edges_addNode] at hedge
    exact mem_nodeIds_addNode.mpr (Or.inr (hsound.source_mem edge hedge))
  target_mem := by
    intro edge hedge
    rw [edges_addNode] at hedge
    exact mem_nodeIds_addNode.mpr (Or.inr (hsound.target_mem edge hedge))

/-- An edge of the grown graph was there before or is the new one. -/
theorem mem_edges_of_addEdge {graph after : Graph} {edge other : Edge} {added : Bool}
    (h : graph.addEdge edge = .ok (after, added)) (hmem : other ∈ after.edges) :
    other ∈ graph.edges ∨ other = edge := by
  obtain ⟨-, -, rfl, -⟩ := addEdge_eq_ok_iff.mp h
  split at hmem
  · exact Or.inl hmem
  · simpa using hmem

/-- The ids of the edges after an accepted edge. -/
theorem edgeIds_of_addEdge {graph after : Graph} {edge : Edge} {added : Bool}
    (h : graph.addEdge edge = .ok (after, added)) :
    after.edgeIds =
      if edge.id ∈ graph.edgeIds then graph.edgeIds else graph.edgeIds ++ [edge.id] := by
  obtain ⟨-, -, rfl, -⟩ := addEdge_eq_ok_iff.mp h
  split <;> simp [edgeIds]

/-- After an accepted edge, its id is known besides those known before. -/
theorem mem_edgeIds_of_addEdge {graph after : Graph} {edge : Edge} {added : Bool}
    (h : graph.addEdge edge = .ok (after, added)) {id : String} :
    id ∈ after.edgeIds ↔ id = edge.id ∨ id ∈ graph.edgeIds := by
  rw [edgeIds_of_addEdge h, mem_append_unless_mem]

/-- Adding an edge leaves the nodes alone. -/
theorem nodes_of_addEdge {graph after : Graph} {edge : Edge} {added : Bool}
    (h : graph.addEdge edge = .ok (after, added)) : after.nodes = graph.nodes := by
  obtain ⟨-, -, rfl, -⟩ := addEdge_eq_ok_iff.mp h
  split <;> rfl

/-- Adding an edge leaves the ids of the nodes alone. -/
theorem nodeIds_of_addEdge {graph after : Graph} {edge : Edge} {added : Bool}
    (h : graph.addEdge edge = .ok (after, added)) : after.nodeIds = graph.nodeIds := by
  rw [nodeIds, nodes_of_addEdge h, nodeIds]

/-- An accepted edge keeps a graph sound. -/
theorem Sound.addEdge {graph after : Graph} {edge : Edge} {added : Bool} (hsound : graph.Sound)
    (h : graph.addEdge edge = .ok (after, added)) : after.Sound := by
  have hnodes := nodeIds_of_addEdge h
  obtain ⟨hsource, htarget, -, -⟩ := addEdge_eq_ok_iff.mp h
  refine ⟨hnodes ▸ hsound.nodup_nodeIds, ?_, ?_, ?_⟩
  · rw [edgeIds_of_addEdge h]
    exact nodup_append_unless_mem hsound.nodup_edgeIds
  · intro other hother
    rw [hnodes]
    rcases mem_edges_of_addEdge h hother with hold | rfl
    · exact hsound.source_mem other hold
    · exact hsource
  · intro other hother
    rw [hnodes]
    rcases mem_edges_of_addEdge h hother with hold | rfl
    · exact hsound.target_mem other hold
    · exact htarget

end GraphGateway.Graph
