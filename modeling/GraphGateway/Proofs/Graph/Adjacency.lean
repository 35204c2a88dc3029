import GraphGateway.Proofs.Graph.Building
import Mathlib.Algebra.BigOperators.Fin

/-!
# Edges seen from their ends

The edges that go from the nodes of a graph, and likewise those that go to them, split up its edges:
each edge is seen from one node alone, and once. What is proved holds for the edges told apart by any
one of their ends, so both directions are cases of it. It rests on three things that every graph
keeps that is built by adding: no end is missing, and neither nodes nor edges share an id.
-/

namespace GraphGateway.Graph

variable {graph : Graph} {endOf : Edge → String}

/-- The lists of edges under the ids of nodes split up the edges of a graph by one of their ends. -/
structure Splits (graph : Graph) (endOf : Edge → String) (edgesAt : String → List Edge) : Prop where
  /-- An edge is listed for exactly one node, which has the id of its end. -/
  one : ∀ edge ∈ graph.edges, ∃! node, node ∈ graph.nodes ∧ edge ∈ edgesAt node.id
  /-- The end of an edge tells where it is listed. -/
  own : ∀ edge ∈ graph.edges, ∀ id, edge ∈ edgesAt id ↔ id = endOf edge
  /-- An edge is listed once. -/
  once : ∀ edge ∈ graph.edges, (edgesAt (endOf edge)).countP (·.id == edge.id) = 1
  /-- Edges are listed in the order of the graph. -/
  ordered : ∀ id, (edgesAt id).Sublist graph.edges
  /-- Nothing is listed for an id that no node has. -/
  empty : ∀ id, id ∉ graph.nodeIds → edgesAt id = []
  /-- The lengths of the lists add up to the number of edges. -/
  total : (graph.nodes.map fun node => (edgesAt node.id).length).sum = graph.edges.length

/-- Lengths of the parts of a list by a key, added up over keys among which all are found. -/
theorem sum_length_filter {keys : List String} (hnodup : keys.Nodup) {edges : List Edge}
    (hkeys : ∀ edge ∈ edges, endOf edge ∈ keys) :
    (keys.map fun key => (edges.filter fun edge => endOf edge == key).length).sum =
      edges.length := by
  have hpart (key : String) : (edges.filter fun edge => endOf edge == key).length =
      (edges.map endOf).count key := by
    rw [List.count, List.countP_map, List.countP_eq_length_filter]
    rfl
  calc (keys.map fun key => (edges.filter fun edge => endOf edge == key).length).sum
      = (keys.map fun key => (edges.map endOf).count key).sum := by simp only [hpart]
    _ = ∑ key ∈ keys.toFinset, (edges.map endOf).count key := (List.sum_toFinset _ hnodup).symm
    _ = Multiset.card (edges.map endOf : Multiset String) := by
      rw [← Multiset.sum_count_eq_card (s := keys.toFinset)]
      · simp
      · simpa using hkeys
    _ = edges.length := by simp

/-- In a sound graph whose edges all have a node at one end, that end splits them up. -/
theorem Sound.splits (hsound : graph.Sound)
    (hends : ∀ edge ∈ graph.edges, endOf edge ∈ graph.nodeIds) :
    graph.Splits endOf fun id => graph.edges.filter fun edge => endOf edge == id where
  one edge hedge := by
    obtain ⟨node, hnode, hid⟩ := List.mem_map.mp (hends edge hedge)
    refine ⟨node, ⟨hnode, List.mem_filter.mpr ⟨hedge, by simp [hid]⟩⟩, ?_⟩
    rintro other ⟨hother, hlisted⟩
    have heq : endOf edge = other.id := by simpa using (List.mem_filter.mp hlisted).2
    exact List.inj_on_of_nodup_map hsound.nodup_nodeIds hother hnode (heq.symm.trans hid.symm)
  own edge hedge id := by
    rw [List.mem_filter, and_iff_right hedge, beq_iff_eq]
    exact eq_comm
  once edge hedge := by
    have hlisted : edge ∈ graph.edges.filter fun other => endOf other == endOf edge := by
      simp [hedge]
    have hnodup : ((graph.edges.filter fun other => endOf other == endOf edge).map
        Edge.id).Nodup := hsound.nodup_edgeIds.sublist (List.filter_sublist.map Edge.id)
    rw [← List.count_eq_one_of_mem hnodup (List.mem_map_of_mem hlisted), List.count,
      List.countP_map]
    rfl
  ordered _ := List.filter_sublist
  empty id hid := by
    rw [List.filter_eq_nil_iff]
    intro edge hedge hend
    exact hid (beq_iff_eq.mp hend ▸ hends edge hedge)
  total := by
    have hsum := sum_length_filter hsound.nodup_nodeIds hends
    rwa [nodeIds, List.map_map] at hsum

/-- In every graph that is built, the edges that go from its nodes split up its edges by their
sources, and those that go to its nodes by their targets. So each edge is listed for exactly one node
in either way, once and in the order of the graph, and the lengths of the lists add up to the number
of edges. -/
theorem adjacency_splits_edges (additions : List Addition) :
    (build additions).Splits Edge.source (build additions).outgoing ∧
      (build additions).Splits Edge.target (build additions).incoming := by
  have hsound : (build additions).Sound := Sound.empty.foldl_after additions
  exact ⟨hsound.splits hsound.source_mem, hsound.splits hsound.target_mem⟩

end GraphGateway.Graph
