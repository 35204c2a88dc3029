import GraphGateway.Proofs.Neighborhood.Rows
import Mathlib.Data.List.Basic

/-!
# Neighbourhoods are stars

The graph of a neighbourhood has the node in the middle first, no other nodes than parents and
children, and no other edges than those between them and the middle: the first edge under each id in
the order of the rows. The ends that relationships have in the store play no part, and neither does
a limit that lets something through.
-/

namespace GraphGateway

/-- The neighbour without the ends of its relationship. -/
def Neighbor.detached (neighbor : Neighbor) : Neighbor :=
  { neighbor with relationship := neighbor.relationship.between ⟨""⟩ ⟨""⟩ }

namespace NeighborRow

/-- The row without the ends of its relationships. -/
def detached (row : NeighborRow) : NeighborRow :=
  { row with
    parent? := row.parent?.map Neighbor.detached
    child? := row.child?.map Neighbor.detached }

/-- The edges of a row under given ids: from the parent to the middle, then from the middle to the
child, each with the type and the properties of its relationship. -/
def edges (ids : Naming) (wanted : String) (row : NeighborRow) : List Edge :=
  (row.parent?.map fun parent => parent.relationship.toEdge
    (ids.relationshipId parent.relationship.identity)
    (ids.nodeId parent.node.identity) wanted).toList ++
  (row.child?.map fun child => child.relationship.toEdge
    (ids.relationshipId child.relationship.identity)
    wanted (ids.nodeId child.node.identity)).toList

/-- The edges of a row touch the middle. -/
theorem touches_of_mem_edges {ids : Naming} {wanted : String} {row : NeighborRow} {edge : Edge}
    (h : edge ∈ row.edges ids wanted) : edge.source = wanted ∨ edge.target = wanted := by
  rcases List.mem_append.mp h with hparent | hchild
  · obtain ⟨parent, -, rfl⟩ := Option.map_eq_some_iff.mp (Option.mem_toList.mp hparent)
    exact Or.inr rfl
  · obtain ⟨child, -, rfl⟩ := Option.map_eq_some_iff.mp (Option.mem_toList.mp hchild)
    exact Or.inl rfl

/-- The nodes of a row are its middle and its neighbours. -/
theorem mem_occurrences_node {row : NeighborRow} {node : StoreNode}
    (h : .node node ∈ row.occurrences) :
    node = row.center ∨ ∃ neighbor ∈ row.neighbors, node = neighbor.node := by
  obtain ⟨center, parent?, child?⟩ := row
  rcases parent? with _ | parent <;> rcases child? with _ | child <;>
    simpa [occurrences, joined, neighbors] using h

/-- The edges of a row are those decoded from the relationships that occur in it, once its middle
has the wanted id. -/
theorem edges_eq_map {ids : Naming} {wanted : String} {row : NeighborRow}
    (hcenter : ids.nodeId row.center.identity = wanted) :
    row.edges ids wanted =
      (row.occurrences.filterMap Occurrence.relationship?).map fun relationship =>
        relationship.toEdge (ids.relationshipId relationship.identity)
          (ids.nodeId relationship.start) (ids.nodeId relationship.finish) := by
  obtain ⟨center, parent?, child?⟩ := row
  subst hcenter
  rcases parent? with _ | parent <;> rcases child? with _ | child <;> rfl

/-- The neighbours of a row occur in it, their relationships between other ends. -/
theorem occurrences_of_mem_neighbors {row : NeighborRow} {neighbor : Neighbor}
    (h : neighbor ∈ row.neighbors) :
    .node neighbor.node ∈ row.occurrences ∧ ∃ start finish,
      .relationship (neighbor.relationship.between start finish) ∈ row.occurrences := by
  obtain ⟨center, parent?, child?⟩ := row
  rcases List.mem_append.mp h with hparent | hchild
  · obtain rfl : parent? = some neighbor := Option.mem_toList.mp hparent
    refine ⟨?_, neighbor.node.identity, center.identity, ?_⟩ <;> simp [occurrences, joined]
  · obtain rfl : child? = some neighbor := Option.mem_toList.mp hchild
    refine ⟨?_, center.identity, neighbor.node.identity, ?_⟩ <;> simp [occurrences, joined]

end NeighborRow

namespace Assembly

/-- A row is placed alike without the ends of its relationships. -/
theorem placeRow_detached (assembly : Assembly) (wanted : String) (row : NeighborRow) :
    assembly.placeRow wanted row.detached = assembly.placeRow wanted row := by
  obtain ⟨center, parent?, child?⟩ := row
  rcases parent? with _ | parent <;> rcases child? with _ | child <;> rfl

/-- Rows are placed alike without the ends of their relationships. -/
theorem placeRows_detached (assembly : Assembly) (wanted : String) (rows : List NeighborRow) :
    assembly.placeRows wanted (rows.map NeighborRow.detached) =
      assembly.placeRows wanted rows := by
  induction rows generalizing assembly with
  | nil => rfl
  | cons row rest ih =>
    rw [List.map_cons, placeRows, placeRows, placeRow_detached]
    rcases assembly.placeRow wanted row with ⟨error | _, after⟩
    · rfl
    · exact ih after

end Assembly

variable {supply : IdSupply} {wanted : String} {rows : List NeighborRow} {limit : Int64}

/-- A limit that lets something through plays no part. -/
theorem Graph.ofNeighborhood_of_pos (hlimit : 0 < limit) :
    Graph.ofNeighborhood supply wanted rows limit =
      Assembly.finish (({ supply } : Assembly).placeRows wanted rows) :=
  if_neg (Int64.not_le.mpr hlimit)

/-- A neighbourhood that is assembled follows the naming of what occurs in its rows, and the middle
of every row has the wanted id. -/
theorem follows_of_ofNeighborhood {graph : Graph} (hlimit : 0 < limit)
    (h : (Graph.ofNeighborhood supply wanted rows limit).1 = .ok graph) :
    (Naming.ofOccurrences supply (rows.flatMap NeighborRow.occurrences)).graph? = some graph ∧
      ∀ row ∈ rows, (Naming.ofOccurrences supply
        (rows.flatMap NeighborRow.occurrences)).nodeId? row.center.identity = some wanted := by
  rw [Graph.ofNeighborhood_of_pos hlimit] at h
  rcases hplaced : ({ supply } : Assembly).placeRows wanted rows with ⟨error | _, after⟩
  · rw [hplaced] at h
    cases h
  · rw [hplaced] at h
    obtain rfl : after.graph = graph := Except.ok.inj h
    have hfollows := (Assembly.Follows.start supply).of_placeAll_ok
      (Assembly.placeAll_of_placeRows_ok hplaced)
    refine ⟨hfollows.graph, fun row hrow => ?_⟩
    rw [← List.nil_append (rows.flatMap _), ← hfollows.nodes]
    exact Assembly.resolve_center_of_placeRows_ok hplaced hrow

/-- Every neighbour in the rows has an id, and so has its relationship. -/
theorem isSome_ids_of_mem_neighbors {row : NeighborRow} (hrow : row ∈ rows) {neighbor : Neighbor}
    (hneighbor : neighbor ∈ row.neighbors) :
    let ids := Naming.ofOccurrences supply (rows.flatMap NeighborRow.occurrences)
    (ids.nodeId? neighbor.node.identity).isSome ∧
      (ids.relationshipId? neighbor.relationship.identity).isSome := by
  intro ids
  obtain ⟨hnode, start, finish, hrelationship⟩ :=
    NeighborRow.occurrences_of_mem_neighbors hneighbor
  obtain ⟨nodeId, hnode⟩ := (Naming.mem_nodes_ofOccurrences supply).mpr
    (List.mem_flatMap_of_mem hrow hnode)
  obtain ⟨relationshipId, hrelationship⟩ := (Naming.mem_relationships_ofOccurrences supply).mpr
    (List.mem_flatMap_of_mem hrow hrelationship)
  have hgivenNode := Naming.nodeId?_of_mem_nodes hnode
  have hgivenRelationship := Naming.relationshipId?_of_mem_relationships hrelationship
  exact ⟨Option.isSome_iff_exists.mpr ⟨nodeId, hgivenNode⟩,
    Option.isSome_iff_exists.mpr ⟨relationshipId, hgivenRelationship⟩⟩

/-- The edges of a neighbourhood are the first ones under each id among those of the rows. -/
theorem edges_of_ofNeighborhood {graph : Graph} (hlimit : 0 < limit)
    (h : (Graph.ofNeighborhood supply wanted rows limit).1 = .ok graph) :
    graph.edges = firstsBy (·.id) (rows.flatMap (NeighborRow.edges
      (Naming.ofOccurrences supply (rows.flatMap NeighborRow.occurrences)) wanted)) := by
  obtain ⟨hgraph, hcenters⟩ := follows_of_ofNeighborhood hlimit h
  rw [(Naming.eq_firstsBy_of_graph? hgraph).2, List.filterMap_flatMap, List.map_flatMap]
  congr 1
  refine List.flatMap_congr fun row hrow => (NeighborRow.edges_eq_map ?_).symm
  rw [Naming.nodeId, hcenters row hrow, Option.getD_some]

/-- The first node of a neighbourhood is the middle of the first row. Every other is the node of a
neighbour. -/
theorem nodes_of_ofNeighborhood {row : NeighborRow} {rest : List NeighborRow} {graph : Graph}
    (hlimit : 0 < limit)
    (h : (Graph.ofNeighborhood supply wanted (row :: rest) limit).1 = .ok graph) :
    let ids := Naming.ofOccurrences supply ((row :: rest).flatMap NeighborRow.occurrences)
    ∃ others, graph.nodes = row.center.toNode wanted :: others ∧ ∀ node ∈ others,
      node.id ≠ wanted ∧ ∃ other ∈ row :: rest, ∃ neighbor ∈ other.neighbors,
        node = neighbor.node.toNode (ids.nodeId neighbor.node.identity) := by
  intro ids
  obtain ⟨hgraph, hcenters⟩ := follows_of_ofNeighborhood hlimit h
  have hcenter {other : NeighborRow} (hother : other ∈ row :: rest) :
      ids.nodeId other.center.identity = wanted := by
    rw [Naming.nodeId, hcenters other hother, Option.getD_some]
  have hnodes := (Naming.eq_firstsBy_of_graph? hgraph).1
  have hfirst : ((row :: rest).flatMap NeighborRow.occurrences).filterMap Occurrence.node? =
      row.center ::
        (row.joined ++ rest.flatMap NeighborRow.occurrences).filterMap Occurrence.node? := rfl
  rw [hfirst, List.map_cons, firstsBy] at hnodes
  refine ⟨_, hcenter List.mem_cons_self ▸ hnodes, fun node hnode => ?_⟩
  obtain ⟨hmem, hother⟩ := List.mem_filter.mp hnode
  have hid : node.id ≠ wanted := bne_iff_ne.mp hother
  refine ⟨hid, ?_⟩
  obtain ⟨storeNode, hstore, rfl⟩ := List.mem_map.mp (mem_of_mem_firstsBy hmem)
  have hoccurs : .node storeNode ∈ (row :: rest).flatMap NeighborRow.occurrences := by
    rw [← Occurrence.mem_filterMap_node?, hfirst]
    exact List.mem_cons_of_mem _ hstore
  obtain ⟨other, hrow, hoccurs⟩ := List.mem_flatMap.mp hoccurs
  rcases NeighborRow.mem_occurrences_node hoccurs with rfl | ⟨neighbor, hneighbor, rfl⟩
  · exact absurd (hcenter hrow) hid
  · exact ⟨other, hrow, neighbor, hneighbor, rfl⟩

/-- A neighbourhood is refused only for a row with a foreign middle or for a conflict of identities.
If it is assembled, it is a star: empty if there are no rows, and else the wanted node first, then
neighbours only, and between them the first edge under each id of those that the rows ask for. The
ends that the relationships have in the store make no difference, and neither does the limit. -/
theorem ofNeighborhood_star (supply : IdSupply) (wanted : String) (rows : List NeighborRow)
    {limit : Int64} (hlimit : 0 < limit) :
    (∀ error, (Graph.ofNeighborhood supply wanted rows limit).1 = .error error →
      (∃ before row after center, rows = before ++ row :: after ∧
        (({ supply } : Assembly).placeRows wanted before).1 = .ok () ∧
        ((({ supply } : Assembly).placeRows wanted before).2.placeNode row.center).1 = .ok center ∧
        center ≠ wanted ∧ error = .unexpectedShape (.foreignCenter center wanted)) ∨
      ∃ identity existing attempted, error = .identityConflict identity existing attempted) ∧
    (∀ graph, (Graph.ofNeighborhood supply wanted rows limit).1 = .ok graph →
      let ids := Naming.ofOccurrences supply (rows.flatMap NeighborRow.occurrences)
      (∀ row ∈ rows, ids.nodeId? row.center.identity = some wanted ∧
        ∀ neighbor ∈ row.neighbors, (ids.nodeId? neighbor.node.identity).isSome ∧
          (ids.relationshipId? neighbor.relationship.identity).isSome) ∧
      (rows = [] → graph = {}) ∧
      (∀ row rest, rows = row :: rest →
        ∃ others, graph.nodes = row.center.toNode wanted :: others ∧ ∀ node ∈ others,
          node.id ≠ wanted ∧ ∃ other ∈ rows, ∃ neighbor ∈ other.neighbors,
            node = neighbor.node.toNode (ids.nodeId neighbor.node.identity)) ∧
      graph.edges = firstsBy (·.id) (rows.flatMap (NeighborRow.edges ids wanted)) ∧
      ∀ edge ∈ graph.edges, edge.source = wanted ∨ edge.target = wanted) ∧
    ∀ rows' limit', 0 < limit' →
      rows'.map NeighborRow.detached = rows.map NeighborRow.detached →
      Graph.ofNeighborhood supply wanted rows' limit' =
        Graph.ofNeighborhood supply wanted rows limit := by
  refine ⟨?_, ?_, ?_⟩
  · intro error h
    rw [Graph.ofNeighborhood_of_pos hlimit] at h
    refine (Assembly.Sound.start supply).placeRows_error ?_
    rcases hplaced : ({ supply } : Assembly).placeRows wanted rows with ⟨refused | _, after⟩
    · rw [hplaced] at h
      exact congrArg _ (Except.error.inj h)
    · rw [hplaced] at h
      cases h
  · intro graph h ids
    refine ⟨?_, ?_, ?_, edges_of_ofNeighborhood hlimit h, ?_⟩
    · exact fun row hrow => ⟨(follows_of_ofNeighborhood hlimit h).2 row hrow,
        fun neighbor hneighbor => isSome_ids_of_mem_neighbors hrow hneighbor⟩
    · rintro rfl
      rw [Graph.ofNeighborhood_of_pos hlimit] at h
      exact (Except.ok.inj h).symm
    · rintro row rest rfl
      exact nodes_of_ofNeighborhood hlimit h
    · intro edge hedge
      rw [edges_of_ofNeighborhood hlimit h] at hedge
      obtain ⟨row, -, hmem⟩ := List.mem_flatMap.mp (mem_of_mem_firstsBy hedge)
      exact NeighborRow.touches_of_mem_edges hmem
  · intro rows' limit' hlimit' hdetached
    rw [Graph.ofNeighborhood_of_pos hlimit', Graph.ofNeighborhood_of_pos hlimit,
      ← Assembly.placeRows_detached, hdetached, Assembly.placeRows_detached]

/-- A node that is its own parent and child over one relationship, and a parent without an id whose
relationship has other ends in the store: two nodes and two edges, both to the middle. -/
theorem ofNeighborhood_star_self_loop :
    let center : StoreNode := ⟨⟨"1"⟩, ["Person"], .ofList [("id", .text "c")]⟩
    let loop : StoreRelationship := ⟨⟨"10"⟩, ⟨"1"⟩, ⟨"1"⟩, some "KNOWS", {}⟩
    let parent : StoreNode := ⟨⟨"2"⟩, [], {}⟩
    let relationship : StoreRelationship := ⟨⟨"11"⟩, ⟨"7"⟩, ⟨"8"⟩, none, {}⟩
    let rows : List NeighborRow :=
      [⟨center, some ⟨center, loop⟩, some ⟨center, loop⟩⟩,
        ⟨center, some ⟨parent, relationship⟩, none⟩]
    let supply : IdSupply := { id := fun n => if n = 0 then "x" else if n = 1 then "y" else "z" }
    let graph : Graph :=
      { nodes := [⟨"c", ["Person"], {}⟩, ⟨"y", [], {}⟩]
        edges := [⟨"x", "c", "c", some "KNOWS", {}⟩, ⟨"z", "y", "c", none, {}⟩] }
    (0 : Int64) < 1 ∧ (Graph.ofNeighborhood supply "c" rows 1).1 = .ok graph ∧
      (∀ edge ∈ graph.edges, edge.source = "c" ∨ edge.target = "c") ∧
      Graph.ofNeighborhood supply "c" (rows.map NeighborRow.detached) 5 =
        Graph.ofNeighborhood supply "c" rows 1 := by
  intro center loop parent relationship rows supply graph
  have h : (Graph.ofNeighborhood supply "c" rows 1).1 = .ok graph := by rfl
  obtain ⟨-, hgraph, hsame⟩ :=
    ofNeighborhood_star supply "c" rows (show (0 : Int64) < 1 by decide)
  obtain ⟨-, -, -, -, htouches⟩ := hgraph graph h
  exact ⟨by decide, h, htouches, hsame _ 5 (by decide) rfl⟩

end GraphGateway
