import GraphGateway.Proofs.Assembly.Repetition
import GraphGateway.Proofs.Neighborhood.Star

/-!
# Rows of a neighbourhood as hops

A row says the same as its middle alone, a hop from the parent and a hop to the child, if its
relationships have in the store the ends that they have in the row. The two assemblers then agree
step by step. A hop finds its ends through the identities instead of being told them, and places the
middle again; the first gives the same ids as bindings stay, the second changes nothing.
-/

namespace GraphGateway

namespace NeighborRow

/-- The hop from the parent to the middle. -/
def parentHop? (row : NeighborRow) : Option Hop :=
  row.parent?.map fun parent => ⟨parent.node, parent.relationship, row.center⟩

/-- The hop from the middle to the child. -/
def childHop? (row : NeighborRow) : Option Hop :=
  row.child?.map fun child => ⟨row.center, child.relationship, child.node⟩

/-- What a row says as pieces: its middle, the hop from the parent and the hop to the child. -/
def pieces (row : NeighborRow) : List Piece :=
  .node row.center :: ((row.parentHop?.toList ++ row.childHop?.toList).map .hop)

/-- A row around the wanted node whose relationships have in the store the ends that they have in
the row. -/
structure Native (wanted : String) (row : NeighborRow) : Prop where
  center : row.center.carriedId? = some wanted
  parent : ∀ parent, row.parent? = some parent →
    parent.relationship.start = parent.node.identity ∧
      parent.relationship.finish = row.center.identity
  child : ∀ child, row.child? = some child →
    child.relationship.start = row.center.identity ∧
      child.relationship.finish = child.node.identity

end NeighborRow

namespace Assembly

variable {assembly : Assembly} {node : StoreNode} {id : String}

/-!
## A node that has been placed
-/

/-- A node has been placed under an id. -/
structure HasPlaced (assembly : Assembly) (node : StoreNode) (id : String) : Prop where
  bound : assembly.nodes.resolve node.identity = some id
  mem : id ∈ assembly.graph.nodeIds

/-- A node that is placed has been placed after that. -/
theorem HasPlaced.of_placeNode {after : Assembly} (h : assembly.placeNode node = (.ok id, after)) :
    after.HasPlaced node id where
  bound := resolve_of_placeNode h
  mem := by
    have hmem := mem_nodeIds_of_placeNode (congrArg Prod.fst h)
    rwa [h] at hmem

/-- As long as the assembly grows, nothing changes about it. -/
theorem HasPlaced.of_growsTo {after : Assembly} (h : assembly.HasPlaced node id)
    (hgrows : assembly.GrowsTo after) : after.HasPlaced node id where
  bound := hgrows.nodes.resolve h.bound
  mem := hgrows.graph.mem_nodeIds h.mem

/-- Placing a node again under the id that it carries changes nothing. -/
theorem HasPlaced.placeNode_again (h : assembly.HasPlaced node id)
    (hcarried : node.carriedId? = some id) : assembly.placeNode node = (.ok id, assembly) := by
  have hagrees : Agrees (some id) node.carriedId? := by
    rw [hcarried]
    rintro _ _ ⟨⟩ ⟨⟩
    rfl
  exact Assembly.placeNode_again h.bound hagrees h.mem

/-- Where carried ids count, a node that carries an id is placed under it or not at all. -/
theorem eq_of_placeNode_of_carried {given : String} {after : Assembly}
    (hpolicy : assembly.nodes.policy = .reuse) (hcarried : node.carriedId? = some id)
    (h : assembly.placeNode node = (.ok given, after)) : given = id := by
  rcases assembly.placeNode_cases node with ⟨error, -, heq⟩ | ⟨chosen, _, _, hassign, heq⟩
  · cases h.symm.trans heq
  · cases h.symm.trans heq
    have hagrees : Agrees (some given) node.carriedId? :=
      Identities.agrees_of_assign hpolicy hassign
    exact (hagrees given id rfl hcarried).symm

/-!
## The two assemblers step by step
-/

/-- A parent is placed as the hop from it to the middle. -/
theorem HasPlaced.placeNeighbor?_parent {row : NeighborRow} (h : assembly.HasPlaced row.center id)
    (hnative : row.Native id) :
    assembly.placeNeighbor? row.parent? (fun parent => (parent, id)) =
      assembly.placeAll (row.parentHop?.toList.map .hop) := by
  rw [NeighborRow.parentHop?]
  cases hparent : row.parent? with
  | none => rfl
  | some parent =>
    obtain ⟨hstart, hfinish⟩ := hnative.parent parent hparent
    rw [Option.map_some, Option.toList_some, List.map_singleton, placeAll_singleton]
    rw [Assembly.placeNeighbor?, place, placeHop]
    have hmiddle := h.of_growsTo (.placeNode assembly parent.node)
    rcases hplaced : assembly.placeNode parent.node with ⟨error | given, after⟩
    · rw [placeNeighbor_of_error hplaced]
      rfl
    · rw [hplaced] at hmiddle
      have hends : after.placeRelationship parent.relationship =
          after.placeBetween parent.relationship given id :=
        placeRelationship_of_resolved (hstart ▸ resolve_of_placeNode hplaced)
          (hfinish ▸ hmiddle.bound)
      rw [placeNeighbor_of_ok hplaced]
      simp only [hmiddle.placeNode_again hnative.center, hends]

/-- A child is placed as the hop from the middle to it. -/
theorem HasPlaced.placeNeighbor?_child {row : NeighborRow} (h : assembly.HasPlaced row.center id)
    (hnative : row.Native id) :
    assembly.placeNeighbor? row.child? (fun child => (id, child)) =
      assembly.placeAll (row.childHop?.toList.map .hop) := by
  rw [NeighborRow.childHop?]
  cases hchild : row.child? with
  | none => rfl
  | some child =>
    obtain ⟨hstart, hfinish⟩ := hnative.child child hchild
    rw [Option.map_some, Option.toList_some, List.map_singleton, placeAll_singleton]
    rw [Assembly.placeNeighbor?, place, placeHop, h.placeNode_again hnative.center]
    have hmiddle := h.of_growsTo (.placeNode assembly child.node)
    rcases hplaced : assembly.placeNode child.node with ⟨error | given, after⟩
    · rw [placeNeighbor_of_error hplaced]
      simp only [hplaced]
      rfl
    · rw [hplaced] at hmiddle
      have hends : after.placeRelationship child.relationship =
          after.placeBetween child.relationship id given :=
        placeRelationship_of_resolved (hstart ▸ hmiddle.bound)
          (hfinish ▸ resolve_of_placeNode hplaced)
      rw [placeNeighbor_of_ok hplaced]
      simp only [hplaced, hends]

/-- A row is placed as its pieces are. -/
theorem placeRow_eq_placeAll_pieces {wanted : String} {row : NeighborRow}
    (hpolicy : assembly.nodes.policy = .reuse) (hnative : row.Native wanted) :
    assembly.placeRow wanted row = assembly.placeAll row.pieces := by
  rw [NeighborRow.pieces, placeAll, place]
  rcases assembly.placeRow_cases wanted row with
    ⟨error, after, hplaced, heq⟩ | ⟨center, after, hplaced, hforeign, -⟩ | ⟨after, hplaced, heq⟩
  · rw [heq, hplaced]
    rfl
  · exact absurd (eq_of_placeNode_of_carried hpolicy hnative.center hplaced) hforeign
  · have hcenter := HasPlaced.of_placeNode hplaced
    have hparent := hcenter.placeNeighbor?_parent hnative
    have hkept := hcenter.of_growsTo
      (.placeNeighbor? after row.parent? fun parent => (parent, wanted))
    rw [heq, hplaced, List.map_append]
    simp only [Except.map, placeAll_append, ← hparent]
    rcases hjoined : after.placeNeighbor? row.parent? fun parent => (parent, wanted) with
      ⟨error | _, reached⟩
    · rfl
    · rw [hjoined] at hkept
      exact hkept.placeNeighbor?_child hnative

/-- Rows are placed as their pieces are. -/
theorem placeRows_eq_placeAll_pieces {wanted : String} {rows : List NeighborRow}
    (hpolicy : assembly.nodes.policy = .reuse) (hnative : ∀ row ∈ rows, row.Native wanted) :
    assembly.placeRows wanted rows = assembly.placeAll (rows.flatMap NeighborRow.pieces) := by
  induction rows generalizing assembly with
  | nil => rfl
  | cons row rest ih =>
    obtain ⟨hrow, hrest⟩ := List.forall_mem_cons.mp hnative
    have hkept := (GrowsTo.placeRow assembly wanted row).nodes.policy
    rw [List.flatMap_cons, placeAll_append, placeRows, ← placeRow_eq_placeAll_pieces hpolicy hrow]
    rcases hplaced : assembly.placeRow wanted row with ⟨error | _, after⟩
    · rfl
    · rw [hplaced] at hkept
      exact ih (hkept.trans hpolicy) hrest

end Assembly

/-- A neighbourhood whose relationships have in the store the ends that they have in the rows is
assembled as its middles and hops are: to the same graph in the same order with the same new ids, or
to the same error, and with the same ids left. -/
theorem ofNeighborhood_eq_ofPieces (supply : IdSupply) {wanted : String} {rows : List NeighborRow}
    {limit : Int64} (hlimit : 0 < limit) (hnative : ∀ row ∈ rows, row.Native wanted) :
    Graph.ofNeighborhood supply wanted rows limit =
      Graph.ofPieces supply (rows.flatMap NeighborRow.pieces) := by
  rw [Graph.ofNeighborhood_of_pos hlimit, Graph.ofPieces,
    Assembly.placeRows_eq_placeAll_pieces rfl hnative]

/-- A parent without an id, met in two rows over a relationship without an id, and a middle that is
its own child: both assemblers mint one id for the parent and one for each relationship. -/
theorem ofNeighborhood_eq_ofPieces_minted_parent :
    let center : StoreNode := ⟨⟨"1"⟩, ["Person"], .ofList [("id", .integer 7)]⟩
    let parent : StoreNode := ⟨⟨"2"⟩, [], {}⟩
    let knows : StoreRelationship := ⟨⟨"10"⟩, ⟨"2"⟩, ⟨"1"⟩, some "KNOWS", {}⟩
    let loop : StoreRelationship := ⟨⟨"11"⟩, ⟨"1"⟩, ⟨"1"⟩, none, {}⟩
    let rows : List NeighborRow :=
      [⟨center, some ⟨parent, knows⟩, some ⟨center, loop⟩⟩, ⟨center, some ⟨parent, knows⟩, none⟩]
    let supply : IdSupply := { id := fun n => if n = 0 then "x" else if n = 1 then "y" else "z" }
    let graph : Graph :=
      { nodes := [⟨"7", ["Person"], {}⟩, ⟨"x", [], {}⟩]
        edges := [⟨"y", "x", "7", some "KNOWS", {}⟩, ⟨"z", "7", "7", none, {}⟩] }
    (0 : Int64) < 3 ∧ (∀ row ∈ rows, row.Native "7") ∧
      Graph.ofNeighborhood supply "7" rows 3 =
        Graph.ofPieces supply (rows.flatMap NeighborRow.pieces) ∧
      (Graph.ofPieces supply (rows.flatMap NeighborRow.pieces)).1 = .ok graph := by
  intro center parent knows loop rows supply graph
  have hnative : ∀ row ∈ rows, row.Native "7" := by
    refine List.forall_mem_cons.mpr ⟨?_, List.forall_mem_singleton.mpr ?_⟩
    · exact ⟨rfl, by rintro _ ⟨⟩; exact ⟨rfl, rfl⟩, by rintro _ ⟨⟩; exact ⟨rfl, rfl⟩⟩
    · exact ⟨rfl, by rintro _ ⟨⟩; exact ⟨rfl, rfl⟩, nofun⟩
  exact ⟨by decide, hnative, ofNeighborhood_eq_ofPieces supply (by decide) hnative, by rfl⟩

end GraphGateway
