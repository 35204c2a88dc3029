import GraphGateway.Proofs.Assembly.Outcome
import GraphGateway.Proofs.Neighborhood.Soundness
import GraphGateway.Proofs.Renaming.Basic

/-!
# Assembling renamed answers

Every step of an assembly commutes with renaming: taken on renamed elements from a renamed state, it
reaches the renamed state with the same answer, or fails with the renamed error. Some step lemmas
need a sound assembly, because an edge that the graph itself refused would be refused for a missing
stable id, which no renaming changes; in a sound assembly that does not happen.

Over several steps the kind of the identity in an error depends on which step fails. It depends on
the elements alone: one kind is right for all renamings at once.
-/

namespace GraphGateway

namespace Assembly

/-- How a step ends under new names: its error, if any, and the state it leaves are renamed. -/
def renameOutcome {α : Type} (names : Renaming) (kind : ElementKind)
    (outcome : Except Error α × Assembly) : Except Error α × Assembly :=
  (outcome.1.mapError (Error.rename names kind), outcome.2.rename names)

/-- A renamed node is placed under the same stable id. -/
theorem placeNode_rename (names : Renaming) (assembly : Assembly) (node : StoreNode) :
    (assembly.rename names).placeNode (node.rename names) =
      renameOutcome names .node (assembly.placeNode node) := by
  have hassign := Identities.assign_rename names .node assembly.nodes node.identity
    node.carriedId? assembly.supply
  rcases assembly.placeNode_cases node with
    ⟨error, hplain, heq⟩ | ⟨id, nodes, supply, hplain, heq⟩
  · rw [hplain] at hassign
    rw [heq]
    simp only [placeNode]
    exact hassign ▸ rfl
  · rw [hplain] at hassign
    rw [heq]
    simp only [placeNode]
    exact hassign ▸ rfl

/-- A renamed relationship takes the same stable id. -/
theorem edgeId_rename (names : Renaming) (assembly : Assembly)
    (relationship : StoreRelationship) :
    (assembly.rename names).edgeId (relationship.rename names) =
      ((assembly.edgeId relationship).mapError (Error.rename names .relationship)).map
        fun given => (given.1, given.2.rename names) := by
  have hassign := Identities.assign_rename names .relationship assembly.relationships
    relationship.identity relationship.carriedId? assembly.supply
  cases hplain : assembly.relationships.assign relationship.identity relationship.carriedId?
      assembly.supply with
  | error error =>
    rw [hplain] at hassign
    rw [edgeId_eq_error_iff.mpr hplain]
    exact edgeId_eq_error_iff.mpr hassign
  | ok given =>
    obtain ⟨id, relationships, supply⟩ := given
    rw [hplain] at hassign
    rw [edgeId_eq_ok_iff.mpr ⟨relationships, supply, hplain, rfl⟩]
    exact edgeId_eq_ok_iff.mpr ⟨_, _, hassign, rfl⟩

/-- An edge between nodes of the graph is added alike under any names. -/
theorem addEdge_rename (names : Renaming) (kind : ElementKind) {assembly : Assembly} {edge : Edge}
    (hsource : edge.source ∈ assembly.graph.nodeIds)
    (htarget : edge.target ∈ assembly.graph.nodeIds) :
    (assembly.rename names).addEdge edge =
      renameOutcome names kind (assembly.addEdge edge) := by
  have hadd := Graph.addEdge_eq_ok_iff.mpr ⟨hsource, htarget, rfl, rfl⟩
  have hrenamed : (assembly.rename names).graph.addEdge edge = _ := hadd
  simp only [addEdge, hrenamed, hadd]
  rfl

/-- A renamed relationship is placed alike between two stable ids of nodes. -/
theorem placeBetween_rename (names : Renaming) {assembly : Assembly}
    (relationship : StoreRelationship) {source target : String}
    (hsource : source ∈ assembly.graph.nodeIds) (htarget : target ∈ assembly.graph.nodeIds) :
    (assembly.rename names).placeBetween (relationship.rename names) source target =
      renameOutcome names .relationship (assembly.placeBetween relationship source target) := by
  have hrenamed := edgeId_rename names assembly relationship
  unfold placeBetween
  rw [hrenamed]
  cases hid : assembly.edgeId relationship with
  | error error => rfl
  | ok given =>
    obtain ⟨id, after⟩ := given
    obtain ⟨relationships, supply, -, rfl⟩ := edgeId_eq_ok_iff.mp hid
    exact addEdge_rename names .relationship hsource htarget

/-- A renamed relationship is placed alike between its own ends. -/
theorem placeRelationship_rename (names : Renaming) {assembly : Assembly} (hsound : assembly.Sound)
    (relationship : StoreRelationship) :
    (assembly.rename names).placeRelationship (relationship.rename names) =
      renameOutcome names .relationship (assembly.placeRelationship relationship) := by
  have hrenamed := edgeId_rename names assembly relationship
  unfold placeRelationship
  rw [hrenamed]
  cases hid : assembly.edgeId relationship with
  | error error => rfl
  | ok given =>
    obtain ⟨id, after⟩ := given
    have hafter : after.Sound := hsound.edgeId hid
    have hstart := Identities.endpoint_rename names .relationship after.nodes id relationship.start
    have hfinish := Identities.endpoint_rename names .relationship after.nodes id
      relationship.finish
    simp only [Except.mapError, Except.map, Assembly.rename, StoreRelationship.rename, hstart,
      hfinish]
    cases hsource : after.nodes.endpoint id relationship.start with
    | error error => rfl
    | ok source =>
      cases htarget : after.nodes.endpoint id relationship.finish with
      | error error => rfl
      | ok target =>
        rw [Identities.endpoint_eq_ok_iff] at hsource htarget
        exact addEdge_rename names .relationship (hafter.mem_of_bound _ _ hsource)
          (hafter.mem_of_bound _ _ htarget)

/-- A renamed occurrence is placed alike; its kind is the kind of the identity in an error. -/
theorem exists_kind_place_rename {assembly : Assembly} (hsound : assembly.Sound)
    (occurrence : Occurrence) :
    ∃ kind, ∀ names : Renaming,
      (assembly.rename names).place (occurrence.rename names).piece =
        renameOutcome names kind (assembly.place occurrence.piece) := by
  cases occurrence with
  | node node =>
    refine ⟨.node, fun names => ?_⟩
    have hnode := placeNode_rename names assembly node
    simp only [place, Occurrence.rename, Occurrence.piece, hnode]
    rcases assembly.placeNode node with ⟨_ | id, after⟩ <;> rfl
  | relationship relationship =>
    refine ⟨.relationship, fun names => ?_⟩
    have hrelationship := placeRelationship_rename names hsound relationship
    simp only [place, Occurrence.rename, Occurrence.piece, hrelationship]
    rcases assembly.placeRelationship relationship with ⟨_ | id, after⟩ <;> rfl

/-- Renamed occurrences are placed alike. -/
theorem exists_kind_placeAll_rename {assembly : Assembly} (hsound : assembly.Sound)
    (occurrences : List Occurrence) :
    ∃ kind, ∀ names : Renaming,
      (assembly.rename names).placeAll
          ((occurrences.map (Occurrence.rename names)).map Occurrence.piece) =
        renameOutcome names kind (assembly.placeAll (occurrences.map Occurrence.piece)) := by
  induction occurrences generalizing assembly with
  | nil => exact ⟨.node, fun names => rfl⟩
  | cons occurrence rest ih =>
    obtain ⟨kind, hfirst⟩ := exists_kind_place_rename hsound occurrence
    have hsoundAfter := hsound.place occurrence.piece
    rcases hplaced : assembly.place occurrence.piece with ⟨error | placed, after⟩
    · refine ⟨kind, fun names => ?_⟩
      have hrefused := hfirst names
      rw [hplaced] at hrefused
      simp only [List.map_cons, placeAll, hrefused, hplaced]
      rfl
    · rw [hplaced] at hsoundAfter
      obtain ⟨later, hrest⟩ := ih hsoundAfter
      refine ⟨later, fun names => ?_⟩
      have hfirst := hfirst names
      rw [hplaced] at hfirst
      simp only [List.map_cons, placeAll, hfirst, hplaced]
      exact hrest names

/-!
## Neighbourhoods
-/

/-- A renamed neighbour is placed alike, where the ends of its edge are its own stable id or nodes
that are there already. -/
theorem exists_kind_placeNeighbor_rename {assembly : Assembly} (neighbor : Neighbor)
    (ends : String → String × String)
    (hends : ∀ id, ((ends id).1 = id ∨ (ends id).1 ∈ assembly.graph.nodeIds) ∧
      ((ends id).2 = id ∨ (ends id).2 ∈ assembly.graph.nodeIds)) :
    ∃ kind, ∀ names : Renaming,
      (assembly.rename names).placeNeighbor (neighbor.rename names) ends =
        renameOutcome names kind (assembly.placeNeighbor neighbor ends) := by
  rcases hplaced : assembly.placeNode neighbor.node with ⟨error | id, after⟩
  · refine ⟨.node, fun names => ?_⟩
    have hrenamed := placeNode_rename names assembly neighbor.node
    rw [hplaced] at hrenamed
    rw [placeNeighbor_of_error hplaced]
    exact placeNeighbor_of_error hrenamed ends
  · refine ⟨.relationship, fun names => ?_⟩
    have hrenamed := placeNode_rename names assembly neighbor.node
    rw [hplaced] at hrenamed
    -- Both ends are nodes once the neighbour itself has been placed.
    have hknown {other : String} (hother : other = id ∨ other ∈ assembly.graph.nodeIds) :
        other ∈ after.graph.nodeIds := by
      rcases hother with rfl | hold
      · have hnew : (assembly.placeNode neighbor.node).1 = .ok other := by rw [hplaced]
        have hmem := mem_nodeIds_of_placeNode hnew
        rwa [hplaced] at hmem
      · have hmem := (GrowsTo.placeNode assembly neighbor.node).graph.mem_nodeIds hold
        rwa [hplaced] at hmem
    have hbetween := placeBetween_rename names neighbor.relationship (hknown (hends id).1)
      (hknown (hends id).2)
    rw [placeNeighbor_of_ok hplaced]
    refine (placeNeighbor_of_ok hrenamed ends).trans ?_
    simp only [Neighbor.rename, hbetween]
    rcases after.placeBetween neighbor.relationship (ends id).1 (ends id).2 with ⟨_ | _, _⟩ <;> rfl

/-- A renamed optional neighbour is placed alike. -/
theorem exists_kind_placeNeighbor?_rename {assembly : Assembly} (neighbor? : Option Neighbor)
    (ends : String → String × String)
    (hends : ∀ id, ((ends id).1 = id ∨ (ends id).1 ∈ assembly.graph.nodeIds) ∧
      ((ends id).2 = id ∨ (ends id).2 ∈ assembly.graph.nodeIds)) :
    ∃ kind, ∀ names : Renaming,
      (assembly.rename names).placeNeighbor? (neighbor?.map (Neighbor.rename names)) ends =
        renameOutcome names kind (assembly.placeNeighbor? neighbor? ends) := by
  cases neighbor? with
  | none => exact ⟨.node, fun names => rfl⟩
  | some neighbor => exact exists_kind_placeNeighbor_rename neighbor ends hends

/-- A renamed row is placed alike. -/
theorem exists_kind_placeRow_rename (assembly : Assembly) (wanted : String) (row : NeighborRow) :
    ∃ kind, ∀ names : Renaming,
      (assembly.rename names).placeRow wanted (row.rename names) =
        renameOutcome names kind (assembly.placeRow wanted row) := by
  have hrenamed (names : Renaming) := placeNode_rename names assembly row.center
  rcases hplaced : assembly.placeNode row.center with ⟨error | center, afterCenter⟩
  · simp only [hplaced] at hrenamed
    refine ⟨.node, fun names => ?_⟩
    simp only [placeRow, NeighborRow.rename, hrenamed, hplaced]
    rfl
  · simp only [hplaced] at hrenamed
    by_cases hforeign : center ≠ wanted
    · refine ⟨.node, fun names => ?_⟩
      simp only [placeRow, NeighborRow.rename, hrenamed, hplaced]
      simp only [renameOutcome, Except.mapError, if_pos hforeign]
      rfl
    · have hcenter : center ∈ afterCenter.graph.nodeIds := by
        have hmem := mem_nodeIds_of_placeNode (congrArg Prod.fst hplaced)
        rwa [hplaced] at hmem
      obtain ⟨kind, hparent⟩ := exists_kind_placeNeighbor?_rename row.parent?
        (fun parent => (parent, center)) fun id => ⟨Or.inl rfl, Or.inr hcenter⟩
      have hkept := (GrowsTo.placeNeighbor? afterCenter row.parent?
        fun parent => (parent, center)).graph.mem_nodeIds hcenter
      rcases hjoined : afterCenter.placeNeighbor? row.parent? fun parent => (parent, center) with
        ⟨error | joined, afterParent⟩
      · simp only [hjoined] at hparent
        refine ⟨kind, fun names => ?_⟩
        simp only [placeRow, NeighborRow.rename, hrenamed, hplaced]
        simp only [renameOutcome, Except.mapError, if_neg hforeign, hparent, hjoined]
      · rw [hjoined] at hkept
        simp only [hjoined] at hparent
        obtain ⟨later, hchild⟩ := exists_kind_placeNeighbor?_rename row.child?
          (fun child => (center, child)) fun id => ⟨Or.inr hkept, Or.inl rfl⟩
        refine ⟨later, fun names => ?_⟩
        simp only [placeRow, NeighborRow.rename, hrenamed, hplaced]
        simp only [renameOutcome, Except.mapError, if_neg hforeign, hparent, hjoined]
        exact hchild names

/-- Renamed rows are placed alike. -/
theorem exists_kind_placeRows_rename (assembly : Assembly) (wanted : String)
    (rows : List NeighborRow) :
    ∃ kind, ∀ names : Renaming,
      (assembly.rename names).placeRows wanted (rows.map (NeighborRow.rename names)) =
        renameOutcome names kind (assembly.placeRows wanted rows) := by
  induction rows generalizing assembly with
  | nil => exact ⟨.node, fun names => rfl⟩
  | cons row rest ih =>
    obtain ⟨kind, hfirst⟩ := exists_kind_placeRow_rename assembly wanted row
    rcases hplaced : assembly.placeRow wanted row with ⟨error | placed, after⟩
    · refine ⟨kind, fun names => ?_⟩
      have hrefused := hfirst names
      rw [hplaced] at hrefused
      simp only [List.map_cons, placeRows, hrefused, hplaced]
      rfl
    · obtain ⟨later, hrest⟩ := ih after
      refine ⟨later, fun names => ?_⟩
      have hfirst := hfirst names
      rw [hplaced] at hfirst
      simp only [List.map_cons, placeRows, hfirst, hplaced]
      exact hrest names

end Assembly

end GraphGateway
