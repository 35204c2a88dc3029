import GraphGateway.Proofs.Assembly.Growth
import GraphGateway.Proofs.Assembly.Outcome

/-!
# Placing again

An element that has been placed is bound to an id that agrees with the one it carries, and the graph
has an element under this id. As an assembly only grows, that stays true, and while it is true
placing the element again changes nothing at all.
-/

namespace GraphGateway

/-- A bound identity is assigned its id again, without any change. -/
theorem Identities.assign_again {identities : Identities} {identity : StoreId} {id : String}
    {carried? : Option String} (hbound : identities.resolve identity = some id)
    (hagrees : Agrees (some id) carried?) (supply : IdSupply) :
    identities.assign identity carried? supply = .ok (id, identities, supply) := by
  rw [assign_of_resolved hbound]
  cases hcarried : identities.carried carried? with
  | none => rfl
  | some other =>
    have hother : carried? = some other := by
      unfold carried at hcarried
      split at hcarried
      · exact hcarried
      · cases hcarried
    exact if_pos (hagrees id other rfl hother).symm

/-- Where carried ids count, an assigned id agrees with the carried one. -/
theorem Identities.agrees_of_assign {identities after : Identities} {identity : StoreId}
    {id : String} {carried? : Option String} {supply left : IdSupply}
    (hpolicy : identities.policy = .reuse)
    (h : identities.assign identity carried? supply = .ok (id, after, left)) :
    Agrees (some id) carried? := by
  rintro existing other ⟨⟩ rfl
  by_contra hdiffers
  cases hbound : identities.resolve identity with
  | none =>
    have hchosen := (assign_eq_ok h).1
    rw [hbound, carried_of_reuse hpolicy] at hchosen
    exact hdiffers (congrArg Prod.fst hchosen).symm
  | some existing =>
    have hkept : id = existing := by
      have hchosen := (assign_eq_ok h).1
      rw [hbound] at hchosen
      exact congrArg Prod.fst hchosen
    have herror : identities.assign identity (some other) supply =
        .error (.identityConflict identity existing other) :=
      assign_eq_error_iff.mpr
        ⟨existing, other, hbound, carried_of_reuse hpolicy _, hkept ▸ hdiffers, rfl⟩
    rw [herror] at h
    cases h

namespace Assembly

variable {assembly after : Assembly}

/-- An assembly holds an occurrence that has been placed: its identity is bound to an id that agrees
with the carried one, there is an element under the id, and the ends of a relationship are bound to
nodes. -/
inductive Holds (assembly : Assembly) : Occurrence → Prop where
  | node {node : StoreNode} {id : String}
      (hbound : assembly.nodes.resolve node.identity = some id)
      (hagrees : Agrees (some id) node.carriedId?) (hmem : id ∈ assembly.graph.nodeIds) :
      Holds assembly (.node node)
  | relationship {relationship : StoreRelationship} {id source target : String}
      (hbound : assembly.relationships.resolve relationship.identity = some id)
      (hagrees : Agrees (some id) relationship.carriedId?)
      (hsource : assembly.nodes.resolve relationship.start = some source)
      (htarget : assembly.nodes.resolve relationship.finish = some target)
      (hsourceMem : source ∈ assembly.graph.nodeIds)
      (htargetMem : target ∈ assembly.graph.nodeIds) (hmem : id ∈ assembly.graph.edgeIds) :
      Holds assembly (.relationship relationship)

/-- What an assembly holds, it holds as long as it grows. -/
theorem Holds.of_growsTo {occurrence : Occurrence} (h : assembly.Holds occurrence)
    (hgrows : assembly.GrowsTo after) : after.Holds occurrence := by
  cases h with
  | node hbound hagrees hmem =>
    exact .node (hgrows.nodes.resolve hbound) hagrees (hgrows.graph.mem_nodeIds hmem)
  | relationship hbound hagrees hsource htarget hsourceMem htargetMem hmem =>
    exact .relationship (hgrows.relationships.resolve hbound) hagrees (hgrows.nodes.resolve hsource)
      (hgrows.nodes.resolve htarget) (hgrows.graph.mem_nodeIds hsourceMem)
      (hgrows.graph.mem_nodeIds htargetMem) (hgrows.graph.mem_edgeIds hmem)

/-- A node that has been placed is placed again without any change. -/
theorem placeNode_again {node : StoreNode} {id : String}
    (hbound : assembly.nodes.resolve node.identity = some id)
    (hagrees : Agrees (some id) node.carriedId?) (hmem : id ∈ assembly.graph.nodeIds) :
    assembly.placeNode node = (.ok id, assembly) := by
  have hgraph : (assembly.graph.addNode (node.toNode id)).1 = assembly.graph :=
    Graph.addNode_of_mem hmem
  simp only [placeNode, Identities.assign_again hbound hagrees, hgraph]

/-- An occurrence that an assembly holds is placed again without any change. -/
theorem Holds.place {occurrence : Occurrence} (h : assembly.Holds occurrence) :
    assembly.place occurrence.piece = (.ok (), assembly) := by
  cases h with
  | node hbound hagrees hmem =>
    simp only [Occurrence.piece, Assembly.place, placeNode_again hbound hagrees hmem]
    rfl
  | @relationship relationship id source target hbound hagrees hsource htarget hsourceMem htargetMem
      hmem =>
    have hid : assembly.edgeId relationship = .ok (id, assembly) :=
      edgeId_eq_ok_iff.mpr ⟨_, _, Identities.assign_again hbound hagrees _, rfl⟩
    have hadd : assembly.graph.addEdge (relationship.toEdge id source target) =
        .ok (assembly.graph, false) :=
      Graph.addEdge_eq_ok_iff.mpr
        ⟨hsourceMem, htargetMem, (if_pos hmem).symm, (decide_eq_false (not_not.mpr hmem)).symm⟩
    have hplaced : assembly.placeRelationship relationship = (.ok id, assembly) := by
      rw [placeRelationship_of_resolved hsource htarget]
      simp only [placeBetween, hid, addEdge, hadd]
      rfl
    simp only [Occurrence.piece, Assembly.place, hplaced]
    rfl

/-- Identities whose carried ids count, for nodes and for relationships. -/
structure Reuses (assembly : Assembly) : Prop where
  nodes : assembly.nodes.policy = .reuse
  relationships : assembly.relationships.policy = .reuse

/-- Carried ids count from the start. -/
theorem Reuses.start (supply : IdSupply) : ({ supply } : Assembly).Reuses := ⟨rfl, rfl⟩

/-- Carried ids go on to count. -/
theorem Reuses.of_growsTo (h : assembly.Reuses) (hgrows : assembly.GrowsTo after) : after.Reuses :=
  ⟨hgrows.nodes.policy.trans h.nodes, hgrows.relationships.policy.trans h.relationships⟩

/-- An assembly holds an occurrence once it has placed it. -/
theorem Reuses.holds_of_place (hreuses : assembly.Reuses) {occurrence : Occurrence}
    (h : assembly.place occurrence.piece = (.ok (), after)) : after.Holds occurrence := by
  cases occurrence with
  | node node =>
    rcases assembly.placeNode_cases node with ⟨error, -, heq⟩ | ⟨id, nodes, supply, hassign, heq⟩
    · simp only [Occurrence.piece, Assembly.place, heq] at h
      cases h
    · simp only [Occurrence.piece, Assembly.place, heq] at h
      cases h
      exact .node (Identities.resolve_of_assign hassign)
        (Identities.agrees_of_assign hreuses.nodes hassign)
        (Graph.mem_nodeIds_addNode.mpr (.inl rfl))
  | relationship relationship =>
    rcases assembly.placeRelationship_cases relationship with ⟨existing, id, heq⟩ |
      ⟨id, relationships, supply, hassign,
        ⟨endpoint, heq⟩ | ⟨source, target, graph, added, hsource, htarget, hadd, heq⟩⟩
    · simp only [Occurrence.piece, Assembly.place, heq] at h
      cases h
    · simp only [Occurrence.piece, Assembly.place, heq] at h
      cases h
    · simp only [Occurrence.piece, Assembly.place, heq] at h
      cases h
      have hnodeIds := Graph.nodeIds_of_addEdge hadd
      obtain ⟨hsourceMem, htargetMem, -, -⟩ := Graph.addEdge_eq_ok_iff.mp hadd
      exact .relationship (Identities.resolve_of_assign hassign)
        (Identities.agrees_of_assign hreuses.relationships hassign) hsource htarget
        (hnodeIds.symm ▸ hsourceMem) (hnodeIds.symm ▸ htargetMem)
        ((Graph.mem_edgeIds_of_addEdge hadd).mpr (.inl rfl))

/-- An assembly holds all occurrences that it has placed. -/
theorem Reuses.holds_of_placeAll (hreuses : assembly.Reuses) {occurrences : List Occurrence}
    (h : assembly.placeAll (occurrences.map Occurrence.piece) = (.ok (), after)) :
    ∀ occurrence ∈ occurrences, after.Holds occurrence := by
  induction occurrences generalizing assembly with
  | nil => exact List.forall_mem_nil _
  | cons first rest ih =>
    have hgrows := GrowsTo.place assembly first.piece
    rw [List.map_cons, placeAll] at h
    rcases hplaced : assembly.place first.piece with ⟨error | _, placed⟩
    · rw [hplaced] at h
      cases h
    · rw [hplaced] at h hgrows
      replace h : placed.placeAll (rest.map Occurrence.piece) = (.ok (), after) := h
      have hrest := GrowsTo.placeAll placed (rest.map Occurrence.piece)
      rw [h] at hrest
      exact List.forall_mem_cons.mpr
        ⟨(hreuses.holds_of_place hplaced).of_growsTo hrest, ih (hreuses.of_growsTo hgrows) h⟩

/-- Occurrences that an assembly holds are placed again without any change. -/
theorem placeAll_of_holds {occurrences : List Occurrence}
    (h : ∀ occurrence ∈ occurrences, assembly.Holds occurrence) :
    assembly.placeAll (occurrences.map Occurrence.piece) = (.ok (), assembly) := by
  induction occurrences with
  | nil => rfl
  | cons first rest ih =>
    obtain ⟨hfirst, hrest⟩ := List.forall_mem_cons.mp h
    rw [List.map_cons, placeAll, hfirst.place]
    exact ih hrest

end Assembly

open Assembly

/-- Pieces that have been assembled can be given again, in any order and as often as one likes: the
graph is the same, and no further id is used. -/
theorem ofPieces_append_of_subset {supply : IdSupply} {pieces repeated : List Piece} {graph : Graph}
    (h : (Graph.ofPieces supply pieces).1 = .ok graph) (hrepeated : repeated ⊆ pieces) :
    Graph.ofPieces supply (pieces ++ repeated) = (.ok graph, (Graph.ofPieces supply pieces).2) := by
  rcases hplaced : ({ supply } : Assembly).placeAll pieces with ⟨error | _, after⟩
  · rw [Graph.ofPieces, hplaced] at h
    cases h
  · have hgraph : after.graph = graph := by
      rw [Graph.ofPieces, hplaced] at h
      exact Except.ok.inj h
    -- Hops are taken apart first, as an occurrence is what is held, not a piece.
    have hholds : ∀ occurrence ∈ repeated.flatMap Piece.occurrences, after.Holds occurrence := by
      intro occurrence hoccurrence
      obtain ⟨piece, hpiece, hmem⟩ := List.mem_flatMap.mp hoccurrence
      rw [placeAll_eq_placeAll_occurrences] at hplaced
      exact (Reuses.start supply).holds_of_placeAll hplaced occurrence
        (List.mem_flatMap.mpr ⟨piece, hrepeated hpiece, hmem⟩)
    have hagain : after.placeAll repeated = (.ok (), after) := by
      rw [placeAll_eq_placeAll_occurrences]
      exact placeAll_of_holds hholds
    rw [Graph.ofPieces, Graph.ofPieces, placeAll_append, hplaced]
    simp only [hagain, finish, hgraph]
    rfl

/-- A relationship without an id and a hop back along it, a node that carries the id minted for it
before, and all of these given again in another order: the ids `x` and `y` are minted once. -/
theorem ofPieces_append_of_subset_minted_ids :
    let ann : StoreNode := ⟨⟨"1"⟩, ["Person"], .ofList [("id", .text "a")]⟩
    let bob : StoreNode := ⟨⟨"2"⟩, [], {}⟩
    let knownBob : StoreNode := ⟨⟨"2"⟩, ["Person"], .ofList [("id", .text "x")]⟩
    let knows : StoreRelationship := ⟨⟨"10"⟩, ⟨"1"⟩, ⟨"2"⟩, some "KNOWS", {}⟩
    let pieces := [Piece.node ann, .node bob, .relationship knows, .hop ⟨bob, knows, ann⟩,
      .node knownBob]
    let repeated := [Piece.relationship knows, .node knownBob, .hop ⟨bob, knows, ann⟩,
      .relationship knows, .node bob]
    let supply : IdSupply := { id := fun n => if n = 0 then "x" else "y" }
    let graph : Graph :=
      { nodes := [⟨"a", ["Person"], {}⟩, ⟨"x", [], {}⟩]
        edges := [⟨"y", "a", "x", some "KNOWS", {}⟩] }
    (Graph.ofPieces supply pieces).1 = .ok graph ∧ repeated ⊆ pieces ∧
      (Graph.ofPieces supply pieces).2.used = 2 ∧
      Graph.ofPieces supply (pieces ++ repeated) =
        (.ok graph, (Graph.ofPieces supply pieces).2) := by
  intro ann bob knownBob knows pieces repeated supply graph
  have h : (Graph.ofPieces supply pieces).1 = .ok graph := by rfl
  have hrepeated : repeated ⊆ pieces := by simp [pieces, repeated]
  exact ⟨h, hrepeated, by rfl, ofPieces_append_of_subset h hrepeated⟩

end GraphGateway
