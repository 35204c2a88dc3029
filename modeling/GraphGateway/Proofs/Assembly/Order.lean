import GraphGateway.Proofs.Assembly.Outcome
import Mathlib.Data.List.Nodup

/-!
# The order of delivery does not matter

Elements that carry ids, and are the same wherever they share an identity or an id, have their ids
by themselves: no id is given for the place at which an element occurs. Then membership alone
decides what is in the graph, so an answer in any other order gives the same elements. What depends
on the order is only the order of the graph.
-/

namespace GraphGateway

/-- All elements carry ids, and elements of one kind that share an identity or an id are equal. -/
structure Coherent (occurrences : List Occurrence) : Prop where
  node_carries : ∀ {node : StoreNode}, .node node ∈ occurrences → ∃ id, node.carriedId? = some id
  relationship_carries : ∀ {relationship : StoreRelationship},
    .relationship relationship ∈ occurrences → ∃ id, relationship.carriedId? = some id
  node_eq : ∀ {a b : StoreNode}, .node a ∈ occurrences → .node b ∈ occurrences →
    a.identity = b.identity ∨ a.carriedId? = b.carriedId? → a = b
  relationship_eq : ∀ {a b : StoreRelationship}, .relationship a ∈ occurrences →
    .relationship b ∈ occurrences → a.identity = b.identity ∨ a.carriedId? = b.carriedId? → a = b

/-- Some of coherent occurrences are coherent. -/
theorem Coherent.of_subset {occurrences part : List Occurrence} (hcoherent : Coherent occurrences)
    (hsubset : ∀ occurrence ∈ part, occurrence ∈ occurrences) : Coherent part where
  node_carries h := hcoherent.node_carries (hsubset _ h)
  relationship_carries h := hcoherent.relationship_carries (hsubset _ h)
  node_eq ha hb := hcoherent.node_eq (hsubset _ ha) (hsubset _ hb)
  relationship_eq ha hb := hcoherent.relationship_eq (hsubset _ ha) (hsubset _ hb)

/-!
## Every element has its own id
-/

/-- The id chosen for an element is its own, where the elements named before have theirs and its
identity is not that of another element. -/
private theorem carriedId_of_choose {α : Type} {identityOf : α → StoreId}
    {carriedOf : α → Option String} {named : List (α × String)} {value : α} {own : String}
    (hnamed : ∀ other id, (other, id) ∈ named → carriedOf other = some id)
    (hown : carriedOf value = some own)
    (hsame : ∀ other id, (other, id) ∈ named → identityOf other = identityOf value →
      other = value)
    (supply : IdSupply) :
    (supply.choose ((named.map fun entry => (identityOf entry.1, entry.2)).lookup
      (identityOf value)) (carriedOf value)).1 = own := by
  cases hgiven : (named.map fun entry => (identityOf entry.1, entry.2)).lookup
      (identityOf value) with
  | none => rw [hown, IdSupply.choose]
  | some given =>
    obtain ⟨other, hother, hidentity⟩ := Naming.exists_named_of_lookup hgiven
    have hgivenOwn := hnamed other given hother
    rw [hsame other given hother hidentity, hown, Option.some.injEq] at hgivenOwn
    exact hgivenOwn.symm

/-- Coherent elements are named by the ids that they carry. -/
theorem Coherent.carriedId_of_named {occurrences : List Occurrence}
    (hcoherent : Coherent occurrences) (supply : IdSupply) :
    (∀ node id, (node, id) ∈ (Naming.ofOccurrences supply occurrences).nodes →
      node.carriedId? = some id) ∧
    ∀ relationship id,
      (relationship, id) ∈ (Naming.ofOccurrences supply occurrences).relationships →
      relationship.carriedId? = some id := by
  induction occurrences using List.reverseRecOn with
  | nil => simp [Naming.ofOccurrences]
  | append_singleton occurrences occurrence ih =>
    have hearlier : Coherent occurrences :=
      hcoherent.of_subset fun _ hmem => List.mem_append_left _ hmem
    obtain ⟨hnodes, hrelationships⟩ := ih hearlier
    have hlast : occurrence ∈ occurrences ++ [occurrence] :=
      List.mem_append_right _ List.mem_cons_self
    rw [Naming.ofOccurrences_append_singleton]
    cases occurrence with
    | node node =>
      refine ⟨fun other id hmem => ?_, hrelationships⟩
      rcases List.mem_append.mp hmem with hold | hnew
      · exact hnodes other id hold
      · obtain ⟨rfl, rfl⟩ := Prod.mk.inj (List.mem_singleton.mp hnew)
        obtain ⟨own, hown⟩ := hcoherent.node_carries hlast
        rw [hown, Option.some.injEq, eq_comm]
        refine carriedId_of_choose hnodes hown (fun earlier given hgiven hidentity => ?_) _
        have hoccurs := (Naming.mem_nodes_ofOccurrences supply).mp ⟨given, hgiven⟩
        exact hcoherent.node_eq (List.mem_append_left _ hoccurs) hlast (Or.inl hidentity)
    | relationship relationship =>
      refine ⟨hnodes, fun other id hmem => ?_⟩
      rcases List.mem_append.mp hmem with hold | hnew
      · exact hrelationships other id hold
      · obtain ⟨rfl, rfl⟩ := Prod.mk.inj (List.mem_singleton.mp hnew)
        obtain ⟨own, hown⟩ := hcoherent.relationship_carries hlast
        rw [hown, Option.some.injEq, eq_comm]
        refine carriedId_of_choose hrelationships hown
          (fun earlier given hgiven hidentity => ?_) _
        have hoccurs := (Naming.mem_relationships_ofOccurrences supply).mp ⟨given, hgiven⟩
        exact hcoherent.relationship_eq (List.mem_append_left _ hoccurs) hlast
          (Or.inl hidentity)

/-- What is named by coherent elements: each that occurs, by the id that it carries. -/
theorem Coherent.mem_named_iff {occurrences : List Occurrence} (hcoherent : Coherent occurrences)
    (supply : IdSupply) :
    (∀ node id, (node, id) ∈ (Naming.ofOccurrences supply occurrences).nodes ↔
      .node node ∈ occurrences ∧ node.carriedId? = some id) ∧
    ∀ relationship id,
      (relationship, id) ∈ (Naming.ofOccurrences supply occurrences).relationships ↔
        .relationship relationship ∈ occurrences ∧ relationship.carriedId? = some id := by
  obtain ⟨hnodes, hrelationships⟩ := hcoherent.carriedId_of_named supply
  constructor
  · intro node id
    constructor
    · intro hmem
      exact ⟨(Naming.mem_nodes_ofOccurrences supply).mp ⟨id, hmem⟩, hnodes node id hmem⟩
    · rintro ⟨hoccurs, hcarried⟩
      obtain ⟨given, hmem⟩ := (Naming.mem_nodes_ofOccurrences supply).mpr hoccurs
      rw [hnodes node given hmem, Option.some.injEq] at hcarried
      exact hcarried ▸ hmem
  · intro relationship id
    constructor
    · intro hmem
      exact ⟨(Naming.mem_relationships_ofOccurrences supply).mp ⟨id, hmem⟩,
        hrelationships relationship id hmem⟩
    · rintro ⟨hoccurs, hcarried⟩
      obtain ⟨given, hmem⟩ := (Naming.mem_relationships_ofOccurrences supply).mpr hoccurs
      rw [hrelationships relationship given hmem, Option.some.injEq] at hcarried
      exact hcarried ▸ hmem

/-- No occurrence among coherent ones is in conflict. -/
theorem Coherent.not_conflict {occurrences before : List Occurrence}
    (hcoherent : Coherent occurrences) {occurrence : Occurrence}
    (hoccurs : occurrence ∈ occurrences)
    (hbefore : ∀ other ∈ before, other ∈ occurrences) {supply : IdSupply} {identity : StoreId}
    {existing id : String} :
    ¬occurrence.Bad supply before (.identityConflict identity existing id) := by
  obtain ⟨hnodes, hrelationships⟩ := (hcoherent.of_subset hbefore).mem_named_iff supply
  intro hbad
  cases hbad with
  | @nodeConflict node _ _ given carried differs =>
    obtain ⟨other, hother, hidentity⟩ := Naming.exists_named_of_lookup given
    obtain ⟨hearlier, hown⟩ := (hnodes other _).mp hother
    rw [← hcoherent.node_eq (hbefore _ hearlier) hoccurs (Or.inl hidentity), hown] at carried
    exact differs (Option.some.inj carried).symm
  | @relationshipConflict relationship _ _ given carried differs =>
    obtain ⟨other, hother, hidentity⟩ := Naming.exists_named_of_lookup given
    obtain ⟨hearlier, hown⟩ := (hrelationships other _).mp hother
    rw [← hcoherent.relationship_eq (hbefore _ hearlier) hoccurs (Or.inl hidentity), hown]
      at carried
    exact differs (Option.some.inj carried).symm

/-- Coherent hops that bring the ends of their relationships along are all placed. -/
theorem Coherent.exists_ofPieces {hops : List Hop}
    (hcoherent : Coherent ((hops.map Piece.hop).flatMap Piece.occurrences))
    (hends : ∀ hop ∈ hops,
      hop.relationship.start ∈ [hop.start.identity, hop.finish.identity] ∧
      hop.relationship.finish ∈ [hop.start.identity, hop.finish.identity])
    (supply : IdSupply) : ∃ graph, (Graph.ofPieces supply (hops.map .hop)).1 = .ok graph := by
  cases hresult : (Graph.ofPieces supply (hops.map .hop)).1 with
  | ok graph => exact ⟨graph, rfl⟩
  | error error =>
    exfalso
    have hfirst := firstBad_of_ofPieces hresult
    obtain ⟨before, occurrence, after, hsplit, hbad, -⟩ := id hfirst
    have hconflict (identity : StoreId) (existing attempted : String) :
        error ≠ .identityConflict identity existing attempted := by
      rintro rfl
      rw [hsplit] at hcoherent
      refine hcoherent.not_conflict (by simp) (fun other hother => ?_) hbad
      exact List.mem_append_left _ hother
    have hdangling (id endpoint : String) : error ≠ .danglingEndpoint id endpoint := by
      rintro rfl
      exact not_dangling_of_hops hends id endpoint hfirst
    cases hbad with
    | nodeConflict => exact hconflict _ _ _ rfl
    | relationshipConflict => exact hconflict _ _ _ rfl
    | danglingStart => exact hdangling _ _ rfl
    | danglingFinish => exact hdangling _ _ rfl

/-!
## What is in the graph
-/

variable {supply : IdSupply} {occurrences : List Occurrence}

/-- Among coherent occurrences, an identity has the id that its node carries. -/
theorem Coherent.nodeId?_eq_some_iff (hcoherent : Coherent occurrences) {identity : StoreId}
    {id : String} :
    (Naming.ofOccurrences supply occurrences).nodeId? identity = some id ↔
      ∃ node, .node node ∈ occurrences ∧ node.identity = identity ∧ node.carriedId? = some id := by
  obtain ⟨hnodes, -⟩ := hcoherent.mem_named_iff supply
  constructor
  · intro h
    obtain ⟨node, hnode, hidentity⟩ := Naming.exists_named_of_lookup h
    obtain ⟨hoccurs, hcarried⟩ := (hnodes node id).mp hnode
    exact ⟨node, hoccurs, hidentity, hcarried⟩
  · rintro ⟨node, hoccurs, rfl, hcarried⟩
    cases hgiven : (Naming.ofOccurrences supply occurrences).nodeId? node.identity with
    | none =>
      exact absurd rfl (Naming.nodeId?_ofOccurrences_eq_none_iff.mp hgiven node hoccurs)
    | some given =>
      obtain ⟨other, hother, hidentity⟩ := Naming.exists_named_of_lookup hgiven
      obtain ⟨hearlier, hown⟩ := (hnodes other given).mp hother
      rwa [← hcoherent.node_eq hearlier hoccurs (Or.inl hidentity), hown] at hcarried

/-- The nodes of a graph are the coherent nodes that occur, each under the id that it carries. -/
theorem Coherent.mem_nodes_iff (hcoherent : Coherent occurrences) {graph : Graph}
    (hgraph : (Naming.ofOccurrences supply occurrences).graph? = some graph) {node : Node} :
    node ∈ graph.nodes ↔
      ∃ storeNode id, .node storeNode ∈ occurrences ∧ storeNode.carriedId? = some id ∧
        Naming.node (storeNode, id) = node := by
  obtain ⟨hnodes, -⟩ := hcoherent.mem_named_iff supply
  obtain ⟨edges, -, rfl⟩ := Naming.graph?_eq_some_iff.mp hgraph
  rw [mem_firstsBy_iff]
  · simp only [List.mem_map, Prod.exists, hnodes, and_assoc]
  · intro a ha b hb hid
    obtain ⟨⟨first, x⟩, hfirst, rfl⟩ := List.mem_map.mp ha
    obtain ⟨⟨second, y⟩, hsecond, rfl⟩ := List.mem_map.mp hb
    obtain rfl : x = y := hid
    obtain ⟨hoccurs, hcarried⟩ := (hnodes first x).mp hfirst
    obtain ⟨hoccurs', hcarried'⟩ := (hnodes second x).mp hsecond
    rw [hcoherent.node_eq hoccurs hoccurs' (Or.inr (hcarried.trans hcarried'.symm))]

/-- The edges of a graph are those read off the coherent relationships that occur, each under the id
that it carries. -/
theorem Coherent.mem_edges_iff (hcoherent : Coherent occurrences) {graph : Graph}
    (hgraph : (Naming.ofOccurrences supply occurrences).graph? = some graph) {edge : Edge} :
    edge ∈ graph.edges ↔
      ∃ relationship id, .relationship relationship ∈ occurrences ∧
        relationship.carriedId? = some id ∧
        (Naming.ofOccurrences supply occurrences).edge? (relationship, id) = some edge := by
  obtain ⟨-, hrelationships⟩ := hcoherent.mem_named_iff supply
  obtain ⟨edges, hedges, rfl⟩ := Naming.graph?_eq_some_iff.mp hgraph
  have hread {edge : Edge} : edge ∈ edges ↔
      ∃ named ∈ (Naming.ofOccurrences supply occurrences).relationships,
        (Naming.ofOccurrences supply occurrences).edge? named = some edge :=
    Naming.mem_of_mapM_eq_some hedges
  rw [mem_firstsBy_iff]
  · simp only [hread, Prod.exists, hrelationships, and_assoc]
  · intro a ha b hb hid
    obtain ⟨⟨first, x⟩, hfirst, hfirstEdge⟩ := hread.mp ha
    obtain ⟨⟨second, y⟩, hsecond, hsecondEdge⟩ := hread.mp hb
    rw [Naming.id_of_edge? hfirstEdge, Naming.id_of_edge? hsecondEdge] at hid
    obtain rfl : x = y := hid
    obtain ⟨hoccurs, hcarried⟩ := (hrelationships first x).mp hfirst
    obtain ⟨hoccurs', hcarried'⟩ := (hrelationships second x).mp hsecond
    rw [hcoherent.relationship_eq hoccurs hoccurs' (Or.inr (hcarried.trans hcarried'.symm)),
      hsecondEdge, Option.some.injEq] at hfirstEdge
    exact hfirstEdge.symm

/-- Coherent occurrences in another order, or repeated, give a graph with the same elements. -/
theorem Coherent.graph_mem_iff (hcoherent : Coherent occurrences) {others : List Occurrence}
    (hmem : ∀ occurrence, occurrence ∈ occurrences ↔ occurrence ∈ others) {supply' : IdSupply}
    {graph graph' : Graph}
    (hgraph : (Naming.ofOccurrences supply occurrences).graph? = some graph)
    (hgraph' : (Naming.ofOccurrences supply' others).graph? = some graph') :
    (∀ node, node ∈ graph.nodes ↔ node ∈ graph'.nodes) ∧
      ∀ edge, edge ∈ graph.edges ↔ edge ∈ graph'.edges := by
  have hothers : Coherent others := hcoherent.of_subset fun other => (hmem other).mpr
  have hids : (Naming.ofOccurrences supply occurrences).nodeId? =
      (Naming.ofOccurrences supply' others).nodeId? := by
    funext identity
    ext id
    simp only [hcoherent.nodeId?_eq_some_iff, hothers.nodeId?_eq_some_iff, hmem]
  have hedge : (Naming.ofOccurrences supply occurrences).edge? =
      (Naming.ofOccurrences supply' others).edge? := by
    funext named
    simp only [Naming.edge?, hids]
  constructor
  · intro node
    simp only [hcoherent.mem_nodes_iff hgraph, hothers.mem_nodes_iff hgraph', hmem]
  · intro edge
    simp only [hcoherent.mem_edges_iff hgraph, hothers.mem_edges_iff hgraph', hmem, hedge]

/-- Graphs without repeated ids and with the same elements differ in their order only. -/
theorem Graph.perm_of_mem_iff {graph graph' : Graph}
    (hnodup : graph.nodeIds.Nodup ∧ graph.edgeIds.Nodup)
    (hnodup' : graph'.nodeIds.Nodup ∧ graph'.edgeIds.Nodup)
    (hnodes : ∀ node, node ∈ graph.nodes ↔ node ∈ graph'.nodes)
    (hedges : ∀ edge, edge ∈ graph.edges ↔ edge ∈ graph'.edges) :
    (∀ id, graph.node? id = graph'.node? id) ∧ (∀ id, graph.edge? id = graph'.edge? id) ∧
      graph.nodes.Perm graph'.nodes ∧ graph.edges.Perm graph'.edges := by
  refine ⟨fun id => ?_, fun id => ?_, ?_, ?_⟩
  · ext node
    simp only [Graph.node?_eq_some_iff hnodup.1, Graph.node?_eq_some_iff hnodup'.1, hnodes]
  · ext edge
    simp only [Graph.edge?_eq_some_iff hnodup.2, Graph.edge?_eq_some_iff hnodup'.2, hedges]
  · rw [List.perm_ext_iff_of_nodup (List.Nodup.of_map _ hnodup.1) (List.Nodup.of_map _ hnodup'.1)]
    exact hnodes
  · rw [List.perm_ext_iff_of_nodup (List.Nodup.of_map _ hnodup.2) (List.Nodup.of_map _ hnodup'.2)]
    exact hedges

/-- Hops whose elements carry ids, are the same wherever they share an identity or an id, and that
bring the ends of their relationships along, are assembled in any order to graphs with the same node
under each node id and the same edge under each edge id. Only the order of the elements differs. -/
theorem ofPieces_of_perm {hops hops' : List Hop}
    (hcoherent : Coherent ((hops.map Piece.hop).flatMap Piece.occurrences))
    (hends : ∀ hop ∈ hops,
      hop.relationship.start ∈ [hop.start.identity, hop.finish.identity] ∧
      hop.relationship.finish ∈ [hop.start.identity, hop.finish.identity])
    (hperm : hops'.Perm hops) (supply supply' : IdSupply) :
    ∃ graph graph', (Graph.ofPieces supply (hops.map .hop)).1 = .ok graph ∧
      (Graph.ofPieces supply' (hops'.map .hop)).1 = .ok graph' ∧
      (∀ id, graph.node? id = graph'.node? id) ∧ (∀ id, graph.edge? id = graph'.edge? id) ∧
      graph.nodes.Perm graph'.nodes ∧ graph.edges.Perm graph'.edges := by
  have hoccurrences : ((hops'.map Piece.hop).flatMap Piece.occurrences).Perm
      ((hops.map Piece.hop).flatMap Piece.occurrences) := (hperm.map _).flatMap_right _
  have hcoherent' : Coherent ((hops'.map Piece.hop).flatMap Piece.occurrences) :=
    hcoherent.of_subset fun _ => hoccurrences.mem_iff.mp
  obtain ⟨graph, hgraph⟩ := hcoherent.exists_ofPieces hends supply
  obtain ⟨graph', hgraph'⟩ := hcoherent'.exists_ofPieces
    (fun hop hhop => hends hop (hperm.mem_iff.mp hhop)) supply'
  have hread := (follows_of_ofPieces hgraph).1.graph
  have hread' := (follows_of_ofPieces hgraph').1.graph
  rw [(follows_of_ofPieces hgraph).2] at hread
  rw [(follows_of_ofPieces hgraph').2] at hread'
  obtain ⟨hnodes, hedges⟩ :=
    hcoherent.graph_mem_iff (fun _ => hoccurrences.mem_iff.symm) hread hread'
  exact ⟨graph, graph', hgraph, hgraph', Graph.perm_of_mem_iff (Naming.nodup_of_graph? hread)
    (Naming.nodup_of_graph? hread') hnodes hedges⟩

/-- A path there and back, over two relationships that both point backward: delivered the other way
round it gives the same two nodes and two edges in another order. -/
theorem ofPieces_of_perm_there_and_back :
    let ann : StoreNode := ⟨⟨"1"⟩, ["Person"], .ofList [("id", .text "a")]⟩
    let bob : StoreNode := ⟨⟨"2"⟩, [], .ofList [("id", .text "b")]⟩
    let knows : StoreRelationship :=
      ⟨⟨"1"⟩, ⟨"2"⟩, ⟨"1"⟩, some "KNOWS", .ofList [("id", .text "a")]⟩
    let likes : StoreRelationship := ⟨⟨"2"⟩, ⟨"1"⟩, ⟨"2"⟩, none, .ofList [("id", .text "b")]⟩
    let hops : List Hop := [⟨ann, knows, bob⟩, ⟨bob, likes, ann⟩]
    let supply : IdSupply := { id := fun _ => "" }
    Coherent ((hops.map Piece.hop).flatMap Piece.occurrences) ∧
      (∀ hop ∈ hops,
        hop.relationship.start ∈ [hop.start.identity, hop.finish.identity] ∧
        hop.relationship.finish ∈ [hop.start.identity, hop.finish.identity]) ∧
      hops.reverse.Perm hops ∧
      ∃ graph graph', (Graph.ofPieces supply (hops.map .hop)).1 = .ok graph ∧
        (Graph.ofPieces supply (hops.reverse.map .hop)).1 = .ok graph' ∧
        (∀ id, graph.node? id = graph'.node? id) ∧ (∀ id, graph.edge? id = graph'.edge? id) ∧
        graph.nodes.Perm graph'.nodes ∧ graph.edges.Perm graph'.edges := by
  intro ann bob knows likes hops supply
  have hann : ann.carriedId? = some "a" := by rfl
  have hbob : bob.carriedId? = some "b" := by rfl
  have hknows : knows.carriedId? = some "a" := by rfl
  have hlikes : likes.carriedId? = some "b" := by rfl
  have hnode {node : StoreNode}
      (h : .node node ∈ (hops.map Piece.hop).flatMap Piece.occurrences) :
      node = ann ∨ node = bob := by
    simp [hops, Piece.occurrences] at h
    tauto
  have hrelationship {relationship : StoreRelationship}
      (h : .relationship relationship ∈ (hops.map Piece.hop).flatMap Piece.occurrences) :
      relationship = knows ∨ relationship = likes := by
    simpa [hops, Piece.occurrences] using h
  have hcoherent : Coherent ((hops.map Piece.hop).flatMap Piece.occurrences) := by
    refine ⟨fun h => ?_, fun h => ?_, fun ha hb hsame => ?_, fun ha hb hsame => ?_⟩
    · rcases hnode h with rfl | rfl
      · exact ⟨_, hann⟩
      · exact ⟨_, hbob⟩
    · rcases hrelationship h with rfl | rfl
      · exact ⟨_, hknows⟩
      · exact ⟨_, hlikes⟩
    · rcases hnode ha with rfl | rfl <;> rcases hnode hb with rfl | rfl <;>
        simp_all [ann, bob]
    · rcases hrelationship ha with rfl | rfl <;> rcases hrelationship hb with rfl | rfl <;>
        simp_all [knows, likes]
  have hends : ∀ hop ∈ hops,
      hop.relationship.start ∈ [hop.start.identity, hop.finish.identity] ∧
      hop.relationship.finish ∈ [hop.start.identity, hop.finish.identity] := by
    simp [hops, ann, bob, knows, likes]
  have hperm : hops.reverse.Perm hops := hops.reverse_perm
  exact ⟨hcoherent, hends, hperm, ofPieces_of_perm hcoherent hends hperm supply supply⟩

end GraphGateway
