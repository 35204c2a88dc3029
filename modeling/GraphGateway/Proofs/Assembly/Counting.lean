import GraphGateway.Proofs.Assembly.Faithful
import Mathlib.Data.Finset.Card

/-!
# How many elements an assembly makes

With a supply whose ids are distinct and foreign to the answer, nothing is merged by accident and
nothing is doubled. A graph has one node for each id that nodes carry and one for each identity
whose nodes never carry an id, however often and in whatever order they occur, and likewise for
edges. Which occurrences fall together is told by their identities and the ids these carry.
-/

namespace GraphGateway

section Kind

variable {α : Type} {identityOf : α → StoreId} {carriedOf : α → Option String}
  {start current : IdSupply} {named : List (α × String)}

/-- The distinct ids that elements carry. -/
def carriedIds (carriedOf : α → Option String) (values : List α) : Finset String :=
  (values.filterMap carriedOf).toFinset

/-- The distinct identities none of whose elements carries an id. -/
def bareIdentities (identityOf : α → StoreId) (carriedOf : α → Option String) (values : List α) :
    Finset StoreId :=
  (values.map identityOf).toFinset \
    ((values.filter fun value => (carriedOf value).isSome).map identityOf).toFinset

/-- The id that named elements give to an identity, empty if none has it. -/
def idUnder (identityOf : α → StoreId) (named : List (α × String)) (identity : StoreId) : String :=
  ((named.map fun entry => (identityOf entry.1, entry.2)).lookup identity).getD ""

/-- An identity is bare when it occurs and no element with it carries an id. -/
theorem mem_bareIdentities {values : List α} {identity : StoreId} :
    identity ∈ bareIdentities identityOf carriedOf values ↔
      (∃ value ∈ values, identityOf value = identity) ∧
        ∀ value ∈ values, identityOf value = identity → carriedOf value = none := by
  simp only [bareIdentities, Finset.mem_sdiff, List.mem_toFinset, List.mem_map, List.mem_filter,
    not_exists, not_and, and_imp]
  refine and_congr_right fun _ => forall₂_congr fun value hvalue => ?_
  rw [← Option.not_isSome_iff_eq_none]
  exact ⟨fun h heq hsome => h hsome heq, fun h hsome heq => h heq hsome⟩

/-- A carried id is carried by an element that is named. -/
theorem mem_carriedIds {id : String} :
    id ∈ carriedIds carriedOf (named.map (·.1)) ↔
      ∃ value x, (value, x) ∈ named ∧ carriedOf value = some id := by
  simp [carriedIds]

namespace Faithful

/-- The id of an element is found under its identity. -/
theorem lookup_of_mem (hfaithful : Faithful identityOf carriedOf start current named) {value : α}
    {x : String} (hmem : (value, x) ∈ named) :
    (named.map fun entry => (identityOf entry.1, entry.2)).lookup (identityOf value) = some x := by
  cases hlookup : (named.map fun entry => (identityOf entry.1, entry.2)).lookup
      (identityOf value) with
  | none => exact absurd rfl (Naming.lookup_named_eq_none_iff.mp hlookup value x hmem)
  | some y =>
    obtain ⟨other, hother, hidentity⟩ := Naming.exists_named_of_lookup hlookup
    rw [hfaithful.same hother hmem hidentity]

/-- An identity is bare just when its id was drawn from the supply. -/
theorem mem_bareIdentities_iff (hfaithful : Faithful identityOf carriedOf start current named)
    (hfresh : start.AvoidsCarried carriedOf (named.map (·.1))) {value : α}
    {x : String} (hmem : (value, x) ∈ named) :
    identityOf value ∈ bareIdentities identityOf carriedOf (named.map (·.1)) ↔
      ∃ n, start.used ≤ n ∧ x = start.id n := by
  rw [mem_bareIdentities]
  constructor
  · rintro ⟨-, hbare⟩
    rcases hfaithful.origin hmem with ⟨other, hother, hidentity, hid⟩ | ⟨n, hn, -, heq⟩
    · rw [hbare other (List.mem_map_of_mem hother) hidentity] at hid
      cases hid
    · exact ⟨n, hn, heq⟩
  · rintro ⟨n, hn, rfl⟩
    refine ⟨⟨value, List.mem_map_of_mem hmem, rfl⟩, fun other hother hidentity => ?_⟩
    obtain ⟨⟨other, y⟩, hentry, rfl⟩ := List.mem_map.mp hother
    refine Option.eq_none_iff_forall_ne_some.mpr fun id hid => ?_
    have hdrawn : start.id n = id :=
      (hfaithful.same hmem hentry hidentity.symm).trans (hfaithful.carried hentry hid).symm
    exact hfresh other (List.mem_map_of_mem hentry) id hid n hn hdrawn

/-- The id of an element is that under its identity. -/
theorem idUnder_of_mem (hfaithful : Faithful identityOf carriedOf start current named) {value : α}
    {x : String} (hmem : (value, x) ∈ named) : idUnder identityOf named (identityOf value) = x := by
  rw [idUnder, hfaithful.lookup_of_mem hmem, Option.getD_some]

/-- A bare identity is that of some element, under an id drawn from the supply. -/
theorem exists_of_mem_bareIdentities
    (hfaithful : Faithful identityOf carriedOf start current named)
    (hfresh : start.AvoidsCarried carriedOf (named.map (·.1))) {identity : StoreId}
    (h : identity ∈ bareIdentities identityOf carriedOf (named.map (·.1))) :
    ∃ value n, (value, start.id n) ∈ named ∧ identityOf value = identity ∧ start.used ≤ n ∧
      idUnder identityOf named identity = start.id n := by
  obtain ⟨⟨value, hvalue, rfl⟩, -⟩ := mem_bareIdentities.mp h
  obtain ⟨⟨value, x⟩, hmem, rfl⟩ := List.mem_map.mp hvalue
  obtain ⟨n, hn, rfl⟩ := (hfaithful.mem_bareIdentities_iff hfresh hmem).mp h
  exact ⟨value, n, hmem, rfl, hn, hfaithful.idUnder_of_mem hmem⟩

/-- The ids given out are the carried ones and those under bare identities. -/
theorem ids_eq_union (hfaithful : Faithful identityOf carriedOf start current named)
    (hfresh : start.AvoidsCarried carriedOf (named.map (·.1))) :
    (named.map (·.2)).toFinset =
      carriedIds carriedOf (named.map (·.1)) ∪
        (bareIdentities identityOf carriedOf (named.map (·.1))).image
          (idUnder identityOf named) := by
  ext x
  simp only [List.mem_toFinset, List.mem_map, Prod.exists, exists_eq_right, Finset.mem_union,
    Finset.mem_image, mem_carriedIds]
  constructor
  · rintro ⟨value, hmem⟩
    rcases hfaithful.origin hmem with ⟨other, hother, -, hid⟩ | ⟨n, hn, -, heq⟩
    · exact Or.inl ⟨other, x, hother, hid⟩
    · exact Or.inr ⟨identityOf value,
        (hfaithful.mem_bareIdentities_iff hfresh hmem).mpr ⟨n, hn, heq⟩,
        hfaithful.idUnder_of_mem hmem⟩
  · rintro (⟨value, y, hmem, hid⟩ | ⟨identity, hidentity, rfl⟩)
    · exact ⟨value, hfaithful.carried hmem hid ▸ hmem⟩
    · obtain ⟨value, n, hmem, -, -, heq⟩ := hfaithful.exists_of_mem_bareIdentities hfresh hidentity
      exact ⟨value, heq ▸ hmem⟩

/-- No carried id is under a bare identity. -/
theorem disjoint_carriedIds (hfaithful : Faithful identityOf carriedOf start current named)
    (hfresh : start.AvoidsCarried carriedOf (named.map (·.1))) :
    Disjoint (carriedIds carriedOf (named.map (·.1)))
      ((bareIdentities identityOf carriedOf (named.map (·.1))).image
        (idUnder identityOf named)) := by
  refine Finset.disjoint_left.mpr fun x hcarried hdrawn => ?_
  obtain ⟨value, y, hmem, hid⟩ := mem_carriedIds.mp hcarried
  obtain ⟨identity, hidentity, rfl⟩ := Finset.mem_image.mp hdrawn
  obtain ⟨other, n, -, -, hn, heq⟩ := hfaithful.exists_of_mem_bareIdentities hfresh hidentity
  exact hfresh value (List.mem_map_of_mem hmem) _ hid n hn heq.symm

/-- Different bare identities have different ids. -/
theorem injOn_bareIdentities (hfaithful : Faithful identityOf carriedOf start current named)
    (hfresh : start.AvoidsCarried carriedOf (named.map (·.1))) :
    Set.InjOn (idUnder identityOf named)
      (bareIdentities identityOf carriedOf (named.map (·.1))) := by
  intro first hfirst second hsecond hsame
  obtain ⟨a, n, ha, rfl, hn, heq⟩ := hfaithful.exists_of_mem_bareIdentities hfresh hfirst
  obtain ⟨b, m, hb, rfl, -, heq'⟩ := hfaithful.exists_of_mem_bareIdentities hfresh hsecond
  have hid : start.id m = start.id n := heq'.symm.trans (hsame.symm.trans heq)
  exact hfaithful.alone hn ha (hid ▸ hb)

/-- Faithful naming gives out one id for each carried id and one for each bare identity. -/
theorem card_ids (hfaithful : Faithful identityOf carriedOf start current named)
    (hfresh : start.AvoidsCarried carriedOf (named.map (·.1))) :
    (named.map (·.2)).toFinset.card =
      (carriedIds carriedOf (named.map (·.1))).card +
        (bareIdentities identityOf carriedOf (named.map (·.1))).card := by
  rw [hfaithful.ids_eq_union hfresh,
    Finset.card_union_of_disjoint (hfaithful.disjoint_carriedIds hfresh),
    Finset.card_image_of_injOn (hfaithful.injOn_bareIdentities hfresh)]

/-- Where elements are stood for by what is found under their ids, the same is found for two of them
just when they are the same element. -/
theorem standsFor_eq_iff {β : Type} {standsFor : α → Option β} {find : String → Option β}
    {idOf : β → String} (hfaithful : Faithful identityOf carriedOf start current named)
    (hfresh : start.AvoidsCarried carriedOf (named.map (·.1)))
    (hfound : ∀ {value : α} {x : String}, (value, x) ∈ named →
      ∃ element, standsFor value = some element ∧ find x = some element ∧ idOf element = x) :
    ∀ a ∈ named.map (·.1), (standsFor a).isSome ∧ ∀ b ∈ named.map (·.1),
      (standsFor a = standsFor b ↔ SameElement identityOf carriedOf (named.map (·.1)) a b) := by
  intro a ha
  obtain ⟨⟨a, x⟩, hnamed, rfl⟩ := List.mem_map.mp ha
  obtain ⟨first, hfirst, hfindFirst, hidFirst⟩ := hfound hnamed
  refine ⟨Option.isSome_iff_exists.mpr ⟨first, hfirst⟩, fun b hb => ?_⟩
  obtain ⟨⟨b, y⟩, hnamed', rfl⟩ := List.mem_map.mp hb
  obtain ⟨second, hsecond, hfindSecond, hidSecond⟩ := hfound hnamed'
  rw [← hfaithful.id_eq_iff hfresh hnamed hnamed', hfirst, hsecond, Option.some.injEq]
  constructor
  · rintro rfl
    exact hidFirst.symm.trans hidSecond
  · rintro rfl
    exact Option.some.inj (hfindFirst.symm.trans hfindSecond)

end Faithful

end Kind

/-!
## Occurrences in a graph
-/

namespace Assembly

/-- The node of the graph that stands for a store node: the one whose id its identity is bound
to. -/
def nodeOf (assembly : Assembly) (node : StoreNode) : Option Node :=
  (assembly.nodes.resolve node.identity).bind assembly.graph.node?

/-- The edge of the graph that stands for a relationship: the one whose id its identity is bound
to. -/
def edgeOf (assembly : Assembly) (relationship : StoreRelationship) : Option Edge :=
  (assembly.relationships.resolve relationship.identity).bind assembly.graph.edge?

variable {assembly : Assembly} {naming : Naming} {start current : IdSupply}

/-- A named node is stood for by the node of the graph with its id. -/
theorem Follows.nodeOf_eq_some (hfollows : Follows assembly naming)
    (hfaithful : Faithful StoreNode.identity StoreNode.carriedId? start current naming.nodes)
    {storeNode : StoreNode} {id : String} (hmem : (storeNode, id) ∈ naming.nodes) :
    ∃ node, assembly.nodeOf storeNode = some node ∧ assembly.graph.node? id = some node ∧
      node.id = id := by
  have hid : id ∈ assembly.graph.nodeIds :=
    (Naming.mem_nodeIds_of_graph? hfollows.graph).mpr ⟨storeNode, hmem⟩
  obtain ⟨node, hnode, heq⟩ := List.mem_map.mp hid
  have hfound : assembly.graph.node? id = some node :=
    (Graph.node?_eq_some_iff (Naming.nodup_of_graph? hfollows.graph).1).mpr ⟨hnode, heq⟩
  refine ⟨node, ?_, hfound, heq⟩
  rw [nodeOf, hfollows.nodes, Naming.nodeId?, hfaithful.lookup_of_mem hmem]
  exact hfound

/-- A named relationship is stood for by the edge of the graph with its id. -/
theorem Follows.edgeOf_eq_some (hfollows : Follows assembly naming)
    (hfaithful : Faithful StoreRelationship.identity StoreRelationship.carriedId? start current
      naming.relationships)
    {relationship : StoreRelationship} {id : String}
    (hmem : (relationship, id) ∈ naming.relationships) :
    ∃ edge, assembly.edgeOf relationship = some edge ∧ assembly.graph.edge? id = some edge ∧
      edge.id = id := by
  have hid : id ∈ assembly.graph.edgeIds :=
    (Naming.mem_edgeIds_of_graph? hfollows.graph).mpr ⟨relationship, hmem⟩
  obtain ⟨edge, hedge, heq⟩ := List.mem_map.mp hid
  have hfound : assembly.graph.edge? id = some edge :=
    (Graph.edge?_eq_some_iff (Naming.nodup_of_graph? hfollows.graph).2).mpr ⟨hedge, heq⟩
  refine ⟨edge, ?_, hfound, heq⟩
  rw [edgeOf, hfollows.relationships, Naming.relationshipId?, hfaithful.lookup_of_mem hmem]
  exact hfound

end Assembly

/-- A list without repetition is as long as any list with the same members has distinct ones. -/
private theorem length_eq_card_of_mem_iff {ids given : List String} (hnodup : ids.Nodup)
    (hmem : ∀ id, id ∈ ids ↔ id ∈ given) : ids.length = given.toFinset.card := by
  rw [← List.toFinset_card_of_nodup hnodup]
  congr 1
  ext id
  simp only [List.mem_toFinset, hmem]

/-- With a supply whose ids are distinct and differ from all carried ones, a graph has one node for
each id that nodes carry and one for each identity whose nodes carry none, and one edge for each id
that relationships carry and one for each identity whose relationships carry none. Every occurrence
is stood for by an element of the graph, and two occurrences by the same one just when they have one
identity or their identities carry the same id. -/
theorem length_of_ofPieces {supply : IdSupply} {pieces : List Piece} {graph : Graph}
    (hdistinct : supply.Distinct)
    (hfresh : supply.AvoidsCarried Occurrence.carriedId? (pieces.flatMap Piece.occurrences))
    (h : (Graph.ofPieces supply pieces).1 = .ok graph) :
    let nodes := (pieces.flatMap Piece.occurrences).filterMap Occurrence.node?
    let relationships := (pieces.flatMap Piece.occurrences).filterMap Occurrence.relationship?
    let assembly := (({ supply } : Assembly).placeAll pieces).2
    graph.nodes.length = (carriedIds StoreNode.carriedId? nodes).card +
        (bareIdentities StoreNode.identity StoreNode.carriedId? nodes).card ∧
      graph.edges.length = (carriedIds StoreRelationship.carriedId? relationships).card +
        (bareIdentities StoreRelationship.identity StoreRelationship.carriedId?
          relationships).card ∧
      assembly.graph = graph ∧
      (∀ a ∈ nodes, (assembly.nodeOf a).isSome ∧ ∀ b ∈ nodes,
        (assembly.nodeOf a = assembly.nodeOf b ↔
          SameElement StoreNode.identity StoreNode.carriedId? nodes a b)) ∧
      ∀ a ∈ relationships, (assembly.edgeOf a).isSome ∧ ∀ b ∈ relationships,
        (assembly.edgeOf a = assembly.edgeOf b ↔
          SameElement StoreRelationship.identity StoreRelationship.carriedId? relationships
            a b) := by
  intro nodes relationships assembly
  obtain ⟨hfollows, hgraph⟩ := follows_of_ofPieces h
  obtain ⟨-, hnodes, hrelationships⟩ :=
    Naming.faithful_ofOccurrences hdistinct hfresh (allGood_of_ofPieces h)
  have hread := hfollows.graph
  rw [hgraph] at hread
  have hnodup := Naming.nodup_of_graph? hread
  simp only [nodes, relationships, ← Naming.map_fst_nodes_ofOccurrences supply,
    ← Naming.map_fst_relationships_ofOccurrences supply]
  refine ⟨?_, ?_, hgraph, ?_, ?_⟩
  · rw [← hnodes.card_ids hfresh.nodes, ← length_eq_card_of_mem_iff hnodup.1, Graph.nodeIds,
      List.length_map]
    intro id
    rw [Naming.mem_nodeIds_of_graph? hread]
    simp
  · rw [← hrelationships.card_ids hfresh.relationships, ← length_eq_card_of_mem_iff hnodup.2,
      Graph.edgeIds, List.length_map]
    intro id
    rw [Naming.mem_edgeIds_of_graph? hread]
    simp
  · exact hnodes.standsFor_eq_iff hfresh.nodes (hfollows.nodeOf_eq_some hnodes)
  · exact hrelationships.standsFor_eq_iff hfresh.relationships
      (hfollows.edgeOf_eq_some hrelationships)

/-- Identity 1 carries an id first and none later, identities 1 and 2 carry one id, identity 3 never
carries one and occurs twice, as does relationship 3 between both: two nodes and one edge. -/
theorem length_of_ofPieces_repeated_hop :
    let first : StoreNode := ⟨⟨"1"⟩, [], .ofList [("id", .text "a")]⟩
    let later : StoreNode := ⟨⟨"1"⟩, [], {}⟩
    let twin : StoreNode := ⟨⟨"2"⟩, [], .ofList [("id", .text "a")]⟩
    let bare : StoreNode := ⟨⟨"3"⟩, [], {}⟩
    let relationship : StoreRelationship := ⟨⟨"3"⟩, ⟨"1"⟩, ⟨"3"⟩, some "KNOWS", {}⟩
    let pieces := [Piece.hop ⟨first, relationship, bare⟩, .hop ⟨bare, relationship, later⟩,
      .node twin]
    let supply : IdSupply := { id := fun n => String.ofList (List.replicate n 'x') }
    let graph : Graph :=
      { nodes := [⟨"a", [], {}⟩, ⟨"", [], {}⟩], edges := [⟨"x", "a", "", some "KNOWS", {}⟩] }
    let nodes := (pieces.flatMap Piece.occurrences).filterMap Occurrence.node?
    let relationships := (pieces.flatMap Piece.occurrences).filterMap Occurrence.relationship?
    supply.Distinct ∧
      supply.AvoidsCarried Occurrence.carriedId? (pieces.flatMap Piece.occurrences) ∧
      (Graph.ofPieces supply pieces).1 = .ok graph ∧
      graph.nodes.length = (carriedIds StoreNode.carriedId? nodes).card +
        (bareIdentities StoreNode.identity StoreNode.carriedId? nodes).card ∧
      graph.edges.length = (carriedIds StoreRelationship.carriedId? relationships).card +
        (bareIdentities StoreRelationship.identity StoreRelationship.carriedId?
          relationships).card := by
  intro first later twin bare relationship pieces supply graph nodes relationships
  have hdistinct : supply.Distinct := by
    intro m _ n _ heq
    simpa using congrArg List.length (String.ofList_inj.mp heq)
  have hfresh : supply.AvoidsCarried Occurrence.carriedId? (pieces.flatMap Piece.occurrences) := by
    have hcarried : (pieces.flatMap Piece.occurrences).map Occurrence.carriedId? =
        [some "a", none, none, none, none, none, some "a"] := by rfl
    intro occurrence hmem id hid n _ heq
    have hmem := List.mem_map_of_mem (f := Occurrence.carriedId?) hmem
    rw [hcarried, hid] at hmem
    have hid : id = String.ofList ['a'] := by simpa using hmem
    have hreplicate : List.replicate n 'x' = ['a'] := String.ofList_inj.mp (heq.trans hid)
    cases n <;> simp [List.replicate_succ] at hreplicate
  have h : (Graph.ofPieces supply pieces).1 = .ok graph := by rfl
  obtain ⟨hnodes, hedges, -⟩ := length_of_ofPieces hdistinct hfresh h
  exact ⟨hdistinct, hfresh, h, hnodes, hedges⟩

end GraphGateway
