import GraphGateway.Proofs.Schema.Drawing
import GraphGateway.Proofs.Schema.Reserved
import GraphGateway.Proofs.Schema.Soundness
import Mathlib.Data.List.Induction

/-!
# Drafting a schema draws it

The assembly of a schema goes over its nodes and then over its relationships, and the graph that it
has built so far is always the drawing of the elements seen so far. With distinct ids no edge is
taken for one that is there already, so the only way to fail is a relationship with a missing end.
-/

namespace GraphGateway

namespace Schema

namespace Draft

/-!
## Runs over a list
-/

section Runs

variable {α : Type} (step : Draft → α → Except Error Unit × Draft) (draft : Draft)

/-- Steps over two lists are those over the first and, unless one of them fails, those over the
second. -/
theorem all_append (items more : List α) :
    all step draft (items ++ more) =
      match all step draft items with
      | (.error error, after) => (.error error, after)
      | (.ok (), after) => all step after more := by
  induction items generalizing draft with
  | nil => rfl
  | cons item rest ih =>
    rw [List.cons_append, all.eq_def step draft (item :: (rest ++ more)),
      all.eq_def step draft (item :: rest)]
    dsimp only
    rcases step draft item with ⟨_ | _, after⟩
    · rfl
    · exact ih after

/-- A run of one step is that step. -/
theorem all_singleton (item : α) : all step draft [item] = step draft item := by
  simp only [all]
  rcases step draft item with ⟨_ | _, after⟩ <;> rfl

end Runs

/-!
## Single steps
-/

variable {draft : Draft} {supply : IdSupply} {schema : Schema}

/-- A virtual node of a known identity is offered to the graph under the id of the identity. -/
theorem placeNode_of_resolved {node : StoreNode} {id : String}
    (hpolicy : draft.nodes.policy = .mint)
    (hknown : draft.nodes.resolve node.identity = some id) :
    draft.placeNode node =
      (.ok (), { draft with graph := (draft.graph.addNode (node.toNode id)).1 }) := by
  rw [placeNode, Identities.assign_of_resolved hknown, Identities.carried_of_mint hpolicy]

/-- A virtual node of a new identity is offered to the graph under the next id. -/
theorem placeNode_of_unresolved {node : StoreNode} (hpolicy : draft.nodes.policy = .mint)
    (hnew : draft.nodes.resolve node.identity = none) :
    draft.placeNode node =
      (.ok (),
        { draft with
          supply := draft.supply.mint.2
          nodes :=
            { draft.nodes with
              bindings := (node.identity, draft.supply.mint.1) :: draft.nodes.bindings }
          graph := (draft.graph.addNode (node.toNode draft.supply.mint.1)).1 }) := by
  rw [placeNode, Identities.assign_of_unresolved hnew, Identities.carried_of_mint hpolicy]
  rfl

/-!
## Drafts that are drawings
-/

/-- The draft stands where the drawing of a schema stands: same graph, same ids, same supply. -/
structure Draws (draft : Draft) (supply : IdSupply) (schema : Schema) : Prop where
  policy : draft.nodes.policy = .mint
  supply_eq : draft.supply = schema.supplyAfter supply
  resolve : ∀ identity, draft.nodes.resolve identity = schema.nodeId? supply identity
  graph_eq : draft.graph = schema.drawn supply

/-- A draft starts with the drawing of nothing. -/
theorem Draws.start (supply : IdSupply) : Draws { supply } supply {} where
  policy := rfl
  supply_eq := rfl
  resolve _ := rfl
  graph_eq := rfl

/-- Placing a node of a known identity, under whose id there is a node already, changes nothing. -/
theorem Draws.placeNode_of_mem (hdraws : draft.Draws supply schema) {node : StoreNode}
    (hknown : node.identity ∈ schema.identities) :
    draft.placeNode node = (.ok (), draft) ∧ draft.Draws supply (schema.withNode node) := by
  have hresolve :
      draft.nodes.resolve node.identity = some (schema.nodeId supply node.identity) := by
    rw [hdraws.resolve, nodeId?, if_pos hknown]
  have hgraph : (draft.graph.addNode (node.toNode (schema.nodeId supply node.identity))).1 =
      draft.graph := by
    rw [hdraws.graph_eq]
    exact Graph.addNode_of_mem (nodeId_mem_nodeIds hknown)
  refine ⟨by rw [placeNode_of_resolved hdraws.policy hresolve, hgraph], hdraws.policy, ?_, ?_, ?_⟩
  · rw [hdraws.supply_eq, supplyAfter, supplyAfter, distinctNodes_withNode, if_pos hknown,
      relationships_withNode]
  · intro identity
    rw [hdraws.resolve, nodeId?_withNode_of_mem hknown]
  · rw [hdraws.graph_eq, drawn_withNode_of_mem hknown]

/-- Placing a node of a new identity draws it under the next id, which no node has. -/
theorem Draws.placeNode_of_notMem (hdraws : draft.Draws supply schema)
    (hdistinct : supply.Distinct) (hnodes : schema.relationships = []) {node : StoreNode}
    (hnew : node.identity ∉ schema.identities) :
    ∃ after, draft.placeNode node = (.ok (), after) ∧
      after.Draws supply (schema.withNode node) := by
  have hresolve : draft.nodes.resolve node.identity = none := by
    rw [hdraws.resolve, nodeId?, if_neg hnew]
  have hmint : draft.supply.mint =
      (supply.id (supply.used + schema.distinctNodes.length),
        (schema.withNode node).supplyAfter supply) := by
    simp only [hdraws.supply_eq, supplyAfter, hnodes, distinctNodes_withNode, if_neg hnew,
      relationships_withNode, IdSupply.mint, List.length_append, List.length_singleton,
      List.length_nil, Nat.add_zero, Nat.add_assoc]
  have hgraph : (draft.graph.addNode
      (node.toNode (supply.id (supply.used + schema.distinctNodes.length)))).1 =
        (schema.withNode node).drawn supply := by
    rw [hdraws.graph_eq, drawn_withNode_of_notMem hnodes hnew]
    exact Graph.addNode_of_notMem (id_notMem_nodeIds_drawn hdistinct schema)
  refine ⟨_, placeNode_of_unresolved hdraws.policy hresolve, hdraws.policy, ?_, ?_, ?_⟩
  · rw [hmint]
  · intro identity
    dsimp only
    rw [Identities.resolve_cons, hmint, nodeId?_withNode_of_notMem hnew]
    exact if_congr Iff.rfl rfl (hdraws.resolve identity)
  · dsimp only
    rw [hmint, hgraph]

/-- Placing a node before all relationships draws it. -/
theorem Draws.placeNode (hdraws : draft.Draws supply schema) (hdistinct : supply.Distinct)
    (hnodes : schema.relationships = []) (node : StoreNode) :
    ∃ after, draft.placeNode node = (.ok (), after) ∧
      after.Draws supply (schema.withNode node) := by
  by_cases hknown : node.identity ∈ schema.identities
  · exact ⟨draft, hdraws.placeNode_of_mem hknown⟩
  · exact hdraws.placeNode_of_notMem hdistinct hnodes hknown

/-- The id of a listed identity is found. -/
theorem Draws.endpoint_of_lists (hdraws : draft.Draws supply schema) {identity : StoreId}
    (hlisted : schema.Lists identity) (relationship : String) :
    draft.nodes.endpoint relationship identity = .ok (schema.nodeId supply identity) :=
  Identities.endpoint_eq_ok_iff.mpr <| by
    rw [hdraws.resolve, nodeId?, if_pos (mem_identities.mpr hlisted)]

/-- The id of an identity that is not listed is missing. -/
theorem Draws.endpoint_of_not_lists (hdraws : draft.Draws supply schema) {identity : StoreId}
    (hmissing : ¬schema.Lists identity) (relationship : String) :
    draft.nodes.endpoint relationship identity =
      .error (.danglingEndpoint relationship identity.key) :=
  Identities.endpoint_eq_error_iff.mpr
    ⟨by rw [hdraws.resolve, nodeId?, if_neg (mem_identities.not.mpr hmissing)], rfl⟩

/-- A relationship draws the id behind all those in the drawing. -/
theorem Draws.mint (hdraws : draft.Draws supply schema) (relationship : StoreRelationship) :
    draft.supply.mint =
      (schema.nextId supply, (schema.withRelationship relationship).supplyAfter supply) := by
  simp only [hdraws.supply_eq, IdSupply.mint, supplyAfter, nextId, withRelationship,
    List.length_append, List.length_singleton, Nat.add_assoc]
  rfl

/-- Placing a relationship between listed identities draws it. -/
theorem Draws.placeRelationship (hdraws : draft.Draws supply schema) (hdistinct : supply.Distinct)
    {relationship : StoreRelationship} (hjoins : schema.Joins relationship) :
    ∃ after, draft.placeRelationship relationship = (.ok (), after) ∧
      after.Draws supply (schema.withRelationship relationship) := by
  have hadd : draft.graph.addEdge (relationship.toEdge (schema.nextId supply)
      (schema.nodeId supply relationship.start) (schema.nodeId supply relationship.finish)) =
        .ok ((schema.withRelationship relationship).drawn supply, true) := by
    rw [hdraws.graph_eq, drawn_withRelationship]
    exact Graph.addEdge_of_notMem (nodeId_mem_nodeIds (mem_identities.mpr hjoins.1))
      (nodeId_mem_nodeIds (mem_identities.mpr hjoins.2)) (nextId_notMem_edgeIds_drawn hdistinct _)
  refine ⟨{ draft with
    supply := (schema.withRelationship relationship).supplyAfter supply
    graph := (schema.withRelationship relationship).drawn supply }, ?_,
      hdraws.policy, rfl, hdraws.resolve, rfl⟩
  simp only [placeRelationship_eq, hdraws.mint relationship, hdraws.endpoint_of_lists hjoins.1,
    hdraws.endpoint_of_lists hjoins.2, hadd]

/-- Placing a relationship with a missing end fails, and its id is spent. -/
theorem Draws.placeRelationship_of_misses (hdraws : draft.Draws supply schema)
    {relationship : StoreRelationship} {identity : StoreId}
    (hmisses : schema.Misses relationship identity) :
    (draft.placeRelationship relationship).1 =
      .error (.danglingEndpoint (schema.nextId supply) identity.key) := by
  rcases hmisses with ⟨hstart, rfl⟩ | ⟨hstart, hfinish, rfl⟩
  · simp only [placeRelationship_eq, hdraws.mint relationship,
      hdraws.endpoint_of_not_lists hstart]
  · simp only [placeRelationship_eq, hdraws.mint relationship, hdraws.endpoint_of_lists hstart,
      hdraws.endpoint_of_not_lists hfinish]

/-!
## Whole runs
-/

/-- Placing nodes draws them. -/
theorem exists_draws_of_nodes (hdistinct : supply.Distinct) (nodes : List StoreNode) :
    ∃ after, all Draft.placeNode { supply } nodes = (.ok (), after) ∧
      after.Draws supply { nodes } := by
  induction nodes using List.reverseRecOn with
  | nil => exact ⟨{ supply }, rfl, Draws.start supply⟩
  | append_singleton nodes node ih =>
    obtain ⟨reached, hplaced, hdraws⟩ := ih
    obtain ⟨after, hlast, hafter⟩ := hdraws.placeNode hdistinct rfl node
    refine ⟨after, ?_, hafter⟩
    simp only [all_append, hplaced, all_singleton, hlast]

/-- Placing relationships between listed identities draws them. -/
theorem Draws.exists_of_relationships (hdistinct : supply.Distinct) {nodes : List StoreNode}
    (hdraws : draft.Draws supply { nodes }) {relationships : List StoreRelationship}
    (hjoins : ∀ relationship ∈ relationships, Schema.Joins { nodes } relationship) :
    ∃ after, all Draft.placeRelationship draft relationships = (.ok (), after) ∧
      after.Draws supply { nodes, relationships } := by
  induction relationships using List.reverseRecOn with
  | nil => exact ⟨draft, rfl, hdraws⟩
  | append_singleton relationships relationship ih =>
    obtain ⟨reached, hplaced, hreached⟩ :=
      ih fun earlier hearlier => hjoins earlier (List.mem_append_left _ hearlier)
    obtain ⟨after, hlast, hafter⟩ :=
      hreached.placeRelationship hdistinct (hjoins relationship (by simp))
    refine ⟨after, ?_, hafter⟩
    simp only [all_append, hplaced, all_singleton, hlast]

end Draft

/-- The relationships of a schema are all between listed identities, or there is a first one that is
not. -/
theorem all_join_or_first_misses (schema : Schema) (relationships : List StoreRelationship) :
    (∀ relationship ∈ relationships, schema.Joins relationship) ∨
      ∃ before relationship after identity, relationships = before ++ relationship :: after ∧
        (∀ earlier ∈ before, schema.Joins earlier) ∧ schema.Misses relationship identity := by
  induction relationships with
  | nil => exact Or.inl (by simp)
  | cons first rest ih =>
    rcases schema.joins_or_misses first with hjoins | ⟨identity, hmisses⟩
    · rcases ih with hrest | ⟨before, relationship, after, identity, rfl, hbefore, hmisses⟩
      · exact Or.inl (List.forall_mem_cons.mpr ⟨hjoins, hrest⟩)
      · exact Or.inr ⟨first :: before, relationship, after, identity, rfl,
          List.forall_mem_cons.mpr ⟨hjoins, hbefore⟩, hmisses⟩
    · exact Or.inr ⟨[], first, rest, identity, rfl, by simp, hmisses⟩

end Schema

/-- A schema whose relationships are all between listed identities has its drawing as graph. -/
theorem ofSchema_of_joins {supply : IdSupply} {schema : Schema} (hdistinct : supply.Distinct)
    (hjoins : ∀ relationship ∈ schema.relationships, schema.Joins relationship) :
    Graph.ofSchema supply schema = (.ok (schema.drawn supply), schema.supplyAfter supply) := by
  obtain ⟨placed, hnodes, hplaced⟩ := Schema.Draft.exists_draws_of_nodes hdistinct schema.nodes
  obtain ⟨after, hrelationships, hafter⟩ := hplaced.exists_of_relationships hdistinct hjoins
  simp only [Graph.ofSchema, hnodes, hrelationships, Except.map, hafter.graph_eq, hafter.supply_eq]

/-- A relationship with a missing end, behind others that have none, ends the assembly. -/
theorem ofSchema_of_misses {supply : IdSupply} {schema : Schema} (hdistinct : supply.Distinct)
    {before after : List StoreRelationship} {relationship : StoreRelationship} {identity : StoreId}
    (hsplit : schema.relationships = before ++ relationship :: after)
    (hbefore : ∀ earlier ∈ before, schema.Joins earlier)
    (hmisses : schema.Misses relationship identity) :
    (Graph.ofSchema supply schema).1 =
      .error (.danglingEndpoint
        (supply.id (supply.used + schema.distinctNodes.length + before.length))
        identity.key) := by
  obtain ⟨placed, hnodes, hplaced⟩ := Schema.Draft.exists_draws_of_nodes hdistinct schema.nodes
  obtain ⟨reached, hrelationships, hreached⟩ := hplaced.exists_of_relationships hdistinct hbefore
  have herror := hreached.placeRelationship_of_misses hmisses
  simp only [Graph.ofSchema, hnodes, hsplit, Schema.Draft.all_append, hrelationships,
    Schema.Draft.all]
  generalize reached.placeRelationship relationship = step at herror
  obtain ⟨answer, left⟩ := step
  obtain rfl := herror
  rfl

/-- With distinct ids, the assembly of a schema succeeds just when every relationship is between
listed identities, and fails otherwise at the first that is not, naming its start before its end.
The graph has one node for each identity, under the first ids in the order of their first
occurrence, and one edge for each relationship, under the ids that follow; identities and nodes
stand for each other one to one. The reserved properties of the elements have no effect. -/
theorem ofSchema_drawn {supply : IdSupply} (hdistinct : supply.Distinct) (schema : Schema) :
    (∀ graph, (Graph.ofSchema supply schema).1 = .ok graph ↔
      (∀ relationship ∈ schema.relationships, schema.Joins relationship) ∧
        graph = schema.drawn supply) ∧
      (∀ error, (Graph.ofSchema supply schema).1 = .error error ↔
        ∃ before relationship after identity,
          schema.relationships = before ++ relationship :: after ∧
          (∀ earlier ∈ before, schema.Joins earlier) ∧
          schema.Misses relationship identity ∧
          error = .danglingEndpoint
            (supply.id (supply.used + schema.distinctNodes.length + before.length))
            identity.key) ∧
      (schema.drawn supply).nodeIds =
        (List.range schema.distinctNodes.length).map (fun n => supply.id (supply.used + n)) ∧
      (schema.drawn supply).edgeIds =
        (List.range schema.relationships.length).map
          (fun n => supply.id (supply.used + schema.distinctNodes.length + n)) ∧
      (schema.drawn supply).edgeIds.Nodup ∧
      Set.BijOn (schema.nodeId supply) {identity | schema.Lists identity}
        {id | id ∈ (schema.drawn supply).nodeIds} ∧
      ∀ other, schema.Alike other →
        Graph.ofSchema supply schema = Graph.ofSchema supply other := by
  refine ⟨fun graph => ⟨fun h => ?_, ?_⟩, fun error => ⟨fun h => ?_, ?_⟩,
    schema.nodeIds_drawn supply, schema.edgeIds_drawn supply,
    Schema.nodup_edgeIds_drawn hdistinct schema, Schema.bijOn_nodeId hdistinct schema,
    fun other halike => halike.ofSchema_eq supply⟩
  · rcases schema.all_join_or_first_misses schema.relationships with
      hjoins | ⟨before, relationship, after, identity, hsplit, hbefore, hmisses⟩
    · rw [ofSchema_of_joins hdistinct hjoins] at h
      exact ⟨hjoins, (Except.ok.inj h).symm⟩
    · rw [ofSchema_of_misses hdistinct hsplit hbefore hmisses] at h
      cases h
  · rintro ⟨hjoins, rfl⟩
    rw [ofSchema_of_joins hdistinct hjoins]
  · rcases schema.all_join_or_first_misses schema.relationships with
      hjoins | ⟨before, relationship, after, identity, hsplit, hbefore, hmisses⟩
    · rw [ofSchema_of_joins hdistinct hjoins] at h
      cases h
    · rw [ofSchema_of_misses hdistinct hsplit hbefore hmisses] at h
      exact ⟨before, relationship, after, identity, hsplit, hbefore, hmisses,
        (Except.error.inj h).symm⟩
  · rintro ⟨before, relationship, after, identity, hsplit, hbefore, hmisses, rfl⟩
    exact ofSchema_of_misses hdistinct hsplit hbefore hmisses

/-- Identity 1 is listed twice, with different carried ids, and two relationships have one identity:
two nodes and two edges. A relationship to an identity that is not listed ends the assembly. -/
theorem ofSchema_drawn_repeated_identities :
    let supply : IdSupply := { id := fun n => String.ofList (List.replicate n 'x') }
    let nodes : List StoreNode :=
      [⟨⟨"1"⟩, ["Person"], .ofList [("id", .text "a"), ("name", .text "Person")]⟩,
        ⟨⟨"2"⟩, ["City"], {}⟩, ⟨⟨"1"⟩, ["Town"], .ofList [("id", .text "b")]⟩]
    let relationships : List StoreRelationship :=
      [⟨⟨"3"⟩, ⟨"2"⟩, ⟨"1"⟩, some "KNOWS", {}⟩,
        ⟨⟨"3"⟩, ⟨"1"⟩, ⟨"1"⟩, some "LIVES_IN", .ofList [("id", .text "a")]⟩]
    let missing : StoreRelationship := ⟨⟨"4"⟩, ⟨"1"⟩, ⟨"9"⟩, some "KNOWS", {}⟩
    supply.Distinct ∧
      (Graph.ofSchema supply { nodes, relationships }).1 = .ok
        { nodes := [⟨"", ["Person"], .ofList [("name", .text "Person")]⟩, ⟨"x", ["City"], {}⟩],
          edges := [⟨"xx", "x", "", some "KNOWS", {}⟩, ⟨"xxx", "", "", some "LIVES_IN", {}⟩] } ∧
      (Graph.ofSchema supply { nodes, relationships := relationships ++ [missing] }).1 =
        .error (.danglingEndpoint "xxxx" "9") := by
  intro supply nodes relationships missing
  have hdistinct : supply.Distinct := by
    intro m _ n _ heq
    simpa using congrArg List.length (String.ofList_inj.mp heq)
  have hjoins : ∀ relationship ∈ relationships, Schema.Joins { nodes } relationship := by
    decide +zetaReduce
  have hmisses : Schema.Misses { nodes } missing ⟨"9"⟩ := by
    decide +zetaReduce
  refine ⟨hdistinct, ?_, ?_⟩
  · exact ((ofSchema_drawn hdistinct { nodes, relationships }).1 _).mpr ⟨hjoins, by rfl⟩
  · exact ((ofSchema_drawn hdistinct { nodes, relationships := relationships ++ [missing] }).2.1
      _).mpr ⟨relationships, missing, [], ⟨"9"⟩, rfl, hjoins, hmisses, by rfl⟩

end GraphGateway
