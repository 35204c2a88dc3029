import GraphGateway.Proofs.Assembly.Naming

/-!
# An assembly follows the naming of what it has placed

As long as nothing is refused, an assembly and the naming of the occurrences placed so far agree: on
the supply, on the id of every identity in both spaces, and on the graph. An occurrence is bad if it
contradicts the naming before it; a bad one is refused with the error that says why, and every other
one is placed, so that the assembly follows the naming also after it.
-/

namespace GraphGateway

/-- A carried id, where there is one, is the id given before, where there was one. -/
def Agrees (given? carried? : Option String) : Prop :=
  ∀ existing id, given? = some existing → carried? = some id → id = existing

/-- What keeps an occurrence from being placed after others, and the error that says so. A conflict
counts before a missing end, and the start before the end. -/
inductive Occurrence.Bad (supply : IdSupply) (before : List Occurrence) :
    Occurrence → Error → Prop where
  /-- A node carries another id than the one that its identity was given before. -/
  | nodeConflict {node : StoreNode} {existing id : String}
      (given : (Naming.ofOccurrences supply before).nodeId? node.identity = some existing)
      (carried : node.carriedId? = some id) (differs : id ≠ existing) :
      Bad supply before (.node node) (.identityConflict node.identity existing id)
  /-- A relationship carries another id than the one that its identity was given before. -/
  | relationshipConflict {relationship : StoreRelationship} {existing id : String}
      (given : (Naming.ofOccurrences supply before).relationshipId? relationship.identity =
        some existing)
      (carried : relationship.carriedId? = some id) (differs : id ≠ existing) :
      Bad supply before (.relationship relationship)
        (.identityConflict relationship.identity existing id)
  /-- No node before has the start of a relationship. -/
  | danglingStart {relationship : StoreRelationship}
      (agrees : Agrees
        ((Naming.ofOccurrences supply before).relationshipId? relationship.identity)
        relationship.carriedId?)
      (missing : ∀ node, .node node ∈ before → node.identity ≠ relationship.start) :
      Bad supply before (.relationship relationship)
        (.danglingEndpoint
          ((Naming.ofOccurrences supply before).nameRelationship relationship).1
          relationship.start.key)
  /-- A node before has the start of a relationship, but none has its end. -/
  | danglingFinish {relationship : StoreRelationship}
      (agrees : Agrees
        ((Naming.ofOccurrences supply before).relationshipId? relationship.identity)
        relationship.carriedId?)
      (present : ∃ node, .node node ∈ before ∧ node.identity = relationship.start)
      (missing : ∀ node, .node node ∈ before → node.identity ≠ relationship.finish) :
      Bad supply before (.relationship relationship)
        (.danglingEndpoint
          ((Naming.ofOccurrences supply before).nameRelationship relationship).1
          relationship.finish.key)

/-- A node that is not bad carries no id but the one given to its identity before. -/
theorem Occurrence.agrees_of_node_not_bad {supply : IdSupply} {before : List Occurrence}
    {node : StoreNode} (hgood : ∀ error, ¬(Occurrence.node node).Bad supply before error) :
    Agrees ((Naming.ofOccurrences supply before).nodeId? node.identity) node.carriedId? := by
  intro existing id hgiven hcarried
  by_contra hdiffers
  exact hgood _ (.nodeConflict hgiven hcarried hdiffers)

/-- A relationship that is not bad carries no id but the one given to its identity before. -/
theorem Occurrence.agrees_of_relationship_not_bad {supply : IdSupply} {before : List Occurrence}
    {relationship : StoreRelationship}
    (hgood : ∀ error, ¬(Occurrence.relationship relationship).Bad supply before error) :
    Agrees ((Naming.ofOccurrences supply before).relationshipId? relationship.identity)
      relationship.carriedId? := by
  intro existing id hgiven hcarried
  by_contra hdiffers
  exact hgood _ (.relationshipConflict hgiven hcarried hdiffers)

namespace Assembly

/-- The assembly stands where the naming stands: same supply, same ids, same graph. -/
structure Follows (assembly : Assembly) (naming : Naming) : Prop where
  node_policy : assembly.nodes.policy = .reuse
  relationship_policy : assembly.relationships.policy = .reuse
  supply : assembly.supply = naming.supply
  nodes : ∀ identity, assembly.nodes.resolve identity = naming.nodeId? identity
  relationships : ∀ identity,
    assembly.relationships.resolve identity = naming.relationshipId? identity
  graph : naming.graph? = some assembly.graph

/-- An assembly starts with nothing named. -/
theorem Follows.start (supply : IdSupply) :
    Follows { supply } (Naming.ofOccurrences supply []) where
  node_policy := rfl
  relationship_policy := rfl
  supply := rfl
  nodes _ := rfl
  relationships _ := rfl
  graph := rfl

/-- Where a carried id agrees with the one given before, the chosen id is handed out and bound. -/
private theorem exists_assign_of_agrees {identities : Identities} {identity : StoreId}
    {given? carried? : Option String} (hpolicy : identities.policy = .reuse)
    (hgiven : identities.resolve identity = given?) (hagrees : Agrees given? carried?)
    (supply : IdSupply) :
    ∃ after,
      identities.assign identity carried? supply =
        .ok ((supply.choose given? carried?).1, after, (supply.choose given? carried?).2) ∧
      after.policy = .reuse ∧
      ∀ other, after.resolve other =
        if other = identity then some (supply.choose given? carried?).1
        else identities.resolve other := by
  cases hassign : identities.assign identity carried? supply with
  | error error =>
    obtain ⟨existing, id, hbound, hcarried, hdiffers, -⟩ :=
      Identities.assign_eq_error_iff.mp hassign
    rw [hgiven] at hbound
    rw [Identities.carried_of_reuse hpolicy] at hcarried
    exact absurd (hagrees existing id hbound hcarried) hdiffers
  | ok answer =>
    obtain ⟨id, after, left⟩ := answer
    obtain ⟨hchosen, hkept, hresolve⟩ := Identities.assign_eq_ok hassign
    rw [hgiven, Identities.carried_of_reuse hpolicy] at hchosen
    rw [← hchosen]
    exact ⟨after, rfl, hkept.trans hpolicy, hresolve⟩

/-- A node that contradicts the id of its identity is refused. -/
theorem Follows.place_node_conflict {assembly : Assembly} {naming : Naming}
    (hfollows : Follows assembly naming) {node : StoreNode} {existing id : String}
    (hgiven : naming.nodeId? node.identity = some existing)
    (hcarried : node.carriedId? = some id) (hdiffers : id ≠ existing) :
    (assembly.place (.node node)).1 =
      .error (.identityConflict node.identity existing id) := by
  have hassign : assembly.nodes.assign node.identity node.carriedId? assembly.supply =
      .error (.identityConflict node.identity existing id) := by
    refine Identities.assign_eq_error_iff.mpr ⟨existing, id, ?_, ?_, hdiffers, rfl⟩
    · rw [hfollows.nodes, hgiven]
    · rw [Identities.carried_of_reuse hfollows.node_policy, hcarried]
  simp only [Assembly.place, Assembly.placeNode, hassign]
  rfl

/-- Every other node is placed and answered with the id that the naming gives it. -/
theorem Follows.placeNode {assembly : Assembly} {naming : Naming}
    (hfollows : Follows assembly naming) {node : StoreNode}
    (hagrees : Agrees (naming.nodeId? node.identity) node.carriedId?) :
    ∃ after, assembly.placeNode node = (.ok (naming.nameNode node).1, after) ∧
      Follows after (naming.give (.node node)) := by
  obtain ⟨nodes, hassign, hpolicy, hresolve⟩ := exists_assign_of_agrees hfollows.node_policy
    (hfollows.nodes node.identity) hagrees naming.supply
  refine ⟨{ assembly with
    nodes, supply := (naming.nameNode node).2
    graph := (assembly.graph.addNode (node.toNode (naming.nameNode node).1)).1 }, ?_, ?_⟩
  · simp only [Assembly.placeNode, hfollows.supply, hassign]
    rfl
  · refine ⟨hpolicy, hfollows.relationship_policy, rfl, ?_, hfollows.relationships, ?_⟩
    · intro identity
      rw [hresolve, Naming.nodeId?_give_node, hfollows.nodes, Naming.nameNode]
    · rw [Naming.graph?_give_node hfollows.graph, Naming.node_eq_toNode]

/-- Every other node is placed. -/
theorem Follows.place_node {assembly : Assembly} {naming : Naming}
    (hfollows : Follows assembly naming) {node : StoreNode}
    (hagrees : Agrees (naming.nodeId? node.identity) node.carriedId?) :
    ∃ after, assembly.place (.node node) = (.ok (), after) ∧
      Follows after (naming.give (.node node)) := by
  obtain ⟨after, hplaced, hafter⟩ := hfollows.placeNode hagrees
  refine ⟨after, ?_, hafter⟩
  simp only [Assembly.place, hplaced]
  rfl

/-- A relationship that contradicts the id of its identity is refused. -/
theorem Follows.place_relationship_conflict {assembly : Assembly} {naming : Naming}
    (hfollows : Follows assembly naming) {relationship : StoreRelationship} {existing id : String}
    (hgiven : naming.relationshipId? relationship.identity = some existing)
    (hcarried : relationship.carriedId? = some id) (hdiffers : id ≠ existing) :
    (assembly.place (.relationship relationship)).1 =
      .error (.identityConflict relationship.identity existing id) := by
  have hid : assembly.edgeId relationship =
      .error (.identityConflict relationship.identity existing id) := by
    refine edgeId_eq_error_iff.mpr
      (Identities.assign_eq_error_iff.mpr ⟨existing, id, ?_, ?_, hdiffers, rfl⟩)
    · rw [hfollows.relationships, hgiven]
    · rw [Identities.carried_of_reuse hfollows.relationship_policy, hcarried]
  simp only [Assembly.place, Assembly.placeRelationship, hid]
  rfl

/-- Every other relationship takes the id that the naming gives it. -/
theorem Follows.edgeId {assembly : Assembly} {naming : Naming}
    (hfollows : Follows assembly naming) {relationship : StoreRelationship}
    (hagrees : Agrees (naming.relationshipId? relationship.identity) relationship.carriedId?) :
    ∃ relationships,
      assembly.edgeId relationship = .ok ((naming.nameRelationship relationship).1,
        { assembly with relationships, supply := (naming.nameRelationship relationship).2 }) ∧
      relationships.policy = .reuse ∧
      ∀ identity, relationships.resolve identity =
        (naming.give (.relationship relationship)).relationshipId? identity := by
  obtain ⟨relationships, hassign, hpolicy, hresolve⟩ :=
    exists_assign_of_agrees hfollows.relationship_policy
      (hfollows.relationships relationship.identity) hagrees naming.supply
  rw [← hfollows.supply] at hassign
  refine ⟨relationships, ?_, hpolicy, ?_⟩
  · rw [Naming.nameRelationship, ← hfollows.supply]
    exact edgeId_eq_ok_iff.mpr ⟨relationships, _, hassign, rfl⟩
  · intro identity
    rw [hresolve, Naming.relationshipId?_give_relationship, hfollows.relationships,
      Naming.nameRelationship]

/-- A relationship whose start has not been named is refused. -/
theorem Follows.place_missing_start {assembly : Assembly} {naming : Naming}
    (hfollows : Follows assembly naming) {relationship : StoreRelationship}
    (hagrees : Agrees (naming.relationshipId? relationship.identity) relationship.carriedId?)
    (hmissing : naming.nodeId? relationship.start = none) :
    (assembly.place (.relationship relationship)).1 =
      .error (.danglingEndpoint (naming.nameRelationship relationship).1
        relationship.start.key) := by
  obtain ⟨relationships, hid, -, -⟩ := hfollows.edgeId hagrees
  have hstart : assembly.nodes.endpoint (naming.nameRelationship relationship).1
      relationship.start = .error _ :=
    Identities.endpoint_eq_error_iff.mpr ⟨(hfollows.nodes relationship.start).trans hmissing, rfl⟩
  simp only [Assembly.place, Assembly.placeRelationship, hid, hstart]
  rfl

/-- A relationship whose start has been named but not its end is refused. -/
theorem Follows.place_missing_finish {assembly : Assembly} {naming : Naming}
    (hfollows : Follows assembly naming) {relationship : StoreRelationship} {source : String}
    (hagrees : Agrees (naming.relationshipId? relationship.identity) relationship.carriedId?)
    (hsource : naming.nodeId? relationship.start = some source)
    (hmissing : naming.nodeId? relationship.finish = none) :
    (assembly.place (.relationship relationship)).1 =
      .error (.danglingEndpoint (naming.nameRelationship relationship).1
        relationship.finish.key) := by
  obtain ⟨relationships, hid, -, -⟩ := hfollows.edgeId hagrees
  have hstart : assembly.nodes.endpoint (naming.nameRelationship relationship).1
      relationship.start = .ok source :=
    Identities.endpoint_eq_ok_iff.mpr ((hfollows.nodes relationship.start).trans hsource)
  have hfinish : assembly.nodes.endpoint (naming.nameRelationship relationship).1
      relationship.finish = .error _ :=
    Identities.endpoint_eq_error_iff.mpr ⟨(hfollows.nodes relationship.finish).trans hmissing, rfl⟩
  simp only [Assembly.place, Assembly.placeRelationship, hid, hstart, hfinish]
  rfl

/-- A relationship between named ends is placed unless it contradicts its own id. -/
theorem Follows.place_relationship {assembly : Assembly} {naming : Naming}
    (hfollows : Follows assembly naming) {relationship : StoreRelationship}
    {source target : String}
    (hagrees : Agrees (naming.relationshipId? relationship.identity) relationship.carriedId?)
    (hsource : naming.nodeId? relationship.start = some source)
    (htarget : naming.nodeId? relationship.finish = some target) :
    ∃ after, assembly.place (.relationship relationship) = (.ok (), after) ∧
      Follows after (naming.give (.relationship relationship)) := by
  obtain ⟨relationships, hid, hpolicy, hresolve⟩ := hfollows.edgeId hagrees
  have hmem {identity : StoreId} {id : String} (h : naming.nodeId? identity = some id) :
      id ∈ assembly.graph.nodeIds :=
    (Naming.mem_nodeIds_of_graph? hfollows.graph).mpr (Naming.exists_mem_nodes_of_nodeId? h)
  obtain ⟨graph, added, hadd⟩ : ∃ graph added, assembly.graph.addEdge
      (relationship.toEdge (naming.nameRelationship relationship).1 source target) =
        .ok (graph, added) :=
    ⟨_, _, Graph.addEdge_eq_ok_iff.mpr ⟨hmem hsource, hmem htarget, rfl, rfl⟩⟩
  have hplaced := placeRelationship_of_resolved
    ((hfollows.nodes relationship.start).trans hsource)
    ((hfollows.nodes relationship.finish).trans htarget)
  refine ⟨{ assembly with
    relationships, graph, supply := (naming.nameRelationship relationship).2 }, ?_, ?_⟩
  · simp only [Assembly.place, hplaced, Assembly.placeBetween, hid, Assembly.addEdge, hadd]
    rfl
  · exact ⟨hfollows.node_policy, hpolicy, rfl, hfollows.nodes, hresolve,
      Naming.graph?_give_relationship hfollows.graph
        (Naming.edge?_eq_toEdge hsource htarget _) hadd⟩

/-- A bad occurrence is refused with the error that says why it is bad. -/
theorem Follows.place_of_bad {supply : IdSupply} {before : List Occurrence} {assembly : Assembly}
    (hfollows : Follows assembly (Naming.ofOccurrences supply before)) {occurrence : Occurrence}
    {error : Error} (hbad : occurrence.Bad supply before error) :
    (assembly.place occurrence.piece).1 = .error error := by
  cases hbad with
  | nodeConflict given carried differs =>
    exact hfollows.place_node_conflict given carried differs
  | relationshipConflict given carried differs =>
    exact hfollows.place_relationship_conflict given carried differs
  | danglingStart agrees missing =>
    exact hfollows.place_missing_start agrees (Naming.nodeId?_ofOccurrences_eq_none_iff.mpr missing)
  | @danglingFinish relationship agrees present missing =>
    obtain ⟨source, hsource⟩ : ∃ source,
        (Naming.ofOccurrences supply before).nodeId? relationship.start = some source := by
      obtain ⟨node, hnode, hidentity⟩ := present
      refine Option.ne_none_iff_exists'.mp fun hnone => ?_
      exact Naming.nodeId?_ofOccurrences_eq_none_iff.mp hnone node hnode hidentity
    exact hfollows.place_missing_finish agrees hsource
      (Naming.nodeId?_ofOccurrences_eq_none_iff.mpr missing)

/-- Every occurrence that is not bad is placed, and the naming goes on with it. -/
theorem Follows.place_of_not_bad {supply : IdSupply} {before : List Occurrence}
    {assembly : Assembly} (hfollows : Follows assembly (Naming.ofOccurrences supply before))
    {occurrence : Occurrence} (hgood : ∀ error, ¬occurrence.Bad supply before error) :
    ∃ after, assembly.place occurrence.piece = (.ok (), after) ∧
      Follows after (Naming.ofOccurrences supply (before ++ [occurrence])) := by
  rw [Naming.ofOccurrences_append_singleton]
  cases occurrence with
  | node node => exact hfollows.place_node (Occurrence.agrees_of_node_not_bad hgood)
  | relationship relationship =>
    have hagrees := Occurrence.agrees_of_relationship_not_bad hgood
    cases hsource : (Naming.ofOccurrences supply before).nodeId? relationship.start with
    | none =>
      exact absurd (.danglingStart hagrees (Naming.nodeId?_ofOccurrences_eq_none_iff.mp hsource))
        (hgood _)
    | some source =>
      cases htarget : (Naming.ofOccurrences supply before).nodeId? relationship.finish with
      | none =>
        refine absurd (.danglingFinish hagrees ?_
          (Naming.nodeId?_ofOccurrences_eq_none_iff.mp htarget)) (hgood _)
        by_contra hmissing
        rw [Naming.nodeId?_ofOccurrences_eq_none_iff.mpr fun node hnode heq =>
          hmissing ⟨node, hnode, heq⟩] at hsource
        cases hsource
      | some target => exact hfollows.place_relationship hagrees hsource htarget

end Assembly

end GraphGateway
