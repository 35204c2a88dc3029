import GraphGateway.Proofs.Assembly.Step
import GraphGateway.Proofs.Graph.Firsts
import GraphGateway.Proofs.Graph.Growth
import Mathlib.Data.List.Induction

/-!
# Naming the occurrences of an answer

The reference that an assembly is measured by. The pieces of an answer are flattened into
occurrences of nodes and relationships; every occurrence is given a stable id, and the graph is read
off the named occurrences: the first under each id, in order. No graph is grown here and nothing is
refused, so conflicts and missing ends play no part in who gets which id.
-/

namespace GraphGateway

/-- An element as it occurs in an answer. -/
inductive Occurrence where
  | node (node : StoreNode)
  | relationship (relationship : StoreRelationship)

/-- The piece made of one occurrence. -/
def Occurrence.piece : Occurrence → Piece
  | node n => .node n
  | relationship r => .relationship r

/-- The node that occurs, where it is a node. -/
def Occurrence.node? : Occurrence → Option StoreNode
  | node n => some n
  | relationship _ => none

/-- The relationship that occurs, where it is one. -/
def Occurrence.relationship? : Occurrence → Option StoreRelationship
  | node _ => none
  | relationship r => some r

theorem Occurrence.mem_filterMap_node? {occurrences : List Occurrence} {node : StoreNode} :
    node ∈ occurrences.filterMap Occurrence.node? ↔ .node node ∈ occurrences := by
  rw [List.mem_filterMap]
  constructor
  · rintro ⟨_ | _, hmem, heq⟩
    · cases heq
      exact hmem
    · cases heq
  · exact fun hmem => ⟨_, hmem, rfl⟩

theorem Occurrence.mem_filterMap_relationship? {occurrences : List Occurrence}
    {relationship : StoreRelationship} :
    relationship ∈ occurrences.filterMap Occurrence.relationship? ↔
      .relationship relationship ∈ occurrences := by
  rw [List.mem_filterMap]
  constructor
  · rintro ⟨_ | _, hmem, heq⟩
    · cases heq
    · cases heq
      exact hmem
  · exact fun hmem => ⟨_, hmem, rfl⟩

/-- The occurrences in a piece. A hop holds its start, its end and then its relationship. -/
def Piece.occurrences : Piece → List Occurrence
  | node n => [.node n]
  | relationship r => [.relationship r]
  | hop h => [.node h.start, .node h.finish, .relationship h.relationship]

/-- Occurrences with the stable ids given to them, in order, and the supply that is left. -/
structure Naming where
  supply : IdSupply
  nodes : List (StoreNode × String) := []
  relationships : List (StoreRelationship × String) := []

namespace Naming

/-- The stable id given to a node identity. -/
def nodeId? (naming : Naming) (identity : StoreId) : Option String :=
  (naming.nodes.map fun named => (named.1.identity, named.2)).lookup identity

/-- The stable id given to a relationship identity. -/
def relationshipId? (naming : Naming) (identity : StoreId) : Option String :=
  (naming.relationships.map fun named => (named.1.identity, named.2)).lookup identity

/-- The stable id given to a node identity, empty where none is. -/
def nodeId (naming : Naming) (identity : StoreId) : String := (naming.nodeId? identity).getD ""

/-- The stable id given to a relationship identity, empty where none is. -/
def relationshipId (naming : Naming) (identity : StoreId) : String :=
  (naming.relationshipId? identity).getD ""

/-- The stable id of a further node, and the supply after it. -/
def nameNode (naming : Naming) (node : StoreNode) : String × IdSupply :=
  naming.supply.choose (naming.nodeId? node.identity) node.carriedId?

/-- The stable id of a further relationship, and the supply after it. -/
def nameRelationship (naming : Naming) (relationship : StoreRelationship) : String × IdSupply :=
  naming.supply.choose (naming.relationshipId? relationship.identity) relationship.carriedId?

/-- The naming with a further occurrence. Nodes and relationships have identity spaces of their own
and share the supply. -/
def give (naming : Naming) : Occurrence → Naming
  | .node node =>
    { naming with
      supply := (naming.nameNode node).2
      nodes := naming.nodes ++ [(node, (naming.nameNode node).1)] }
  | .relationship relationship =>
    { naming with
      supply := (naming.nameRelationship relationship).2
      relationships :=
        naming.relationships ++ [(relationship, (naming.nameRelationship relationship).1)] }

/-- The naming of occurrences, from the first to the last. -/
def ofOccurrences (supply : IdSupply) (occurrences : List Occurrence) : Naming :=
  occurrences.foldl give { supply }

/-- The graph node of a named node: labels without repetition, properties but `id` and `labels`. -/
def node (named : StoreNode × String) : Node where
  id := named.2
  labels := named.1.labels.eraseDups
  properties := named.1.properties.filterKeys fun key => key != "id" && key != "labels"

/-- The graph edge of a named relationship, if both its ends have ids. It goes between these ids
whatever hop it occurred in, and its label is its type unless that is blank. -/
def edge? (naming : Naming) (named : StoreRelationship × String) : Option Edge := do
  let source ← naming.nodeId? named.1.start
  let target ← naming.nodeId? named.1.finish
  return {
    id := named.2
    source := source
    target := target
    label? := named.1.type?.bind fun type => if Text.isBlankText type then none else some type
    properties := named.1.properties.filterKeys fun key => key != "id" && key != "labels" }

/-- The graph of a naming, if all ends have ids: the first element under each id, in order. -/
def graph? (naming : Naming) : Option Graph := do
  let edges ← naming.relationships.mapM naming.edge?
  return { nodes := firstsBy (·.id) (naming.nodes.map node), edges := firstsBy (·.id) edges }

/-- The occurrences are named one after the other. -/
theorem ofOccurrences_append_singleton (supply : IdSupply) (occurrences : List Occurrence)
    (occurrence : Occurrence) :
    ofOccurrences supply (occurrences ++ [occurrence]) =
      (ofOccurrences supply occurrences).give occurrence := by
  rw [ofOccurrences, List.foldl_append, List.foldl_cons, List.foldl_nil, ofOccurrences]

/-- The nodes that occur are named, in order. -/
theorem map_fst_nodes_ofOccurrences (supply : IdSupply) (occurrences : List Occurrence) :
    (ofOccurrences supply occurrences).nodes.map (·.1) =
      occurrences.filterMap Occurrence.node? := by
  induction occurrences using List.reverseRecOn with
  | nil => rfl
  | append_singleton occurrences occurrence ih =>
    rw [ofOccurrences_append_singleton, List.filterMap_append, ← ih]
    cases occurrence <;> simp [give, Occurrence.node?]

/-- The relationships that occur are named, in order. -/
theorem map_fst_relationships_ofOccurrences (supply : IdSupply) (occurrences : List Occurrence) :
    (ofOccurrences supply occurrences).relationships.map (·.1) =
      occurrences.filterMap Occurrence.relationship? := by
  induction occurrences using List.reverseRecOn with
  | nil => rfl
  | append_singleton occurrences occurrence ih =>
    rw [ofOccurrences_append_singleton, List.filterMap_append, ← ih]
    cases occurrence <;> simp [give, Occurrence.relationship?]

/-- Every node that occurs is named. -/
theorem mem_nodes_ofOccurrences (supply : IdSupply) {occurrences : List Occurrence}
    {node : StoreNode} :
    (∃ id, (node, id) ∈ (ofOccurrences supply occurrences).nodes) ↔ .node node ∈ occurrences := by
  have hmap := map_fst_nodes_ofOccurrences supply occurrences
  rw [← Occurrence.mem_filterMap_node?, ← hmap]
  simp

/-- Every relationship that occurs is named. -/
theorem mem_relationships_ofOccurrences (supply : IdSupply) {occurrences : List Occurrence}
    {relationship : StoreRelationship} :
    (∃ id, (relationship, id) ∈ (ofOccurrences supply occurrences).relationships) ↔
      .relationship relationship ∈ occurrences := by
  have hmap := map_fst_relationships_ofOccurrences supply occurrences
  rw [← Occurrence.mem_filterMap_relationship?, ← hmap]
  simp

/-- An identity has an id in a list of named occurrences just when one of them has the identity. -/
theorem lookup_named_eq_none_iff {α : Type} {identityOf : α → StoreId}
    {named : List (α × String)} {identity : StoreId} :
    (named.map fun entry => (identityOf entry.1, entry.2)).lookup identity = none ↔
      ∀ value id, (value, id) ∈ named → identityOf value ≠ identity := by
  simp only [List.lookup_eq_none_iff, List.mem_map, bne_iff_ne, forall_exists_index, and_imp]
  constructor
  · intro h value id hmem heq
    exact h _ _ hmem rfl heq.symm
  · rintro h _ ⟨value, id⟩ hmem rfl heq
    exact h value id hmem heq.symm

/-- The id that an identity has in a list of named occurrences was given to one with the
identity. -/
theorem exists_named_of_lookup {α : Type} {identityOf : α → StoreId}
    {named : List (α × String)} {identity : StoreId} {id : String}
    (h : (named.map fun entry => (identityOf entry.1, entry.2)).lookup identity = some id) :
    ∃ value, (value, id) ∈ named ∧ identityOf value = identity := by
  obtain ⟨earlier, later, hsplit, -⟩ := List.lookup_eq_some_iff.mp h
  have hmem : (identity, id) ∈ named.map fun entry => (identityOf entry.1, entry.2) := by
    rw [hsplit]
    exact List.mem_append_right _ List.mem_cons_self
  obtain ⟨⟨value, given⟩, hvalue, heq⟩ := List.mem_map.mp hmem
  cases heq
  exact ⟨value, hvalue, rfl⟩

/-- A node identity has no id just when no node with it has occurred. -/
theorem nodeId?_ofOccurrences_eq_none_iff {supply : IdSupply} {occurrences : List Occurrence}
    {identity : StoreId} :
    (ofOccurrences supply occurrences).nodeId? identity = none ↔
      ∀ node, .node node ∈ occurrences → node.identity ≠ identity := by
  rw [nodeId?, lookup_named_eq_none_iff]
  simp only [← mem_nodes_ofOccurrences supply, forall_exists_index]

/-- The id of a node identity was given to a node. -/
theorem exists_mem_nodes_of_nodeId? {naming : Naming} {identity : StoreId} {id : String}
    (h : naming.nodeId? identity = some id) : ∃ node, (node, id) ∈ naming.nodes := by
  obtain ⟨node, hnode, -⟩ := exists_named_of_lookup h
  exact ⟨node, hnode⟩

/-- A further named occurrence gives its identity an id and changes no other. -/
private theorem lookup_append_named {α : Type} {identityOf : α → StoreId}
    {named : List (α × String)} {value : α} {id : String} {other : StoreId}
    (hkept : ∀ existing, (named.map fun entry => (identityOf entry.1, entry.2)).lookup
      (identityOf value) = some existing → existing = id) :
    ((named ++ [(value, id)]).map fun entry => (identityOf entry.1, entry.2)).lookup other =
      if other = identityOf value then some id
      else (named.map fun entry => (identityOf entry.1, entry.2)).lookup other := by
  rw [List.map_append, List.lookup_append, List.map_singleton]
  by_cases heq : other = identityOf value
  · subst heq
    cases hknown : (named.map fun entry => (identityOf entry.1, entry.2)).lookup
        (identityOf value) with
    | none => simp
    | some existing => simp [hkept existing hknown]
  · have hbeq : (other == identityOf value) = false := beq_false_of_ne heq
    simp [List.lookup_cons, hbeq, heq]

/-- The id of a node after a further node. -/
theorem nodeId?_give_node (naming : Naming) (node : StoreNode) (other : StoreId) :
    (naming.give (.node node)).nodeId? other =
      if other = node.identity then some (naming.nameNode node).1 else naming.nodeId? other := by
  refine lookup_append_named fun existing hknown => ?_
  rw [nameNode, nodeId?, hknown]
  rfl

/-- The id of a relationship after a further relationship. -/
theorem relationshipId?_give_relationship (naming : Naming) (relationship : StoreRelationship)
    (other : StoreId) :
    (naming.give (.relationship relationship)).relationshipId? other =
      if other = relationship.identity then some (naming.nameRelationship relationship).1
      else naming.relationshipId? other := by
  refine lookup_append_named fun existing hknown => ?_
  rw [nameRelationship, relationshipId?, hknown]
  rfl

/-- An id once given to a node identity stays. -/
theorem nodeId?_give_of_some {naming : Naming} {identity : StoreId} {id : String}
    (h : naming.nodeId? identity = some id) (node : StoreNode) :
    (naming.give (.node node)).nodeId? identity = some id := by
  rw [nodeId?_give_node]
  split
  next heq =>
    rw [nameNode, ← heq, h]
    rfl
  · exact h

/-- An id once given to a relationship identity stays. -/
theorem relationshipId?_give_of_some {naming : Naming} {identity : StoreId} {id : String}
    (h : naming.relationshipId? identity = some id) (relationship : StoreRelationship) :
    (naming.give (.relationship relationship)).relationshipId? identity = some id := by
  rw [relationshipId?_give_relationship]
  split
  next heq =>
    rw [nameRelationship, ← heq, h]
    rfl
  · exact h

/-- The id of a named node is that of its identity. -/
theorem nodeId?_of_mem_nodes {supply : IdSupply} {occurrences : List Occurrence}
    {node : StoreNode} {id : String} (h : (node, id) ∈ (ofOccurrences supply occurrences).nodes) :
    (ofOccurrences supply occurrences).nodeId? node.identity = some id := by
  induction occurrences using List.reverseRecOn with
  | nil => cases h
  | append_singleton occurrences occurrence ih =>
    rw [ofOccurrences_append_singleton] at h ⊢
    cases occurrence with
    | node other =>
      rcases List.mem_append.mp h with hold | hnew
      · exact nodeId?_give_of_some (ih hold) other
      · obtain ⟨rfl, rfl⟩ := Prod.mk.inj (List.mem_singleton.mp hnew)
        rw [nodeId?_give_node, if_pos rfl]
    | relationship relationship => exact ih h

/-- The id of a named relationship is that of its identity. -/
theorem relationshipId?_of_mem_relationships {supply : IdSupply} {occurrences : List Occurrence}
    {relationship : StoreRelationship} {id : String}
    (h : (relationship, id) ∈ (ofOccurrences supply occurrences).relationships) :
    (ofOccurrences supply occurrences).relationshipId? relationship.identity = some id := by
  induction occurrences using List.reverseRecOn with
  | nil => cases h
  | append_singleton occurrences occurrence ih =>
    rw [ofOccurrences_append_singleton] at h ⊢
    cases occurrence with
    | node node => exact ih h
    | relationship other =>
      rcases List.mem_append.mp h with hold | hnew
      · exact relationshipId?_give_of_some (ih hold) other
      · obtain ⟨rfl, rfl⟩ := Prod.mk.inj (List.mem_singleton.mp hnew)
        rw [relationshipId?_give_relationship, if_pos rfl]

/-- The named nodes are the nodes that occur, each with the id of its identity. -/
theorem nodes_ofOccurrences (supply : IdSupply) (occurrences : List Occurrence) :
    (ofOccurrences supply occurrences).nodes =
      (occurrences.filterMap Occurrence.node?).map fun node =>
        (node, (ofOccurrences supply occurrences).nodeId node.identity) := by
  rw [← map_fst_nodes_ofOccurrences supply, List.map_map]
  refine (List.map_id _).symm.trans (List.map_congr_left ?_)
  rintro ⟨node, id⟩ hmem
  simp [nodeId, nodeId?_of_mem_nodes hmem]

/-- The named relationships are those that occur, each with the id of its identity. -/
theorem relationships_ofOccurrences (supply : IdSupply) (occurrences : List Occurrence) :
    (ofOccurrences supply occurrences).relationships =
      (occurrences.filterMap Occurrence.relationship?).map fun relationship =>
        (relationship, (ofOccurrences supply occurrences).relationshipId
          relationship.identity) := by
  rw [← map_fst_relationships_ofOccurrences supply, List.map_map]
  refine (List.map_id _).symm.trans (List.map_congr_left ?_)
  rintro ⟨relationship, id⟩ hmem
  simp [relationshipId, relationshipId?_of_mem_relationships hmem]

/-- An edge read off some named occurrences is read off more of them. -/
theorem edge?_give_of_some {naming : Naming} {named : StoreRelationship × String} {edge : Edge}
    (h : naming.edge? named = some edge) (node : StoreNode) :
    (naming.give (.node node)).edge? named = some edge := by
  obtain ⟨source, hsource, h⟩ := Option.bind_eq_some_iff.mp h
  obtain ⟨target, htarget, h⟩ := Option.bind_eq_some_iff.mp h
  simp only [edge?, nodeId?_give_of_some hsource, nodeId?_give_of_some htarget]
  exact h

/-- Dropping the reserved keys keeps every key but `id` and `labels`. -/
theorem withoutReserved_eq (properties : Properties) :
    properties.withoutReserved =
      properties.filterKeys fun key => key != "id" && key != "labels" := by
  rw [Properties.withoutReserved]
  congr 1
  funext key
  simp only [reservedKeys, List.contains_cons, List.contains_nil, Bool.or_false, Bool.not_or, bne]

/-- The node of a naming is the node that an assembly decodes. -/
theorem node_eq_toNode (storeNode : StoreNode) (id : String) :
    node (storeNode, id) = storeNode.toNode id := by
  rw [node, StoreNode.toNode, Node.ofLabels, withoutReserved_eq]

/-- The edge of a naming is the edge that an assembly decodes between the ids of its ends. -/
theorem edge?_eq_toEdge {naming : Naming} {relationship : StoreRelationship}
    {source target : String} (hsource : naming.nodeId? relationship.start = some source)
    (htarget : naming.nodeId? relationship.finish = some target) (id : String) :
    naming.edge? (relationship, id) = some (relationship.toEdge id source target) := by
  have hlabel : relationship.label? =
      relationship.type?.bind fun type => if Text.isBlankText type then none else some type := by
    rw [StoreRelationship.label?]
    cases relationship.type? with
    | none => rfl
    | some type => cases hblank : Text.isBlankText type <;> simp [Option.filter, hblank]
  simp only [edge?, hsource, htarget, StoreRelationship.toEdge, hlabel, withoutReserved_eq]
  rfl

/-- A list that one reading takes whole is taken alike by every reading that agrees with it. -/
private theorem mapM_eq_some_of_imp {α β : Type} {read reread : α → Option β} {values : List α}
    {results : List β} (h : values.mapM read = some results)
    (himp : ∀ value result, read value = some result → reread value = some result) :
    values.mapM reread = some results := by
  induction values generalizing results with
  | nil => simpa using h
  | cons value rest ih =>
    simp only [List.mapM_cons, Option.bind_eq_bind, Option.bind_eq_some_iff] at h ⊢
    obtain ⟨result, hresult, others, hothers, hall⟩ := h
    exact ⟨result, himp value result hresult, others, ih hothers, hall⟩

/-- What is read off a list is read off one of its values. -/
theorem mem_of_mapM_eq_some {α β : Type} {read : α → Option β} {values : List α}
    {results : List β} (h : values.mapM read = some results) {result : β} :
    result ∈ results ↔ ∃ value ∈ values, read value = some result := by
  induction values generalizing results with
  | nil =>
    obtain rfl : [] = results := by simpa using h
    simp
  | cons value rest ih =>
    simp only [List.mapM_cons, Option.bind_eq_bind, Option.bind_eq_some_iff] at h
    obtain ⟨first, hfirst, others, hothers, hall⟩ := h
    cases hall
    simp [ih hothers, hfirst, eq_comm]

/-- A graph is read off a naming once all its edges are. -/
theorem graph?_eq_some_iff {naming : Naming} {graph : Graph} :
    naming.graph? = some graph ↔
      ∃ edges, naming.relationships.mapM naming.edge? = some edges ∧
        graph =
          { nodes := firstsBy (·.id) (naming.nodes.map node), edges := firstsBy (·.id) edges } := by
  rw [graph?, Option.bind_eq_bind, Option.bind_eq_some_iff]
  simp [eq_comm]

/-- The ids of the nodes of a graph are those given to nodes. -/
theorem mem_nodeIds_of_graph? {naming : Naming} {graph : Graph} (h : naming.graph? = some graph)
    {id : String} : id ∈ graph.nodeIds ↔ ∃ node, (node, id) ∈ naming.nodes := by
  obtain ⟨edges, -, rfl⟩ := graph?_eq_some_iff.mp h
  rw [Graph.nodeIds, mem_map_firstsBy]
  simp [node]

/-- An edge has the id given to its relationship. -/
theorem id_of_edge? {naming : Naming} {named : StoreRelationship × String} {edge : Edge}
    (h : naming.edge? named = some edge) : edge.id = named.2 := by
  obtain ⟨source, -, h⟩ := Option.bind_eq_some_iff.mp h
  obtain ⟨target, -, h⟩ := Option.bind_eq_some_iff.mp h
  cases h
  rfl

/-- The edges of named relationships have the ids given to these, in order. -/
private theorem map_id_of_mapM_edge? {naming : Naming}
    {named : List (StoreRelationship × String)} {edges : List Edge}
    (h : named.mapM naming.edge? = some edges) : edges.map (·.id) = named.map (·.2) := by
  induction named generalizing edges with
  | nil =>
    simp only [List.mapM_nil, Option.pure_def, Option.some.injEq] at h
    rw [← h]
    rfl
  | cons first rest ih =>
    simp only [List.mapM_cons, Option.bind_eq_bind, Option.bind_eq_some_iff] at h
    obtain ⟨edge, hedge, others, hothers, hall⟩ := h
    cases hall
    rw [List.map_cons, List.map_cons, ih hothers, id_of_edge? hedge]

/-- The ids of the edges of a graph are those given to relationships. -/
theorem mem_edgeIds_of_graph? {naming : Naming} {graph : Graph} (h : naming.graph? = some graph)
    {id : String} :
    id ∈ graph.edgeIds ↔ ∃ relationship, (relationship, id) ∈ naming.relationships := by
  obtain ⟨edges, hedges, rfl⟩ := graph?_eq_some_iff.mp h
  rw [Graph.edgeIds, mem_map_firstsBy, map_id_of_mapM_edge? hedges]
  simp

/-- No two elements of a graph read off a naming share their id. -/
theorem nodup_of_graph? {naming : Naming} {graph : Graph} (h : naming.graph? = some graph) :
    graph.nodeIds.Nodup ∧ graph.edgeIds.Nodup := by
  obtain ⟨edges, -, rfl⟩ := graph?_eq_some_iff.mp h
  exact ⟨nodup_map_firstsBy _ _, nodup_map_firstsBy _ _⟩

/-- A further node is added to the graph. -/
theorem graph?_give_node {naming : Naming} {graph : Graph} (h : naming.graph? = some graph)
    (node : StoreNode) :
    (naming.give (.node node)).graph? =
      some (graph.addNode (Naming.node (node, (naming.nameNode node).1))).1 := by
  obtain ⟨edges, hedges, rfl⟩ := graph?_eq_some_iff.mp h
  refine graph?_eq_some_iff.mpr ⟨edges, ?_, ?_⟩
  · exact mapM_eq_some_of_imp hedges fun named edge hedge => edge?_give_of_some hedge node
  · simp only [give, List.map_append, List.map_singleton, firstsBy_append_singleton]
    simp only [Graph.addNode, Graph.hasNode_iff, Graph.nodeIds, mem_map_firstsBy]
    split <;> rfl

/-- The edge of a further relationship is added to the graph. -/
theorem graph?_give_relationship {naming : Naming} {graph after : Graph}
    (h : naming.graph? = some graph) {relationship : StoreRelationship} {edge : Edge} {added : Bool}
    (hedge : naming.edge? (relationship, (naming.nameRelationship relationship).1) = some edge)
    (hadd : graph.addEdge edge = .ok (after, added)) :
    (naming.give (.relationship relationship)).graph? = some after := by
  obtain ⟨edges, hedges, rfl⟩ := graph?_eq_some_iff.mp h
  obtain ⟨-, -, rfl, -⟩ := Graph.addEdge_eq_ok_iff.mp hadd
  refine graph?_eq_some_iff.mpr ⟨edges ++ [edge], ?_, ?_⟩
  · change (naming.relationships ++ [_]).mapM naming.edge? = _
    rw [List.mapM_append, hedges, List.mapM_cons, hedge]
    rfl
  · simp only [firstsBy_append_singleton, Graph.edgeIds, mem_map_firstsBy]
    split <;> rfl

/-- A list whose values can all be read one by one is read as a whole. -/
private theorem eq_map_of_mapM_eq_some {α β : Type} {read : α → Option β} {result : α → β}
    {values : List α} {results : List β} (h : values.mapM read = some results)
    (hread : ∀ value other, read value = some other → other = result value) :
    results = values.map result := by
  induction values generalizing results with
  | nil => simpa [eq_comm] using h
  | cons value rest ih =>
    simp only [List.mapM_cons, Option.bind_eq_bind, Option.bind_eq_some_iff] at h
    obtain ⟨first, hfirst, others, hothers, hall⟩ := h
    cases hall
    rw [List.map_cons, hread value first hfirst, ih hothers]

/-- An edge read off a naming is the edge decoded between the ids of its ends. -/
theorem eq_toEdge_of_edge? {naming : Naming} {named : StoreRelationship × String} {edge : Edge}
    (h : naming.edge? named = some edge) :
    edge = named.1.toEdge named.2 (naming.nodeId named.1.start) (naming.nodeId named.1.finish) := by
  obtain ⟨source, hsource, hrest⟩ := Option.bind_eq_some_iff.mp h
  obtain ⟨target, htarget, -⟩ := Option.bind_eq_some_iff.mp hrest
  rw [edge?_eq_toEdge hsource htarget named.2, Option.some.injEq] at h
  rw [nodeId, nodeId, hsource, htarget]
  exact h.symm

/-- A graph holds the first elements decoded under the ids of their identities. -/
theorem eq_firstsBy_of_graph? {supply : IdSupply} {occurrences : List Occurrence} {graph : Graph}
    (h : (ofOccurrences supply occurrences).graph? = some graph) :
    let naming := ofOccurrences supply occurrences
    graph.nodes = firstsBy (·.id) ((occurrences.filterMap Occurrence.node?).map fun node =>
        node.toNode (naming.nodeId node.identity)) ∧
      graph.edges = firstsBy (·.id) ((occurrences.filterMap Occurrence.relationship?).map
        fun relationship => relationship.toEdge (naming.relationshipId relationship.identity)
          (naming.nodeId relationship.start) (naming.nodeId relationship.finish)) := by
  intro naming
  obtain ⟨edges, hedges, rfl⟩ := graph?_eq_some_iff.mp h
  have hread := eq_map_of_mapM_eq_some hedges fun _ _ => eq_toEdge_of_edge?
  rw [nodes_ofOccurrences, hread, relationships_ofOccurrences, List.map_map, List.map_map]
  refine ⟨?_, rfl⟩
  simp only [Function.comp_def, node_eq_toNode, naming]

end Naming

end GraphGateway
