import GraphGateway.Proofs.Assembly.Supply
import GraphGateway.Proofs.Graph.Growth
import GraphGateway.Schema
import Mathlib.Data.List.Nodup

/-!
# The graph of a schema, as a drawing

A schema is drawn by numbering. The distinct identities of its nodes are numbered in the order of
their first occurrence and take the first ids of the supply in that order; the relationships take
the ids that follow, each one its own. Ids that the elements carry play no part.
-/

namespace GraphGateway

/-- An identity is told by its key. -/
theorem StoreId.key_injective : Function.Injective StoreId.key := by
  rintro ⟨_⟩ ⟨_⟩ h
  exact congrArg StoreId.mk h

namespace Schema

/-- One of the nodes has the identity. -/
def Lists (schema : Schema) (identity : StoreId) : Prop :=
  ∃ node ∈ schema.nodes, node.identity = identity

instance (schema : Schema) (identity : StoreId) : Decidable (schema.Lists identity) :=
  inferInstanceAs (Decidable (∃ node ∈ schema.nodes, node.identity = identity))

/-- Both ends of a relationship are identities of nodes. -/
def Joins (schema : Schema) (relationship : StoreRelationship) : Prop :=
  schema.Lists relationship.start ∧ schema.Lists relationship.finish

instance (schema : Schema) (relationship : StoreRelationship) :
    Decidable (schema.Joins relationship) :=
  inferInstanceAs (Decidable (_ ∧ _))

/-- An identity is the first end of a relationship that no node has; the start comes before the
finish. -/
def Misses (schema : Schema) (relationship : StoreRelationship) (identity : StoreId) : Prop :=
  (¬schema.Lists relationship.start ∧ identity = relationship.start) ∨
    (schema.Lists relationship.start ∧ ¬schema.Lists relationship.finish ∧
      identity = relationship.finish)

instance (schema : Schema) (relationship : StoreRelationship) (identity : StoreId) :
    Decidable (schema.Misses relationship identity) :=
  inferInstanceAs (Decidable (_ ∨ _))

/-- The first node of each identity, in order. -/
def distinctNodes (schema : Schema) : List StoreNode := firstsBy (·.identity.key) schema.nodes

/-- The distinct identities of the nodes, in the order of their first occurrence. -/
def identities (schema : Schema) : List StoreId := schema.distinctNodes.map (·.identity)

/-- The id of an identity: as many places behind the first id of the supply as the identity is
behind the first of the distinct ones. -/
def nodeId (schema : Schema) (supply : IdSupply) (identity : StoreId) : String :=
  supply.id (supply.used + schema.identities.idxOf identity)

/-- The id of an identity, if it is listed. -/
def nodeId? (schema : Schema) (supply : IdSupply) (identity : StoreId) : Option String :=
  if identity ∈ schema.identities then some (schema.nodeId supply identity) else none

/-- The supply after all nodes and relationships have got their ids. -/
def supplyAfter (schema : Schema) (supply : IdSupply) : IdSupply :=
  { supply with
    used := supply.used + schema.distinctNodes.length + schema.relationships.length }

/-- The id after those of all nodes and relationships. -/
def nextId (schema : Schema) (supply : IdSupply) : String :=
  supply.id (supply.used + schema.distinctNodes.length + schema.relationships.length)

/-- The graph of a schema: a node for every distinct identity and an edge for every relationship,
which stands under the next id behind those of the nodes. -/
def drawn (schema : Schema) (supply : IdSupply) : Graph where
  nodes := schema.distinctNodes.mapIdx fun n node => node.toNode (supply.id (supply.used + n))
  edges := schema.relationships.mapIdx fun n relationship =>
    relationship.toEdge (supply.id (supply.used + schema.distinctNodes.length + n))
      (schema.nodeId supply relationship.start) (schema.nodeId supply relationship.finish)

/-- The schema with one more node. -/
def withNode (schema : Schema) (node : StoreNode) : Schema :=
  { schema with nodes := schema.nodes ++ [node] }

/-- The schema with one more relationship. -/
def withRelationship (schema : Schema) (relationship : StoreRelationship) : Schema :=
  { schema with relationships := schema.relationships ++ [relationship] }

variable {schema : Schema} {supply : IdSupply}

/-!
## Identities
-/

/-- The identities are those of the nodes. -/
theorem mem_identities {identity : StoreId} :
    identity ∈ schema.identities ↔ schema.Lists identity := by
  rw [← List.mem_map_of_injective StoreId.key_injective, identities, distinctNodes, List.map_map]
  have hfirsts : identity.key ∈ (firstsBy (fun node : StoreNode => node.identity.key)
      schema.nodes).map (·.identity.key) ↔ identity.key ∈ schema.nodes.map (·.identity.key) :=
    mem_map_firstsBy
  refine hfirsts.trans ?_
  simp only [List.mem_map, Lists, StoreId.key_injective.eq_iff]

/-- No identity is listed twice. -/
theorem nodup_identities (schema : Schema) : schema.identities.Nodup := by
  refine List.Nodup.of_map StoreId.key ?_
  rw [identities, List.map_map]
  exact nodup_map_firstsBy (fun node : StoreNode => node.identity.key) schema.nodes

theorem length_identities (schema : Schema) :
    schema.identities.length = schema.distinctNodes.length := by
  rw [identities, List.length_map]

/-- The distinct identities come one by one to the nodes. -/
theorem distinctNodes_withNode (schema : Schema) (node : StoreNode) :
    (schema.withNode node).distinctNodes =
      if node.identity ∈ schema.identities then schema.distinctNodes
      else schema.distinctNodes ++ [node] := by
  have hknown : node.identity.key ∈ schema.nodes.map (·.identity.key) ↔
      node.identity ∈ schema.identities := by
    simp only [mem_identities, Lists, List.mem_map, StoreId.key_injective.eq_iff]
  rw [distinctNodes, withNode, firstsBy_append_singleton]
  simp only [hknown, distinctNodes]

@[simp] theorem relationships_withNode (schema : Schema) (node : StoreNode) :
    (schema.withNode node).relationships = schema.relationships := rfl

theorem identities_withNode (schema : Schema) (node : StoreNode) :
    (schema.withNode node).identities =
      if node.identity ∈ schema.identities then schema.identities
      else schema.identities ++ [node.identity] := by
  rw [identities, distinctNodes_withNode]
  split
  · rfl
  · rw [List.map_append, List.map_singleton, identities]

/-- A schema joins the ends of a relationship or misses one of them. -/
theorem joins_or_misses (schema : Schema) (relationship : StoreRelationship) :
    schema.Joins relationship ∨ ∃ identity, schema.Misses relationship identity := by
  by_cases hstart : schema.Lists relationship.start
  · by_cases hfinish : schema.Lists relationship.finish
    · exact Or.inl ⟨hstart, hfinish⟩
    · exact Or.inr ⟨_, Or.inr ⟨hstart, hfinish, rfl⟩⟩
  · exact Or.inr ⟨_, Or.inl ⟨hstart, rfl⟩⟩

/-!
## The ids of a drawing
-/

/-- The nodes stand under the first ids of the supply. -/
theorem nodeIds_drawn (schema : Schema) (supply : IdSupply) :
    (schema.drawn supply).nodeIds =
      (List.range schema.distinctNodes.length).map fun n => supply.id (supply.used + n) := by
  refine List.ext_getElem (by simp [Graph.nodeIds, drawn]) fun n _ _ => ?_
  simp [Graph.nodeIds, drawn, StoreNode.toNode, Node.ofLabels]

/-- The edges stand under the ids that follow. -/
theorem edgeIds_drawn (schema : Schema) (supply : IdSupply) :
    (schema.drawn supply).edgeIds =
      (List.range schema.relationships.length).map fun n =>
        supply.id (supply.used + schema.distinctNodes.length + n) := by
  refine List.ext_getElem (by simp [Graph.edgeIds, drawn]) fun n _ _ => ?_
  simp [Graph.edgeIds, drawn, StoreRelationship.toEdge]

/-- Numbered ids of a supply with distinct ids are distinct. -/
private theorem nodup_map_range (hdistinct : supply.Distinct) {first : Nat}
    (hfirst : supply.used ≤ first) (count : Nat) :
    ((List.range count).map fun n => supply.id (first + n)).Nodup := by
  refine List.Nodup.map_on (fun m _ n _ heq => ?_) List.nodup_range
  exact Nat.add_left_cancel
    (hdistinct (hfirst.trans (Nat.le_add_right _ _)) (hfirst.trans (Nat.le_add_right _ _)) heq)

theorem nodup_edgeIds_drawn (hdistinct : supply.Distinct) (schema : Schema) :
    (schema.drawn supply).edgeIds.Nodup := by
  rw [edgeIds_drawn]
  exact nodup_map_range hdistinct (Nat.le_add_right _ _) _

/-- The next id of a supply is not among those before it. -/
private theorem id_notMem_map_range (hdistinct : supply.Distinct) {first : Nat}
    (hfirst : supply.used ≤ first) (count : Nat) :
    supply.id (first + count) ∉ (List.range count).map fun n => supply.id (first + n) := by
  have hnodup := nodup_map_range hdistinct hfirst (count + 1)
  rw [List.range_succ, List.map_append, List.nodup_append] at hnodup
  intro hmem
  exact hnodup.2.2 _ hmem _ (by simp) rfl

/-- The id behind those of the nodes is not that of a node. -/
theorem id_notMem_nodeIds_drawn (hdistinct : supply.Distinct) (schema : Schema) :
    supply.id (supply.used + schema.distinctNodes.length) ∉ (schema.drawn supply).nodeIds := by
  rw [nodeIds_drawn]
  exact id_notMem_map_range hdistinct le_rfl _

/-- The id behind those of the edges is not that of an edge. -/
theorem nextId_notMem_edgeIds_drawn (hdistinct : supply.Distinct) (schema : Schema) :
    schema.nextId supply ∉ (schema.drawn supply).edgeIds := by
  rw [edgeIds_drawn]
  exact id_notMem_map_range hdistinct (Nat.le_add_right _ _) _

/-- The id of a listed identity is that of a node. -/
theorem nodeId_mem_nodeIds {identity : StoreId} (hlisted : identity ∈ schema.identities) :
    schema.nodeId supply identity ∈ (schema.drawn supply).nodeIds := by
  rw [nodeIds_drawn, ← length_identities]
  exact List.mem_map.mpr
    ⟨_, List.mem_range.mpr (List.idxOf_lt_length_of_mem hlisted), rfl⟩

/-- The identities of the nodes of a schema and the nodes of its graph stand for each other. -/
theorem bijOn_nodeId (hdistinct : supply.Distinct) (schema : Schema) :
    Set.BijOn (schema.nodeId supply) {identity | schema.Lists identity}
      {id | id ∈ (schema.drawn supply).nodeIds} := by
  refine Set.BijOn.mk ?_ ?_ ?_
  · intro identity hlisted
    exact nodeId_mem_nodeIds (mem_identities.mpr hlisted)
  · intro a ha b _ heq
    have hindex := Nat.add_left_cancel
      (hdistinct (Nat.le_add_right _ _) (Nat.le_add_right _ _) heq)
    exact (List.idxOf_inj (mem_identities.mpr ha)).mp hindex
  · intro id hid
    have hid : id ∈ (schema.drawn supply).nodeIds := hid
    rw [nodeIds_drawn, ← length_identities] at hid
    obtain ⟨n, hn, rfl⟩ := List.mem_map.mp hid
    have hn := List.mem_range.mp hn
    refine ⟨schema.identities[n], mem_identities.mp (List.getElem_mem hn), ?_⟩
    rw [nodeId, schema.nodup_identities.idxOf_getElem n hn]

/-!
## Drawing on
-/

/-- With a further node of a known identity the schema is drawn as before. -/
theorem drawn_withNode_of_mem {node : StoreNode} (hknown : node.identity ∈ schema.identities) :
    (schema.withNode node).drawn supply = schema.drawn supply := by
  have hnodes := distinctNodes_withNode schema node
  rw [if_pos hknown] at hnodes
  simp only [drawn, nodeId, identities, hnodes, relationships_withNode]

/-- A further node of a new identity is drawn under the next id. -/
theorem drawn_withNode_of_notMem {node : StoreNode} (hnodes : schema.relationships = [])
    (hnew : node.identity ∉ schema.identities) :
    (schema.withNode node).drawn supply =
      { schema.drawn supply with
        nodes := (schema.drawn supply).nodes ++
          [node.toNode (supply.id (supply.used + schema.distinctNodes.length))] } := by
  simp only [drawn, distinctNodes_withNode, if_neg hnew, List.mapIdx_concat,
    relationships_withNode, hnodes, List.mapIdx_nil]

/-- A further node of a known identity leaves the ids of all identities as they are. -/
theorem nodeId?_withNode_of_mem {node : StoreNode} (hknown : node.identity ∈ schema.identities)
    (identity : StoreId) :
    (schema.withNode node).nodeId? supply identity = schema.nodeId? supply identity := by
  simp only [nodeId?, nodeId, identities_withNode, if_pos hknown]

/-- A further node of a new identity gives the next id to it and leaves all others as they are. -/
theorem nodeId?_withNode_of_notMem {node : StoreNode} (hnew : node.identity ∉ schema.identities)
    (identity : StoreId) :
    (schema.withNode node).nodeId? supply identity =
      if identity = node.identity then some (supply.id (supply.used + schema.distinctNodes.length))
      else schema.nodeId? supply identity := by
  simp only [nodeId?, nodeId, identities_withNode, if_neg hnew, List.mem_append,
    List.mem_singleton]
  by_cases heq : identity = node.identity
  · subst heq
    simp only [or_true, if_true, List.idxOf_append_of_notMem hnew, List.idxOf_cons_self,
      length_identities, Nat.add_zero]
  · simp only [heq, or_false, if_false]
    split
    next hlisted => rw [List.idxOf_append_of_mem hlisted]
    · rfl

/-- A further relationship is drawn under the next id. -/
theorem drawn_withRelationship (schema : Schema) (supply : IdSupply)
    (relationship : StoreRelationship) :
    (schema.withRelationship relationship).drawn supply =
      { schema.drawn supply with
        edges := (schema.drawn supply).edges ++
          [relationship.toEdge (schema.nextId supply)
            (schema.nodeId supply relationship.start)
            (schema.nodeId supply relationship.finish)] } := by
  simp only [drawn, withRelationship, List.mapIdx_concat]
  rfl

end Schema

end GraphGateway
