import GraphGateway.Proofs.Renaming.Assembly
import GraphGateway.Proofs.Schema.Soundness

/-!
# Graphs of renamed answers

Assembling an answer, a neighbourhood or a schema gives the same graph whatever names the store uses
for its elements: the same ids, order and contents, with as many new ids drawn. Where it fails, only
the store identity in the error is renamed.
-/

namespace GraphGateway

/-!
## Schemas
-/

namespace Schema.Draft

/-- How a step ends under new names. Only nodes have bound identities, so an identity in an error is
that of a node. -/
def renameOutcome (names : Renaming) (outcome : Except Error Unit × Draft) :
    Except Error Unit × Draft :=
  (outcome.1.mapError (Error.rename names .node), outcome.2.rename names)

/-- A renamed virtual node is placed under the same stable id. -/
theorem placeNode_rename (names : Renaming) (draft : Draft) (node : StoreNode) :
    (draft.rename names).placeNode (node.rename names) =
      renameOutcome names (draft.placeNode node) := by
  have hassign := Identities.assign_rename names .node draft.nodes node.identity
    node.carriedId? draft.supply
  unfold placeNode
  cases hplain : draft.nodes.assign node.identity node.carriedId? draft.supply with
  | error error =>
    rw [hplain] at hassign
    exact hassign ▸ rfl
  | ok given =>
    obtain ⟨id, nodes, supply⟩ := given
    rw [hplain] at hassign
    exact hassign ▸ rfl

/-- A renamed virtual relationship is placed alike. -/
theorem placeRelationship_rename (names : Renaming) {draft : Draft} (hsound : draft.Sound)
    (relationship : StoreRelationship) :
    (draft.rename names).placeRelationship (relationship.rename names) =
      renameOutcome names (draft.placeRelationship relationship) := by
  have hstart := Identities.endpoint_rename names .node draft.nodes draft.supply.mint.1
    relationship.start
  have hfinish := Identities.endpoint_rename names .node draft.nodes draft.supply.mint.1
    relationship.finish
  rw [placeRelationship_eq, placeRelationship_eq]
  simp only [Draft.rename, StoreRelationship.rename, hstart, hfinish]
  cases hsource : draft.nodes.endpoint draft.supply.mint.1 relationship.start with
  | error error => rfl
  | ok source =>
    cases htarget : draft.nodes.endpoint draft.supply.mint.1 relationship.finish with
    | error error => rfl
    | ok target =>
      rw [Identities.endpoint_eq_ok_iff] at hsource htarget
      have hadd : draft.graph.addEdge
          (relationship.toEdge draft.supply.mint.1 source target) = .ok (_, _) :=
        Graph.addEdge_eq_ok_iff.mpr ⟨hsound _ _ hsource, hsound _ _ htarget, rfl, rfl⟩
      have hrenamed : draft.graph.addEdge
          ((relationship.rename names).toEdge draft.supply.mint.1 source target) = .ok (_, _) :=
        hadd
      simp only [StoreRelationship.rename] at hrenamed
      simp only [Except.mapError, hadd, hrenamed]
      rfl

/-- Steps that commute with renaming, and keep drafts sound, do so one after the other. -/
theorem all_rename {α : Type} {step : Draft → α → Except Error Unit × Draft}
    {rename : Renaming → α → α} (names : Renaming)
    (hkept : ∀ {draft : Draft}, draft.Sound → ∀ item, (step draft item).2.Sound)
    (hrenamed : ∀ {draft : Draft}, draft.Sound → ∀ item,
      step (draft.rename names) (rename names item) = renameOutcome names (step draft item))
    {draft : Draft} (hsound : draft.Sound) (items : List α) :
    all step (draft.rename names) (items.map (rename names)) =
        renameOutcome names (all step draft items) ∧
      (all step draft items).2.Sound := by
  induction items generalizing draft with
  | nil => exact ⟨rfl, hsound⟩
  | cons item rest ih =>
    have hafter := hkept hsound item
    have hfirst := hrenamed hsound item
    rcases hstep : step draft item with ⟨error | placed, after⟩
    · rw [hstep] at hafter hfirst
      simp only [List.map_cons, all, hfirst, hstep]
      exact ⟨rfl, hafter⟩
    · rw [hstep] at hafter hfirst
      simp only [List.map_cons, all, hfirst, hstep]
      exact ih hafter

end Schema.Draft

/-!
## Whole graphs
-/

/-- What becomes of a graph, and the supply that is left, under new names. -/
def renameGraphOutcome (names : Renaming) (kind : ElementKind)
    (outcome : Except Error Graph × IdSupply) : Except Error Graph × IdSupply :=
  (outcome.1.mapError (Error.rename names kind), outcome.2)

/-- The graph of an assembly holds no store identities. -/
theorem Assembly.finish_renameOutcome (names : Renaming) (kind : ElementKind)
    (outcome : Except Error Unit × Assembly) :
    Assembly.finish (Assembly.renameOutcome names kind outcome) =
      renameGraphOutcome names kind (Assembly.finish outcome) := by
  obtain ⟨_ | _, after⟩ := outcome <;> rfl

/-- Renamed pieces give the same graph. -/
theorem Graph.exists_kind_ofPieces_rename (supply : IdSupply) (pieces : List Piece) :
    ∃ kind, ∀ names : Renaming,
      Graph.ofPieces supply (pieces.map (Piece.rename names)) =
        renameGraphOutcome names kind (Graph.ofPieces supply pieces) := by
  obtain ⟨kind, hplaced⟩ := Assembly.exists_kind_placeAll_rename (Assembly.Sound.start supply)
    (pieces.flatMap Piece.occurrences)
  refine ⟨kind, fun names => ?_⟩
  have hoccurrences : (pieces.map (Piece.rename names)).flatMap Piece.occurrences =
      (pieces.flatMap Piece.occurrences).map (Occurrence.rename names) := by
    rw [List.flatMap_map, List.map_flatMap]
    simp only [Piece.occurrences_rename]
  rw [Graph.ofPieces, Graph.ofPieces, Assembly.placeAll_eq_placeAll_occurrences,
    Assembly.placeAll_eq_placeAll_occurrences _ pieces, hoccurrences,
    ← Assembly.finish_renameOutcome, ← hplaced names]
  rfl

/-- Renamed rows give the same neighbourhood. -/
theorem Graph.exists_kind_ofNeighborhood_rename (supply : IdSupply) (wanted : String)
    (rows : List NeighborRow) (limit : Int64) :
    ∃ kind, ∀ names : Renaming,
      Graph.ofNeighborhood supply wanted (rows.map (NeighborRow.rename names)) limit =
        renameGraphOutcome names kind (Graph.ofNeighborhood supply wanted rows limit) := by
  obtain ⟨kind, hplaced⟩ := Assembly.exists_kind_placeRows_rename { supply } wanted rows
  refine ⟨kind, fun names => ?_⟩
  unfold Graph.ofNeighborhood
  split
  · rfl
  · rw [← Assembly.finish_renameOutcome, ← hplaced names]
    rfl

/-- A renamed schema gives the same graph. -/
theorem Graph.ofSchema_rename (supply : IdSupply) (schema : Schema) (names : Renaming) :
    Graph.ofSchema supply (schema.rename names) =
      renameGraphOutcome names .node (Graph.ofSchema supply schema) := by
  obtain ⟨hnodes, hsound⟩ := Schema.Draft.all_rename names Schema.Draft.Sound.placeNode
    (fun {draft} _ => Schema.Draft.placeNode_rename names draft) (Schema.Draft.Sound.start supply)
    schema.nodes
  change Schema.Draft.all Schema.Draft.placeNode { supply } (schema.rename names).nodes = _
    at hnodes
  unfold Graph.ofSchema
  rw [hnodes]
  rcases hplaced : Schema.Draft.all Schema.Draft.placeNode { supply } schema.nodes with
    ⟨error | placed, draft⟩
  · rfl
  · rw [hplaced] at hsound
    obtain ⟨hrelationships, -⟩ := Schema.Draft.all_rename names
      Schema.Draft.Sound.placeRelationship
      (fun {draft} hsound => Schema.Draft.placeRelationship_rename names hsound) hsound
      schema.relationships
    change Schema.Draft.all Schema.Draft.placeRelationship (draft.rename names)
      (schema.rename names).relationships = _ at hrelationships
    dsimp only [Schema.Draft.renameOutcome, Except.mapError]
    rw [hrelationships]
    rcases Schema.Draft.all Schema.Draft.placeRelationship draft schema.relationships with
      ⟨_ | _, _⟩ <;> rfl

/-- The store's own names make no difference. Whatever other names the nodes and the relationships
of an answer, of the rows of a neighbourhood or of a schema get, as long as different ones stay
different, the graph is the same, with the same ids in the same order, and the supply is used
equally often; or the error is the same but for the new name of the identity in it. Of which kind
that identity is depends on the answer and not on the renaming. -/
theorem graphs_eq_of_renamed (supply : IdSupply) :
    (∀ pieces : List Piece, ∃ kind, ∀ names : Renaming,
      Graph.ofPieces supply (pieces.map (Piece.rename names)) =
        renameGraphOutcome names kind (Graph.ofPieces supply pieces)) ∧
    (∀ (wanted : String) (rows : List NeighborRow) (limit : Int64), ∃ kind, ∀ names : Renaming,
      Graph.ofNeighborhood supply wanted (rows.map (NeighborRow.rename names)) limit =
        renameGraphOutcome names kind (Graph.ofNeighborhood supply wanted rows limit)) ∧
    ∀ (schema : Schema) (names : Renaming),
      Graph.ofSchema supply (schema.rename names) =
        renameGraphOutcome names .node (Graph.ofSchema supply schema) :=
  ⟨Graph.exists_kind_ofPieces_rename supply, Graph.exists_kind_ofNeighborhood_rename supply,
    Graph.ofSchema_rename supply⟩

end GraphGateway
