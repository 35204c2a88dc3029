import GraphGateway.Gateway.Nodes
import GraphGateway.Neighborhood
import GraphGateway.Proofs.Assembly.Growth
import GraphGateway.Proofs.Dialogue.Conditions
import GraphGateway.Schema

/-!
# How answers are refused

Whatever rows a store answers with, they are refused only for their shape or for how the elements in
them fit together. No reader of answers has any other error, so an error that is due to the input of
an operation does not come from an answer.
-/

namespace GraphGateway

/-- The errors by which an answer is refused. -/
inductive Error.OfAnswer : Error → Prop where
  | unexpectedShape (fault : ShapeFault) : OfAnswer (.unexpectedShape fault)
  | identityConflict (identity : StoreId) (existing attempted : String) :
      OfAnswer (.identityConflict identity existing attempted)
  | danglingEndpoint (relationship endpoint : String) :
      OfAnswer (.danglingEndpoint relationship endpoint)

/-!
## Rows
-/

/-- A field is refused for the kind of its cell. -/
theorem Row.failsOnly_read {α : Type} (row : Row) (name expected : String)
    (view : Cell → Option α) : FailsOnly Error.OfAnswer (row.read name expected view) := by
  unfold read
  split
  next => exact .ok _
  next =>
    split
    next => exact .ok _
    next =>
      split
      next => exact .ok _
      next => exact .error (.unexpectedShape _)

mutual

/-- A cell is refused for a plain value in it. -/
theorem Cell.failsOnly_pieces (column : String) :
    ∀ cell : Cell, FailsOnly Error.OfAnswer (cell.pieces column)
  | .null => .ok _
  | .node _ => .ok _
  | .relationship _ => .ok _
  | .path _ => .ok _
  | .list items => Cell.failsOnly_piecesOfAll column items
  | .datum value => by
    unfold Cell.pieces
    split
    next => exact .ok _
    next => exact .error (.unexpectedShape _)

/-- Cells are refused for a plain value in one of them. -/
theorem Cell.failsOnly_piecesOfAll (column : String) :
    ∀ cells : List Cell, FailsOnly Error.OfAnswer (Cell.piecesOfAll column cells)
  | [] => .ok _
  | cell :: rest =>
    .bind (Cell.failsOnly_pieces column cell) fun _ =>
      .bind (Cell.failsOnly_piecesOfAll column rest) fun _ => .ok _

end

/-- A column is refused for a plain value in it. -/
theorem Piece.failsOnly_ofRows (column : String) (rows : List Row) :
    FailsOnly Error.OfAnswer (ofRows column rows) := by
  induction rows with
  | nil => exact .ok _
  | cons row rest ih =>
    unfold ofRows
    split
    next cell _ => exact .bind (cell.failsOnly_pieces column) fun _ => .bind ih fun _ => .ok _
    next => exact .bind (.ok _) fun _ => .bind ih fun _ => .ok _

/-!
## Graphs
-/

namespace Assembly

/-- A node is refused for a conflict. -/
theorem failsOnly_placeNode (assembly : Assembly) (node : StoreNode) :
    FailsOnly Error.OfAnswer (assembly.placeNode node).1 := by
  obtain ⟨error, hassign, hplace⟩ | ⟨id, nodes, supply, -, hplace⟩ :=
    assembly.placeNode_cases node
  · obtain ⟨existing, id, -, -, -, rfl⟩ := Identities.assign_eq_error_iff.mp hassign
    rw [hplace]
    exact .error (.identityConflict _ _ _)
  · rw [hplace]
    exact .ok _

/-- A relationship is refused for a conflict or for an end that is missing. -/
theorem failsOnly_placeRelationship (assembly : Assembly) (relationship : StoreRelationship) :
    FailsOnly Error.OfAnswer (assembly.placeRelationship relationship).1 := by
  obtain ⟨existing, id, hplace⟩ | ⟨id, relationships, supply, -,
    ⟨endpoint, hplace⟩ | ⟨source, target, graph, added, -, -, -, hplace⟩⟩ :=
    assembly.placeRelationship_cases relationship
  · rw [hplace]
    exact .error (.identityConflict _ _ _)
  · rw [hplace]
    exact .error (.danglingEndpoint _ _)
  · rw [hplace]
    exact .ok _

/-- Between given ends, a relationship is refused for the same. -/
theorem failsOnly_placeBetween (assembly : Assembly) (relationship : StoreRelationship)
    (source target : String) :
    FailsOnly Error.OfAnswer (assembly.placeBetween relationship source target).1 := by
  obtain ⟨existing, id, hplace⟩ | ⟨id, relationships, supply, -,
    ⟨endpoint, hplace⟩ | ⟨graph, added, -, hplace⟩⟩ :=
    assembly.placeBetween_cases relationship source target
  · rw [hplace]
    exact .error (.identityConflict _ _ _)
  · rw [hplace]
    exact .error (.danglingEndpoint _ _)
  · rw [hplace]
    exact .ok _

/-- A hop is refused for one of its nodes or for its relationship. -/
theorem failsOnly_placeHop (assembly : Assembly) (hop : Hop) :
    FailsOnly Error.OfAnswer (assembly.placeHop hop).1 := by
  obtain ⟨error, after, hnode, hplace⟩ | ⟨source, started, -,
    ⟨error, after, hnode, hplace⟩ | ⟨target, joined, -, hplace⟩⟩ := assembly.placeHop_cases hop
  · rw [hplace]
    exact (failsOnly_placeNode _ _).passed_on hnode
  · rw [hplace]
    exact (failsOnly_placeNode _ _).passed_on hnode
  · rw [hplace]
    exact failsOnly_placeRelationship joined hop.relationship

/-- A piece is refused for an element of it. -/
theorem failsOnly_place (assembly : Assembly) (piece : Piece) :
    FailsOnly Error.OfAnswer (assembly.place piece).1 := by
  cases piece with
  | node node => exact .map (assembly.failsOnly_placeNode node) _
  | relationship relationship => exact .map (assembly.failsOnly_placeRelationship relationship) _
  | hop hop => exact .map (assembly.failsOnly_placeHop hop) _

/-- Pieces are refused for one of them. -/
theorem failsOnly_placeAll (assembly : Assembly) (pieces : List Piece) :
    FailsOnly Error.OfAnswer (assembly.placeAll pieces).1 := by
  induction pieces generalizing assembly with
  | nil => exact .ok _
  | cons piece rest ih =>
    unfold placeAll
    split
    next error after hplace =>
      exact (failsOnly_place _ _).passed_on hplace
    next after _ => exact ih after

/-- The graph of an assembly is refused where its last step is. -/
theorem failsOnly_finish {outcome : Except Error Unit × Assembly}
    (h : FailsOnly Error.OfAnswer outcome.1) : FailsOnly Error.OfAnswer (finish outcome).1 :=
  .map h _

/-- A neighbour is refused for its node or for its relationship. -/
theorem failsOnly_placeNeighbor (assembly : Assembly) (neighbor : Neighbor)
    (ends : String → String × String) :
    FailsOnly Error.OfAnswer (assembly.placeNeighbor neighbor ends).1 := by
  unfold placeNeighbor
  split
  next error after hnode => exact (failsOnly_placeNode _ _).passed_on hnode
  next => exact .map (failsOnly_placeBetween _ _ _ _) _

/-- A neighbour that is not there is not refused. -/
theorem failsOnly_placeNeighbor? (assembly : Assembly) (neighbor? : Option Neighbor)
    (ends : String → String × String) :
    FailsOnly Error.OfAnswer (assembly.placeNeighbor? neighbor? ends).1 := by
  cases neighbor? with
  | none => exact .ok _
  | some neighbor => exact assembly.failsOnly_placeNeighbor neighbor ends

/-- A row of a neighbourhood is refused for an element of it or for its center. -/
theorem failsOnly_placeRow (assembly : Assembly) (wanted : String) (row : NeighborRow) :
    FailsOnly Error.OfAnswer (assembly.placeRow wanted row).1 := by
  unfold placeRow
  split
  next error after hnode => exact (failsOnly_placeNode _ _).passed_on hnode
  next =>
    split
    next => exact .error (.unexpectedShape _)
    next =>
      split
      next error after hparent =>
        exact (failsOnly_placeNeighbor? _ _ _).passed_on hparent
      next => exact failsOnly_placeNeighbor? _ _ _

/-- Rows of a neighbourhood are refused for one of them. -/
theorem failsOnly_placeRows (assembly : Assembly) (wanted : String) (rows : List NeighborRow) :
    FailsOnly Error.OfAnswer (assembly.placeRows wanted rows).1 := by
  induction rows generalizing assembly with
  | nil => exact .ok _
  | cons row rest ih =>
    unfold placeRows
    split
    next error after hrow => exact (failsOnly_placeRow _ _ _).passed_on hrow
    next after _ => exact ih after

end Assembly

/-- Pieces without a graph are refused as an answer. -/
theorem Graph.failsOnly_ofPieces (supply : IdSupply) (pieces : List Piece) :
    FailsOnly Error.OfAnswer (ofPieces supply pieces).1 :=
  Assembly.failsOnly_finish (Assembly.failsOnly_placeAll _ pieces)

/-- Rows without a neighbourhood are refused as an answer. -/
theorem Graph.failsOnly_ofNeighborhood (supply : IdSupply) (wanted : String)
    (rows : List NeighborRow) (limit : Int64) :
    FailsOnly Error.OfAnswer (ofNeighborhood supply wanted rows limit).1 := by
  unfold ofNeighborhood
  split
  next => exact .ok _
  next => exact Assembly.failsOnly_finish (Assembly.failsOnly_placeRows _ wanted rows)

/-- Neighbourhood rows are refused for the kind of a cell. -/
theorem NeighborRow.failsOnly_ofRows (rows : List Row) :
    FailsOnly Error.OfAnswer (ofRows rows) := by
  have hneighbor (row : Row) (columns : String × String) :
      FailsOnly Error.OfAnswer (neighbor? row columns) := by
    refine .bind (row.failsOnly_read _ _ _) fun node? =>
      .bind (row.failsOnly_read _ _ _) fun relationship? => ?_
    split
    next => exact .ok _
    next => exact .ok _
  induction rows with
  | nil => exact .ok _
  | cons row rest ih =>
    refine .bind (.bind (row.failsOnly_read _ _ _) fun center? => ?_) fun _ =>
      .bind ih fun _ => .ok _
    split
    next => exact .ok _
    next => exact .bind (hneighbor row _) fun _ => .bind (hneighbor row _) fun _ => .ok _

namespace Schema

/-- The elements of a list are refused for the kind of a cell. -/
theorem failsOnly_elements {α : Type} (column : String) (view : Cell → Option α)
    (cells : List Cell) : FailsOnly Error.OfAnswer (elements column view cells) := by
  induction cells with
  | nil => exact .ok _
  | cons cell rest ih =>
    unfold elements
    split
    next => exact ih
    next =>
      split
      next => exact .map ih _
      next => exact .error (.unexpectedShape _)

/-- A schema is refused for the kind of a cell. -/
theorem failsOnly_ofRows (rows : List Row) : FailsOnly Error.OfAnswer (ofRows rows) := by
  cases rows with
  | nil => exact .ok _
  | cons row rest =>
    exact .bind (.map (row.failsOnly_read _ _ _) _) fun _ =>
      .bind (failsOnly_elements _ _ _) fun _ =>
        .bind (.map (row.failsOnly_read _ _ _) _) fun _ =>
          .bind (failsOnly_elements _ _ _) fun _ => .ok _

namespace Draft

/-- A virtual node is refused for a conflict. -/
theorem failsOnly_placeNode (draft : Draft) (node : StoreNode) :
    FailsOnly Error.OfAnswer (draft.placeNode node).1 := by
  unfold placeNode
  split
  next error hassign =>
    obtain ⟨existing, id, -, -, -, rfl⟩ := Identities.assign_eq_error_iff.mp hassign
    exact .error (.identityConflict _ _ _)
  next => exact .ok _

/-- A virtual relationship is refused for an end that is missing. -/
theorem failsOnly_placeRelationship (draft : Draft) (relationship : StoreRelationship) :
    FailsOnly Error.OfAnswer (draft.placeRelationship relationship).1 := by
  have hendpoint (id : String) (identity : StoreId) :
      FailsOnly Error.OfAnswer (draft.nodes.endpoint id identity) := by
    intro error herror
    obtain ⟨-, rfl⟩ := Identities.endpoint_eq_error_iff.mp herror
    exact .danglingEndpoint _ _
  have hadd (edge : Edge) : FailsOnly Error.OfAnswer (draft.graph.addEdge edge) := by
    intro error herror
    obtain ⟨-, rfl⟩ | ⟨-, -, rfl⟩ := Graph.addEdge_eq_error_iff.mp herror
    · exact .danglingEndpoint _ _
    · exact .danglingEndpoint _ _
  unfold placeRelationship
  dsimp only
  split
  next error hstep =>
    exact .error (FailsOnly.bind (hendpoint _ _)
      (fun _ => .bind (hendpoint _ _) fun _ => .bind (hadd _) fun _ => .ok _) error hstep)
  next => exact .ok _

/-- Steps over a list are refused where one of them is. -/
theorem failsOnly_all {α : Type} {step : Draft → α → Except Error Unit × Draft}
    (hstep : ∀ draft item, FailsOnly Error.OfAnswer (step draft item).1) (draft : Draft)
    (items : List α) : FailsOnly Error.OfAnswer (all step draft items).1 := by
  induction items generalizing draft with
  | nil => exact .ok _
  | cons item rest ih =>
    unfold all
    split
    next error after hitem => exact (hstep _ _).passed_on hitem
    next after _ => exact ih after

end Draft

end Schema

/-- A schema without a graph is refused as an answer. -/
theorem Graph.failsOnly_ofSchema (supply : IdSupply) (schema : Schema) :
    FailsOnly Error.OfAnswer (ofSchema supply schema).1 := by
  unfold ofSchema
  split
  next error draft hnodes =>
    exact (Schema.Draft.failsOnly_all Schema.Draft.failsOnly_placeNode _ _).passed_on hnodes
  next draft _ =>
    exact .map (Schema.Draft.failsOnly_all Schema.Draft.failsOnly_placeRelationship draft _) _

/-!
## What the operations read
-/

namespace Answer

/-- A count is refused for its shape. -/
theorem failsOnly_count (rows : List Row) : FailsOnly Error.OfAnswer (count rows) := by
  cases rows with
  | nil => exact .error (.unexpectedShape _)
  | cons row rest =>
    refine .bind (row.failsOnly_read _ _ _) fun value? => ?_
    split
    next => exact .ok _
    next => exact .error (.unexpectedShape _)

/-- Texts are refused for the kind of a cell or of a value. -/
theorem failsOnly_texts (column : String) (rows : List Row) :
    FailsOnly Error.OfAnswer (texts column rows) := by
  induction rows with
  | nil => exact .ok _
  | cons row rest ih =>
    refine .bind (row.failsOnly_read _ _ _) fun value? => ?_
    split
    next => exact ih
    next =>
      split
      next => exact .map ih _
      next => exact .error (.unexpectedShape _)

/-- Nodes are refused for the pieces of their column or for the graph of these. -/
theorem failsOnly_nodes (supply : IdSupply) (rows : List Row) :
    FailsOnly Error.OfAnswer (nodes supply rows).1 := by
  unfold nodes
  split
  next error hpieces => exact .error (Piece.failsOnly_ofRows _ _ _ hpieces)
  next pieces _ => exact .map (Graph.failsOnly_ofPieces supply pieces) _

/-- The node in a column is refused for the kind of its cell or for a conflict. -/
theorem failsOnly_placeNodeIn (row : Row) (column : String) (assembly : Assembly) :
    FailsOnly Error.OfAnswer (placeNodeIn row column assembly).1 := by
  unfold placeNodeIn
  split
  next error hnode => exact .error (row.failsOnly_read _ _ _ _ hnode)
  next => exact .ok _
  next => exact Assembly.failsOnly_place _ _

/-- An edge row is refused for one of its three columns. -/
theorem failsOnly_placeEdgeRow (assembly : Assembly) (row : Row) :
    FailsOnly Error.OfAnswer (placeEdgeRow assembly row).1 := by
  unfold placeEdgeRow
  split
  next error after hsource =>
    exact (failsOnly_placeNodeIn _ _ _).passed_on hsource
  next =>
    split
    next error after htarget =>
      exact (failsOnly_placeNodeIn _ _ _).passed_on htarget
    next =>
      unfold placeEdgeIn
      split
      next error hedge => exact .error (row.failsOnly_read _ _ _ _ hedge)
      next => exact .ok _
      next => exact Assembly.failsOnly_place _ _

/-- Edges are refused for one of their rows. -/
theorem failsOnly_edges (supply : IdSupply) (rows : List Row) :
    FailsOnly Error.OfAnswer (edges supply rows).1 := by
  have hrows (assembly : Assembly) : FailsOnly Error.OfAnswer (placeEdgeRows assembly rows).1 := by
    induction rows generalizing assembly with
    | nil => exact .ok _
    | cons row rest ih =>
      unfold placeEdgeRows
      split
      next error after hrow => exact (failsOnly_placeEdgeRow _ _).passed_on hrow
      next after _ => exact ih after
  exact .map (Assembly.failsOnly_finish (hrows _)) _

end Answer

/-- Names of properties are refused for the kind of a cell. -/
theorem Gateway.failsOnly_propertyNames (rows : List Row) :
    FailsOnly Error.OfAnswer (propertyNames rows) := by
  induction rows with
  | nil => exact .ok _
  | cons row rest ih =>
    refine .bind (row.failsOnly_read _ _ _) fun node? => ?_
    split
    next => exact .bind (.ok _) fun _ => .bind ih fun _ => .ok _
    next => exact .bind (.ok _) fun _ => .bind ih fun _ => .ok _

end GraphGateway
