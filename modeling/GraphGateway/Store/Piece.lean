import GraphGateway.Store.Row

/-!
# Pieces of a graph in an answer

The graph elements that a column of an answer holds, in the order of the rows: nodes and
relationships by themselves, and the hops of paths. Lists are walked depth first; absent values and
empty paths contribute nothing, and a plain value has no place in such a column.
-/

namespace GraphGateway

/-- A part of an answer from which a graph is assembled. -/
inductive Piece where
  | node (node : StoreNode)
  | relationship (relationship : StoreRelationship)
  | hop (hop : Hop)

mutual

/-- The pieces in a cell of a column. -/
def Cell.pieces (column : String) : Cell → Except Error (List Piece)
  | .null => .ok []
  | .node n => .ok [.node n]
  | .relationship r => .ok [.relationship r]
  | .path hops => .ok (hops.map .hop)
  | .list items => Cell.piecesOfAll column items
  | .datum value =>
    if value.isNull then .ok []
    else .error (.unexpectedShape (.plainValue column value.typeName))

/-- The pieces in the cells of a list, one after the other. -/
def Cell.piecesOfAll (column : String) : List Cell → Except Error (List Piece)
  | [] => .ok []
  | cell :: rest => do
    let first ← Cell.pieces column cell
    let others ← Cell.piecesOfAll column rest
    return first ++ others

end

/-- The pieces in a column of an answer. -/
def Piece.ofRows (column : String) : List Row → Except Error (List Piece)
  | [] => .ok []
  | row :: rest => do
    let first ← match row.get? column with
      | some cell => cell.pieces column
      | none => pure []
    let others ← Piece.ofRows column rest
    return first ++ others

end GraphGateway
