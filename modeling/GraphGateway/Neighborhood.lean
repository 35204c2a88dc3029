import GraphGateway.Assembly.Basic

/-!
# Neighbourhoods

The graph around one node. Every row of the answer holds the node in the middle, perhaps a parent
with the relationship from it, and perhaps a child with the relationship to it. The rows already say
which nodes a relationship joins, so its own ends are not looked at.
-/

namespace GraphGateway

/-- A neighbour with the relationship that joins it to the node in the middle. -/
structure Neighbor where
  node : StoreNode
  relationship : StoreRelationship

/-- One row of a neighbourhood. -/
structure NeighborRow where
  center : StoreNode
  parent? : Option Neighbor := none
  child? : Option Neighbor := none

namespace NeighborRow

/-- The column of the node in the middle. -/
def centerColumn : String := "c"

/-- The columns of the parent and of the relationship from it. -/
def parentColumns : String × String := ("parent", "pr")

/-- The columns of the child and of the relationship to it. -/
def childColumns : String × String := ("child", "cr")

/-- The neighbour in two columns; it is there only if both are. -/
def neighbor? (row : Row) (columns : String × String) : Except Error (Option Neighbor) := do
  let node? ← row.node columns.1
  let relationship? ← row.relationship columns.2
  match node?, relationship? with
  | some node, some relationship => return some { node, relationship }
  | _, _ => return none

/-- The neighbourhood row in a row of an answer; a row without a node in the middle is none. -/
def ofRow? (row : Row) : Except Error (Option NeighborRow) := do
  match ← row.node centerColumn with
  | none => return none
  | some center =>
    let parent? ← neighbor? row parentColumns
    let child? ← neighbor? row childColumns
    return some { center, parent?, child? }

/-- The neighbourhood rows of an answer. -/
def ofRows : List Row → Except Error (List NeighborRow)
  | [] => .ok []
  | row :: rest => do
    let first ← ofRow? row
    let others ← ofRows rest
    return first.toList ++ others

end NeighborRow

namespace Assembly

/-- Places a neighbour and then an edge between the middle and it; `ends` tells source and target of
the edge from the stable id of the neighbour. -/
def placeNeighbor (assembly : Assembly) (neighbor : Neighbor) (ends : String → String × String) :
    Except Error Unit × Assembly :=
  match assembly.placeNode neighbor.node with
  | (.error error, assembly) => (.error error, assembly)
  | (.ok id, assembly) =>
    let (answer, assembly) :=
      assembly.placeBetween neighbor.relationship (ends id).1 (ends id).2
    (answer.map fun _ => (), assembly)

/-- Places an optional neighbour. -/
def placeNeighbor? (assembly : Assembly) (neighbor? : Option Neighbor)
    (ends : String → String × String) : Except Error Unit × Assembly :=
  match neighbor? with
  | none => (.ok (), assembly)
  | some neighbor => assembly.placeNeighbor neighbor ends

/-- Places a row: the middle, which must be the wanted node, then the parent, then the child. -/
def placeRow (assembly : Assembly) (wanted : String) (row : NeighborRow) :
    Except Error Unit × Assembly :=
  match assembly.placeNode row.center with
  | (.error error, assembly) => (.error error, assembly)
  | (.ok center, assembly) =>
    if center ≠ wanted then (.error (.unexpectedShape (.foreignCenter center wanted)), assembly)
    else
      match assembly.placeNeighbor? row.parent? fun parent => (parent, center) with
      | (.error error, assembly) => (.error error, assembly)
      | (.ok (), assembly) => assembly.placeNeighbor? row.child? fun child => (center, child)

/-- Places rows until one fails. -/
def placeRows (assembly : Assembly) (wanted : String) :
    List NeighborRow → Except Error Unit × Assembly
  | [] => (.ok (), assembly)
  | row :: rest =>
    match assembly.placeRow wanted row with
    | (.error error, assembly) => (.error error, assembly)
    | (.ok (), assembly) => assembly.placeRows wanted rest

end Assembly

/-- The graph around a node, and the supply that is left. A limit that lets nothing through gives
the empty graph. -/
def Graph.ofNeighborhood (supply : IdSupply) (wanted : String) (rows : List NeighborRow)
    (limit : Int64) : Except Error Graph × IdSupply :=
  if limit ≤ 0 then (.ok {}, supply)
  else Assembly.finish (({ supply } : Assembly).placeRows wanted rows)

end GraphGateway
