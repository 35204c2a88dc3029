import GraphGateway.Assembly.Basic
import GraphGateway.Dialogue.Basic
import GraphGateway.Settings.Basic
import GraphGateway.Statement.Edges
import GraphGateway.Statement.Nodes

/-!
# The gateway

A gateway turns operations on a graph into dialogues with a store. This module holds what the
operations share: how answers are read as nodes, edges, counts and names, and how requests are
checked before anything is asked.
-/

namespace GraphGateway

/-- The settings and the filter compiler of a gateway. -/
structure Gateway where
  settings : Settings := {}
  filters : FilterCompiler

/-- A node to be created or changed. -/
structure NodeRequest where
  id? : Option String := none
  labels : List String := []
  properties : Properties := {}

/-- An edge to be created or changed. -/
structure EdgeRequest where
  id? : Option String := none
  source : String
  target : String
  labels : List String := []
  properties : Properties := {}

/-- The id of a request, if there is one that is not blank. -/
def usableId? (id? : Option String) : Option String := id?.filter fun id => !Text.isBlankText id

/-- A trimmed label; a blank one is refused. -/
def checkLabel (label : String) : Except Error String :=
  let trimmed := Text.trim label
  if trimmed.isEmpty then .error (.invalidInput .blankLabel) else .ok trimmed

/-- The trimmed type of an edge, if one is given. Several are refused. -/
def checkType (labels : List String) : Except Error (Option String) :=
  match labels with
  | [] => .ok none
  | [label] => some <$> checkLabel label
  | _ => .error (.invalidInput .severalTypes)

/-- The properties that are stored for an element: its own and its id. -/
def storedData (id : String) (properties : Properties) : Properties :=
  properties.insert "id" (.text id)

namespace Answer

/-- The count in an answer. -/
def count : List Row → Except Error Int64
  | [] => .error (.unexpectedShape .noCount)
  | row :: _ => do
    match (← row.datum Column.count) >>= Datum.integer? with
    | some n => return n
    | none => .error (.unexpectedShape (.notInteger Column.count))

/-- The texts in a column of an answer; absent ones are passed over. -/
def texts (column : String) : List Row → Except Error (List String)
  | [] => .ok []
  | row :: rest => do
    match ← row.datum column with
    | none => texts column rest
    | some value => match value.text? with
      | some text => (text :: ·) <$> texts column rest
      | none => .error (.unexpectedShape (.notText column))

/-- The nodes in an answer, each once. -/
def nodes (supply : IdSupply) (rows : List Row) : Except Error (List Node) × IdSupply :=
  match Piece.ofRows Column.node rows with
  | .error error => (.error error, supply)
  | .ok pieces =>
    let (answer, supply) := Graph.ofPieces supply pieces
    (answer.map (·.nodes), supply)

/-- Places what a row holds in a column of nodes. -/
def placeNodeIn (row : Row) (column : String) (assembly : Assembly) :
    Except Error Unit × Assembly :=
  match row.node column with
  | .error error => (.error error, assembly)
  | .ok none => (.ok (), assembly)
  | .ok (some node) => assembly.place (.node node)

/-- Places what a row holds in the column of edges. -/
def placeEdgeIn (row : Row) (assembly : Assembly) : Except Error Unit × Assembly :=
  match row.relationship Column.edge with
  | .error error => (.error error, assembly)
  | .ok none => (.ok (), assembly)
  | .ok (some relationship) => assembly.place (.relationship relationship)

/-- Places an edge row: the two ends, then the relationship. -/
def placeEdgeRow (assembly : Assembly) (row : Row) : Except Error Unit × Assembly :=
  match placeNodeIn row Column.source assembly with
  | (.error error, assembly) => (.error error, assembly)
  | (.ok (), assembly) =>
    match placeNodeIn row Column.target assembly with
    | (.error error, assembly) => (.error error, assembly)
    | (.ok (), assembly) => placeEdgeIn row assembly

/-- Places edge rows until one fails. -/
def placeEdgeRows (assembly : Assembly) : List Row → Except Error Unit × Assembly
  | [] => (.ok (), assembly)
  | row :: rest =>
    match placeEdgeRow assembly row with
    | (.error error, assembly) => (.error error, assembly)
    | (.ok (), assembly) => placeEdgeRows assembly rest

/-- The edges in an answer whose rows also hold the nodes at their ends, each once. -/
def edges (supply : IdSupply) (rows : List Row) : Except Error (List Edge) × IdSupply :=
  let (answer, supply) := Assembly.finish (placeEdgeRows { supply } rows)
  (answer.map (·.edges), supply)

end Answer

namespace Call

/-- A check that needs neither the store nor the supply. -/
def check {α : Type} (outcome : Except Error α) : Call α := draw fun supply => (outcome, supply)

/-- The nodes in an answer. -/
def nodesOf (rows : List Row) : Call (List Node) := draw fun supply => Answer.nodes supply rows

/-- The edges in an answer. -/
def edgesOf (rows : List Row) : Call (List Edge) := draw fun supply => Answer.edges supply rows

end Call

end GraphGateway
