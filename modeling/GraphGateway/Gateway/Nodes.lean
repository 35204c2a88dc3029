import GraphGateway.Gateway.Basic
import GraphGateway.Statement.Search

/-!
# Operations on nodes

Reading, creating, changing and deleting nodes. A node is created or changed only after the store
has been asked whether its id is there, and its id is stored among its properties, whatever the
request's own properties say.
-/

namespace GraphGateway.Gateway

open Call

/-- Whether a node has an id. -/
def hasNode (id : String) : Call Bool := do
  let count ← check (Answer.count (← read (NodeStatement.presence id)))
  return count > 0

/-- The node with an id. -/
def node? (id : String) : Call (Option Node) := do
  let nodes ← nodesOf (← read (NodeStatement.byId id))
  return nodes.head?

/-- A node that a filter lets through. -/
def nodeMatching? (gateway : Gateway) (filter : Json) : Call (Option Node) := do
  let statement ← check (NodeStatement.firstMatching gateway.filters filter)
  let nodes ← nodesOf (← read statement)
  return nodes.head?

/-- Nodes that a filter lets through; the configured limit counts when no amount is given. -/
def nodesMatching (gateway : Gateway) (filter : Json) (amount? : Option Int64) :
    Call (List Node) := do
  let amount := amount?.getD gateway.settings.defaultLimit
  let statement ← check (NodeStatement.matching gateway.filters filter amount)
  nodesOf (← read statement)

/-- Nodes with a label. -/
def nodesLabeled (label : String) (amount : Int64) : Call (List Node) := do
  if amount ≤ 0 then return []
  let label ← check (checkLabel label)
  nodesOf (← read (NodeStatement.labeled label amount))

/-- The names of the properties of the nodes in an answer, without the one named `labels`. Names
stand in the order of the rows in which they come up first, and in key order within a row. -/
def propertyNames : List Row → Except Error (List String)
  | [] => .ok []
  | row :: rest => do
    let names ← match ← row.node Column.node with
      | some node => pure (node.properties.keys.filter (· != Statement.labelsField))
      | none => pure []
    let others ← propertyNames rest
    return names ++ others.filter fun name => !names.contains name

/-- The names of the properties that nodes with a label have. -/
def propertyNamesLabeled (label : String) (amount : Int64) : Call (List String) := do
  if amount ≤ 0 then return []
  let label ← check (checkLabel label)
  check (propertyNames (← read (NodeStatement.labeled label amount)))

/-- Nodes that hold a term in one of the fields, perhaps only those with a label. A blank term finds
nothing. -/
def searchNodes (term : String) (fields : List String) (label? : Option String)
    (amount : Int64) : Call (List Node) := do
  if Text.isBlankText term || amount ≤ 0 then return []
  let label? ← check (label?.mapM checkLabel)
  nodesOf (← read (Statement.searchNodes term fields label? amount))

/-- The number of nodes that a filter lets through. -/
def countNodes (gateway : Gateway) (filter : Json) : Call Int64 := do
  let statement ← check (NodeStatement.count gateway.filters filter)
  check (Answer.count (← read statement))

/-- The checked labels of a new node; the configured label counts when there are none. -/
def labelsOfNew (gateway : Gateway) (labels : List String) : Except Error (List String) :=
  if labels.isEmpty then (fun label => [label]) <$> checkLabel gateway.settings.defaultNodeLabel
  else labels.mapM checkLabel

/-- Creates a node under the id of the request, or under a new one. -/
def createNode (gateway : Gateway) (request : NodeRequest) : Call Node := do
  let id ← match usableId? request.id? with
    | some id => pure id
    | none => mint
  if ← hasNode id then throw (.itemExists (.node id))
  let labels ← check (labelsOfNew gateway request.labels)
  let properties := request.properties.withoutReserved
  let _ ← write (NodeStatement.create labels (storedData id properties))
  return Node.ofLabels id labels properties

/-- Creates nodes one after the other, until one fails. -/
def createNodes (gateway : Gateway) : List NodeRequest → Call (List Node)
  | [] => return []
  | request :: rest => do
    let node ← createNode gateway request
    let others ← createNodes gateway rest
    return node :: others

/-- Replaces the properties of the node with the id of the request, and adds labels to it. -/
def updateNode (request : NodeRequest) : Call Node := do
  match usableId? request.id? with
  | none => throw (.invalidInput .nodeWithoutId)
  | some id =>
    if !(← hasNode id) then throw (.itemMissing (.node id))
    let labels ← check (request.labels.mapM checkLabel)
    let data := storedData id request.properties.withoutReserved
    let nodes ← nodesOf (← write (NodeStatement.update id labels data))
    match nodes.head? with
    | some node => return node
    | none => throw (.itemMissing (.node id))

/-- Updates the node with the id of the request if it is there, and creates it otherwise. -/
def upsertNode (gateway : Gateway) (request : NodeRequest) : Call Node := do
  let present ← match usableId? request.id? with
    | some id => hasNode id
    | none => pure false
  if present then updateNode request else createNode gateway request

/-- Deletes the node with an id. -/
def deleteNode (id : String) : Call Unit := do
  let _ ← write (NodeStatement.delete id)

/-- Deletes the nodes that a filter lets through. -/
def deleteNodesMatching (gateway : Gateway) (filter : Json) : Call Unit := do
  let statement ← check (NodeStatement.deleteMatching gateway.filters filter)
  let _ ← write statement

end GraphGateway.Gateway
