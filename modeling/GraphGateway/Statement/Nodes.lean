import GraphGateway.Statement.Filter

/-!
# Statements on nodes
-/

namespace GraphGateway.NodeStatement

open Statement

/-- Counts the nodes with an id. -/
def presence (id : String) : Statement :=
  (ofText "MATCH (n \x7bid: $id\x7d) RETURN count(n) AS count").given "id" (.text id)

/-- The node with an id. -/
def byId (id : String) : Statement :=
  (ofText "MATCH (n \x7bid: $id\x7d) RETURN n LIMIT 1").given "id" (.text id)

/-- One node that a filter lets through. -/
def firstMatching (compile : FilterCompiler) (filter : Json) : Except Error Statement := do
  return { text := "MATCH (n)" ++ (← compile.condition filter "n") ++ " RETURN n LIMIT 1" }

/-- Nodes that a filter lets through, at most an amount, which must be positive. -/
def matching (compile : FilterCompiler) (filter : Json) (amount : Int64) : Except Error Statement :=
  if amount ≤ 0 then .error (.invalidInput (.nodeAmount amount))
  else do
    return { text := "MATCH (n)" ++ (← compile.condition filter "n") ++ " RETURN n" ++
      limitSuffix amount }

/-- Nodes with a label, at most an amount. -/
def labeled (label : String) (amount : Int64) : Statement :=
  { text := "MATCH (n" ++ labelSuffix label ++ ") RETURN n" ++ limitSuffix amount }

/-- Counts the nodes that a filter lets through. -/
def count (compile : FilterCompiler) (filter : Json) : Except Error Statement := do
  return { text := "MATCH (n)" ++ (← compile.condition filter "n") ++ " RETURN count(n) AS count" }

/-- Creates a node with labels and stored properties. -/
def create (labels : List String) (data : Properties) : Statement :=
  (ofText ("CREATE (n" ++ labelSuffixes labels ++ ") SET n = $data")).given
    "data" (.ofProperties data)

/-- Replaces the stored properties of the node with an id, and adds labels to it. -/
def update (id : String) (labels : List String) (data : Properties) : Statement :=
  let relabel := if labels.isEmpty then "" else " SET n" ++ labelSuffixes labels
  ((ofText ("MATCH (n \x7bid: $id\x7d) SET n = $data" ++ relabel ++ " RETURN n")).given
    "id" (.text id)).given "data" (.ofProperties data)

/-- Deletes the node with an id, with its relationships. -/
def delete (id : String) : Statement :=
  (ofText "MATCH (n \x7bid: $id\x7d) DETACH DELETE n").given "id" (.text id)

/-- Deletes the nodes that a filter lets through, with their relationships. -/
def deleteMatching (compile : FilterCompiler) (filter : Json) : Except Error Statement := do
  return { text := "MATCH (n)" ++ (← compile.condition filter "n") ++ " DETACH DELETE n" }

end GraphGateway.NodeStatement
