import GraphGateway.Statement.Filter

/-!
# Statements on edges

Statements that return edges return each with the two nodes at its ends.
-/

namespace GraphGateway.EdgeStatement

open Statement

/-- Counts the edges with an id. -/
def presence (id : String) : Statement :=
  (ofText "MATCH ()-[e \x7bid: $id\x7d]->() RETURN count(e) AS count").given
    "id" (.text id)

/-- The edge with an id. -/
def byId (id : String) : Statement :=
  (ofText "MATCH (u)-[e \x7bid: $id\x7d]->(v) RETURN u, e, v LIMIT 1").given
    "id" (.text id)

/-- An edge from one node to another, perhaps only of a type. -/
def between (source target : String) (type? : Option String) : Statement :=
  ((ofText ("MATCH (u \x7bid: $sourceId\x7d) MATCH (v \x7bid: $targetId\x7d) MATCH (u)-[e" ++
      labelSuffix? type? ++ "]->(v) RETURN u, e, v LIMIT 1")).given
    "sourceId" (.text source)).given "targetId" (.text target)

/-- Edges of a type, at most an amount. -/
def labeled (type : String) (amount : Int64) : Statement :=
  { text := "MATCH (u)-[e" ++ labelSuffix type ++ "]->(v) RETURN u, e, v" ++ limitSuffix amount }

/-- Edges that a filter lets through, at most an amount, which must be positive. -/
def matching (compile : FilterCompiler) (filter : Json) (amount : Int64) : Except Error Statement :=
  if amount ≤ 0 then .error (.invalidInput (.edgeAmount amount))
  else do
    return { text := "MATCH (u)-[e]->(v)" ++ (← compile.condition filter "e") ++
      " RETURN u, e, v" ++ limitSuffix amount }

/-- Counts the edges that a filter lets through. -/
def count (compile : FilterCompiler) (filter : Json) : Except Error Statement := do
  return { text := "MATCH ()-[e]->()" ++ (← compile.condition filter "e") ++
    " RETURN count(e) AS count" }

/-- Creates an edge of a type between two nodes, with stored properties. -/
def create (source target type : String) (data : Properties) : Statement :=
  (((ofText ("MATCH (u \x7bid: $sourceId\x7d) MATCH (v \x7bid: $targetId\x7d) CREATE (u)-[e" ++
      labelSuffix type ++ "]->(v) SET e = $data RETURN u, e, v")).given
    "sourceId" (.text source)).given "targetId" (.text target)).given "data" (.ofProperties data)

/-- Replaces the stored properties of the edge with an id, perhaps only if it is of a type. -/
def update (id : String) (type? : Option String) (data : Properties) : Statement :=
  ((ofText ("MATCH (u)-[e" ++ labelSuffix? type? ++
      " \x7bid: $id\x7d]->(v) SET e = $data RETURN u, e, v")).given
    "id" (.text id)).given "data" (.ofProperties data)

/-- Deletes the edge with an id. -/
def delete (id : String) : Statement :=
  (ofText "MATCH ()-[e \x7bid: $id\x7d]->() DELETE e").given "id" (.text id)

end GraphGateway.EdgeStatement
