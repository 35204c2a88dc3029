import GraphGateway.Pattern.Query
import GraphGateway.Statement.Basic

/-!
# Statements on the graph as a whole
-/

namespace GraphGateway.GraphStatement

open Statement

/-- Runs a path query. -/
def path (query : PathQuery) : Statement := { text := query.text }

/-- A node with its parents and children, at most an amount of rows. -/
def neighborhood (id : String) (amount : Int64) : Statement :=
  (ofText ("MATCH (c \x7bid: $id\x7d) OPTIONAL MATCH (parent)-[pr]->(c) " ++
      "OPTIONAL MATCH (c)-[cr]->(child) RETURN parent, pr, c, cr, child" ++
      limitSuffix amount)).given "id" (.text id)

/-- The schema of the store. -/
def schema : Statement := { text := "CALL db.schema.visualization()" }

/-- The labels in use. -/
def nodeLabels : Statement := { text := "CALL db.labels()" }

/-- The relationship types in use. -/
def edgeLabels : Statement := { text := "CALL db.relationshipTypes()" }

/-- Deletes everything. -/
def clear : Statement := { text := "MATCH (n) DETACH DELETE n" }

end GraphGateway.GraphStatement
