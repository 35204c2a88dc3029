import GraphGateway.Datum.Basic
import GraphGateway.Error
import GraphGateway.Identifier

/-!
# Statements

A statement is a text of the query language with its parameters. Values travel as parameters, never
in the text; labels, types and property names cannot be parameters and are written as identifiers.
-/

namespace GraphGateway

/-- A statement: its text, and the values of the parameters that the text refers to. -/
structure Statement where
  text : String
  params : Properties := {}

namespace Statement

/-- The statement of a text that refers to no parameters. -/
def ofText (text : String) : Statement := { text }

/-- The statement with a value for a parameter. -/
def given (statement : Statement) (name : String) (value : Datum) : Statement :=
  { statement with params := statement.params.insert name value }

/-- A label or type where it is written behind a colon. -/
def labelSuffix (label : String) : String := ":" ++ Identifier.quote label

/-- A label or type behind a colon, or nothing. -/
def labelSuffix? (label? : Option String) : String :=
  match label? with
  | some label => labelSuffix label
  | none => ""

/-- Several labels, each behind a colon. -/
def labelSuffixes (labels : List String) : String := String.join (labels.map labelSuffix)

/-- The end of a statement that returns at most an amount of rows. -/
def limitSuffix (amount : Int64) : String := " LIMIT " ++ toString amount.toInt

end Statement

/-!
## The columns that statements return
-/

namespace Column

/-- The column of nodes. -/
def node : String := "n"

/-- The column of a count. -/
def count : String := "count"

/-- The column of the node that an edge comes from. -/
def source : String := "u"

/-- The column of an edge. -/
def edge : String := "e"

/-- The column of the node that an edge goes to. -/
def target : String := "v"

/-- The column of a node label. -/
def label : String := "label"

/-- The column of a relationship type. -/
def relationshipType : String := "relationshipType"

end Column

end GraphGateway
