import GraphGateway.Statement.Basic
import GraphGateway.Text.Blank
import GraphGateway.Text.Lowercase

/-!
# Searching nodes by text

A search asks for nodes that hold a term in one of several fields, whatever the case of either. The
term becomes a regular expression that matches every text with the term as a part; no character of
the term acts as an operator in it. The field named `labels` stands for the labels of the node.
-/

namespace GraphGateway.Statement

/-- The characters with a meaning of their own in a regular expression. -/
def patternOperators : List Char := "\\.+*?()|[]\x7b\x7d^$".toList

/-- The regular expression that matches exactly the given characters. -/
def literalPattern : List Char → List Char
  | [] => []
  | c :: rest =>
    if patternOperators.contains c then '\\' :: c :: literalPattern rest
    else c :: literalPattern rest

/-- The regular expression of a search: the trimmed term in lowercase, anywhere in a text that may
hold line breaks. -/
def searchPattern (term : String) : String :=
  "(?s).*" ++ String.ofList (literalPattern (Text.lower (Text.trim term)).toList) ++ ".*"

/-- The field that is searched when none is named. -/
def defaultSearchField : String := "name"

/-- The field that stands for the labels of a node. -/
def labelsField : String := "labels"

/-- The condition that one field holds the term. -/
def fieldCondition (field : String) : String :=
  if field = labelsField then "ANY(l IN labels(n) WHERE toLower(l) =~ $pattern)"
  else "toLower(toString(n." ++ Identifier.quote field ++ ")) =~ $pattern"

/-- The fields that a search looks into. -/
def searchFields (fields : List String) : List String :=
  if fields.isEmpty then [defaultSearchField] else fields

/-- Nodes that hold a term in one of the fields, perhaps only those with a label. -/
def searchNodes (term : String) (fields : List String) (label? : Option String) (amount : Int64) :
    Statement :=
  (ofText ("MATCH (n" ++ labelSuffix? label? ++ ") WHERE " ++
      " OR ".intercalate ((searchFields fields).map fieldCondition) ++ " RETURN n" ++
      limitSuffix amount)).given "pattern" (.text (searchPattern term))

end GraphGateway.Statement
