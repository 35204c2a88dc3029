import GraphGateway.Json.Text
import GraphGateway.Statement.Basic
import GraphGateway.Text.Blank

/-!
# Filters

A filter is a JSON document that a filter compiler turns into a constraint on a variable. Null and
the empty object let everything through and are never compiled.
-/

namespace GraphGateway

/-- Turns a filter into a constraint on a variable, or says why it has none. -/
abbrev FilterCompiler := Json → String → Except String String

/-- Whether a filter lets everything through. -/
def Json.isEmptyFilter : Json → Bool
  | .null => true
  | .object members => members.isEmpty
  | _ => false

namespace FilterCompiler

/-- The condition of a filter on a variable, or nothing where there is no constraint. -/
def condition (compile : FilterCompiler) (filter : Json) (target : String) :
    Except Error String :=
  if filter.isEmptyFilter then .ok ""
  else match compile filter target with
    | .error message => .error (.filter message)
    | .ok constraint =>
      .ok (if Text.isBlankText constraint then "" else " WHERE " ++ constraint)

/-- The compiler that reads an object as a conjunction of equalities between properties and values,
in the order of the keys. -/
def equalities : FilterCompiler
  | .object members, target =>
    .ok (" AND ".intercalate (members.map fun member =>
      target ++ "." ++ member.1 ++ " = " ++ member.2.compact))
  | _, _ => .error "expected an object"

end FilterCompiler

end GraphGateway
