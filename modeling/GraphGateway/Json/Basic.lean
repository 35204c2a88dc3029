import GraphGateway.Number.Binary64
import GraphGateway.SortedMap

/-!
# JSON documents

A document as a tree. Numbers keep the distinction between integers and double-precision numbers,
and objects are lists of members; `Json.ofMembers` puts members into the canonical form with each
key once and the keys in order.
-/

namespace GraphGateway

/-- A JSON document. -/
inductive Json where
  | null
  | bool (value : Bool)
  | integer (value : Int)
  | double (value : Binary64)
  | string (value : String)
  | array (items : List Json)
  | object (members : List (String × Json))
  deriving Inhabited, BEq

namespace Json

/-- An object with its keys in order; of two members with one key the later counts. -/
def ofMembers (members : List (String × Json)) : Json := object (SortedMap.ofList members).entries

/-- The object of a map. -/
def ofMap (map : SortedMap Json) : Json := object map.entries

/-- An array of strings. -/
def ofStrings (texts : List String) : Json := array (texts.map string)

/-- The member of an object under a key. -/
def member? (key : String) : Json → Option Json
  | object members => lookupEntry key members
  | _ => none

end Json

end GraphGateway
