import GraphGateway.Settings.Basic
import GraphGateway.Text.Blank
import GraphGateway.Yaml.Lexer
import GraphGateway.Yaml.Node
import GraphGateway.Yaml.Written

/-!
# Settings in YAML

Settings are read from a YAML mapping of some of their fields and written as a mapping of all of
them. Unknown fields are passed over; a field may stand only once. A blank text and a document
without content leave every default in place.
-/

namespace GraphGateway

/-- Why settings cannot be read. -/
inductive SettingsError where
  /-- The file cannot be read; the reason is the system's. -/
  | unreadable (reason : String)
  /-- The text is not a YAML document of settings. -/
  | invalid (fault : Yaml.Fault)
  deriving DecidableEq, Repr

/-- The wording of an error. -/
def SettingsError.message : SettingsError → String
  | unreadable reason => "Cannot read configuration: " ++ reason
  | invalid fault => "Invalid configuration: " ++ fault.message

/-- The system's reason for a file that is not there. -/
def noSuchFile : String := "No such file or directory (os error 2)"

/-- The system's reason for a file that is not encoded text. -/
def notEncodedText : String := "stream did not contain valid UTF-8"

namespace Settings

open Yaml (Fault Scalar Document)

/-- The tag of integers. -/
def integerTag : Yaml.Tag := .ofText "tag:yaml.org,2002:int"

/-- The tag of null. -/
def nullTag : Yaml.Tag := .ofText "tag:yaml.org,2002:null"

/-- The text that a node writes. -/
def textOf (document : Document) (node : Yaml.Node) : Except Fault String :=
  match document.scalar? node with
  | some scalar => .ok scalar.text
  | none => .error .notAScalar

/-- The text of a scalar that may write an integer: a plain one, or a literal block tagged so. -/
def numeral? (scalar : Scalar) : Option (List Char) :=
  if scalar.style = .plain || (scalar.style = .literal && scalar.tag? = some integerTag) then
    some scalar.text.toList
  else none

/-- The integer that a node writes, if it lies in a range. -/
def integerOf (document : Document) (read : List Char → Option Int) (low high : Int)
    (node : Yaml.Node) : Except Fault Int :=
  match (document.scalar? node).bind numeral? |>.bind read with
  | some n => if low ≤ n && n ≤ high then .ok n else .error .outOfRange
  | none => .error .notAnInteger

/-- The text that a node writes, or nothing where it writes null. -/
def textOrNullOf (document : Document) (node : Yaml.Node) : Except Fault (Option String) :=
  match document.scalar? node with
  | none => .error .notAScalar
  | some scalar =>
    if scalar.style ≠ .plain then .ok (some scalar.text)
    else match scalar.tag? with
      | some tag =>
        if tag ≠ nullTag then .ok (some scalar.text)
        else if Yaml.isNull scalar.text then .ok none
        else .error .notNull
      | none =>
        .ok (if scalar.text.isEmpty || Yaml.isNull scalar.text then none else some scalar.text)

/-- The settings with one field taken from a document. -/
def setField (document : Document) (settings : Settings) (name : String) (value : Yaml.Node) :
    Except Fault Settings := do
  match name with
  | "protocol" => return { settings with protocol := ← textOf document value }
  | "host" => return { settings with host := ← textOf document value }
  | "port" =>
    let port ← integerOf document (fun text => (Yaml.natural? text).map (fun n => (n : Int)))
      0 65535 value
    return { settings with port := UInt16.ofNat port.toNat }
  | "username" => return { settings with username := ← textOf document value }
  | "password" => return { settings with password := ← textOf document value }
  | "database" => return { settings with database? := ← textOrNullOf document value }
  | "default_node_label" => return { settings with defaultNodeLabel := ← textOf document value }
  | "default_edge_label" => return { settings with defaultEdgeLabel := ← textOf document value }
  | "default_limit" =>
    let limit ← integerOf document Yaml.integer? Int64.minValue.toInt Int64.maxValue.toInt value
    return { settings with defaultLimit := Int64.ofInt limit }
  | _ => return settings

/-- The names of the fields, in the order in which they are written. -/
def fieldNames : List String :=
  ["protocol", "host", "port", "username", "password", "database", "default_node_label",
    "default_edge_label", "default_limit"]

/-- The settings with the fields of a mapping, one after the other. -/
def setFields (document : Document) (settings : Settings) (seen : List String) :
    List (Yaml.Node × Yaml.Node) → Except Fault Settings
  | [] => .ok settings
  | (key, value) :: rest => do
    let name ← textOf document key
    if seen.contains name && fieldNames.contains name then throw (.repeatedField name)
    setFields document (← setField document settings name value) (name :: seen) rest

/-- The settings in a document. A root without text, tagged or not, stands for no fields. -/
def ofDocument (document : Document) : Except Fault Settings :=
  match document.root with
  | .mapping entries => setFields document {} [] entries
  | .scalar { text := "", style := .plain, .. } => .ok {}
  | _ => .error .notAMapping

/-- The settings in a YAML text. -/
def ofYaml (text : String) : Except SettingsError Settings :=
  if Text.isBlankText text then .ok {}
  else
    let outcome : Except Fault Settings := do
      match ← Document.ofTokens? (← Yaml.tokens text) with
      | some document => ofDocument document
      | none => return {}
    outcome.mapError .invalid

/-- The settings in the bytes of a file. -/
def ofBytes (bytes : ByteArray) : Except SettingsError Settings :=
  match String.fromUTF8? bytes with
  | some text => ofYaml text
  | none => .error (.unreadable notEncodedText)

/-- The settings as a YAML mapping. -/
def toYaml (settings : Settings) : String :=
  let text (name value : String) : String := name ++ ": " ++ Yaml.writeValue value
  let plain (name value : String) : String := name ++ ": " ++ value ++ "\n"
  String.join [
    text "protocol" settings.protocol,
    text "host" settings.host,
    plain "port" (toString settings.port.toNat),
    text "username" settings.username,
    text "password" settings.password,
    match settings.database? with
    | some name => text "database" name
    | none => plain "database" "null",
    text "default_node_label" settings.defaultNodeLabel,
    text "default_edge_label" settings.defaultEdgeLabel,
    plain "default_limit" (toString settings.defaultLimit.toInt)]

end Settings

end GraphGateway
