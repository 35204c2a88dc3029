import GraphGateway.Json.Basic
import GraphGateway.Text.Quoted

/-!
# Settings

Where the store is, how to connect to it, and what an operation takes when a label or limit is left
out. Every form that is shown to people hides the password.
-/

namespace GraphGateway

/-- The settings of a gateway, with their defaults. -/
structure Settings where
  protocol : String := "bolt"
  host : String := "localhost"
  port : UInt16 := 7687
  username : String := "neo4j"
  password : String := "123456789"
  database? : Option String := some "neo4j"
  defaultNodeLabel : String := "Thing"
  defaultEdgeLabel : String := "RelatedTo"
  defaultLimit : Int64 := 100
  deriving DecidableEq

/-- What is needed to open a connection. -/
structure Connection where
  uri : String
  database? : Option String
  username : String
  password : String
  deriving DecidableEq

/-- What is shown in place of a password. -/
def hiddenPassword : String := "********"

namespace Settings

/-- The address of the store. -/
def uri (settings : Settings) : String :=
  settings.protocol ++ "://" ++ settings.host ++ ":" ++ toString settings.port.toNat

/-- What is needed to open a connection. -/
def connection (settings : Settings) : Connection where
  uri := settings.uri
  database? := settings.database?
  username := settings.username
  password := settings.password

/-- The settings with the password hidden. -/
def redacted (settings : Settings) : Settings := { settings with password := hiddenPassword }

/-- The settings as a JSON object, password included. -/
def toJson (settings : Settings) : Json :=
  .ofMembers [
    ("protocol", .string settings.protocol),
    ("host", .string settings.host),
    ("port", .integer settings.port.toNat),
    ("username", .string settings.username),
    ("password", .string settings.password),
    ("database", match settings.database? with
      | some name => .string name
      | none => .null),
    ("default_node_label", .string settings.defaultNodeLabel),
    ("default_edge_label", .string settings.defaultEdgeLabel),
    ("default_limit", .integer settings.defaultLimit.toInt)]

end Settings

/-- A record on one line for people who debug: its name and its fields. -/
def debugRecord (name : String) (fields : List (String × String)) : String :=
  name ++ " \x7b " ++ ", ".intercalate (fields.map fun field => field.1 ++ ": " ++ field.2) ++
    " \x7d"

/-- The settings on one line, the password hidden. -/
def Settings.debug (settings : Settings) : String :=
  debugRecord "AdapterConfig" [
    ("protocol", Text.quoteDebug settings.protocol),
    ("host", Text.quoteDebug settings.host),
    ("port", toString settings.port.toNat),
    ("username", Text.quoteDebug settings.username),
    ("password", Text.quoteDebug hiddenPassword),
    ("database", Text.quoteDebugOption settings.database?),
    ("default_node_label", Text.quoteDebug settings.defaultNodeLabel),
    ("default_edge_label", Text.quoteDebug settings.defaultEdgeLabel),
    ("default_limit", toString settings.defaultLimit.toInt)]

/-- The connection on one line, the password hidden. -/
def Connection.debug (connection : Connection) : String :=
  debugRecord "ConnectionSettings" [
    ("uri", Text.quoteDebug connection.uri),
    ("database", Text.quoteDebugOption connection.database?),
    ("username", Text.quoteDebug connection.username),
    ("password", Text.quoteDebug hiddenPassword)]

end GraphGateway
