import GraphGateway.CommandLine.Csv
import GraphGateway.CommandLine.Grid
import GraphGateway.CommandLine.Help
import GraphGateway.Json.Text
import GraphGateway.Pattern.Query
import GraphGateway.Settings.Yaml

/-!
# The command line

What the program prints for its arguments. Patterns are compiled and explained and settings shown
without any store.
-/

namespace GraphGateway

/-- The version of this library. -/
def version : String := "0.3.0"

namespace CommandLine

/-- What a run leaves behind: an exit code and what it printed. -/
structure Outcome where
  exitCode : UInt32 := 0
  output : String := ""
  errors : String := ""
  deriving DecidableEq

/-- The outcome of a failure. -/
def failure (message : String) : Outcome where
  exitCode := 1
  errors := "Error: " ++ message ++ "\n"

/-- The summary of a query as JSON. -/
def queryJson (query : PathQuery) : Json :=
  .ofMembers [
    ("query", .string query.text),
    ("limit", .integer query.limit.toInt),
    ("shape", .string query.shape.name),
    ("column", .string query.column),
    ("nodeSteps", .integer query.nodeSteps),
    ("edgeSteps", .integer query.edgeSteps),
    ("exhausted", .bool query.isExhausted)]

/-- The summary of a query as records. -/
def queryRecords (query : PathQuery) : List (List String) :=
  [["query", "limit", "shape"], [query.text, toString query.limit.toInt, query.shape.name]]

/-- Prints a query. A table is the text alone, with a note where the limit lets nothing through. -/
def printQuery (format : Format) (query : PathQuery) : Outcome :=
  match format with
  | .json => { output := (queryJson query).pretty ++ "\n" }
  | .csv => { output := Csv.render (queryRecords query) }
  | .table =>
    { output := query.text ++ "\n"
      errors :=
        if query.isExhausted then
          "(limit " ++ toString query.limit.toInt ++
            " returns nothing; the adapter will not run this query)\n"
        else "" }

/-- The steps of a pattern, each with its position, its token, its role and its text. -/
def stepRows (pattern : Pattern) : List (Nat × String × String × String) :=
  pattern.steps.zipIdx.map fun ((kind, selector), position) =>
    (position, selector.token, kind.name, kind.fragment selector)

/-- The steps of a pattern as JSON. -/
def stepsJson (pattern : Pattern) : Json :=
  .array <| (stepRows pattern).map fun (position, token, role, fragment) =>
    .ofMembers [("position", .integer position), ("token", .string token),
      ("role", .string role), ("fragment", .string fragment)]

/-- The cells of the steps of a pattern. -/
def stepCells (pattern : Pattern) : List (List String) :=
  (stepRows pattern).map fun (position, token, role, fragment) =>
    [toString position, token, role, fragment]

/-- Prints the steps of a pattern. -/
def printSteps (format : Format) (pattern : Pattern) : Outcome :=
  match format with
  | .json => { output := (stepsJson pattern).pretty ++ "\n" }
  | .csv =>
    { output := Csv.render (["position", "token", "role", "fragment"] :: stepCells pattern) }
  | .table =>
    { output := Grid.render ⟨["#", "Token", "Role", "Fragment"], stepCells pattern⟩ ++
        toString pattern.nodeSteps ++ " node step(s), " ++ toString pattern.edgeSteps ++
        " edge step(s)\n" }

/-- Prints settings, the password hidden. -/
def printSettings (format : Format) (settings : Settings) : Outcome :=
  match format with
  | .json => { output := settings.redacted.toJson.pretty ++ "\n" }
  | _ => { output := settings.redacted.toYaml ++ "# uri: " ++ settings.uri ++ "\n" }

/-- Runs a command with settings. -/
def Command.run (format : Format) (settings : Settings) : Command → Outcome
  | .compile tokens limit? =>
    match PathQuery.ofTokens tokens (limit?.getD settings.defaultLimit) with
    | .ok query => printQuery format query
    | .error error => failure error.message
  | .explain tokens =>
    match Pattern.parse tokens with
    | .ok pattern => printSteps format pattern
    | .error error => failure error.message
  | .config => printSettings format settings

/-- Serves a request. `load` reads the settings at a path; they are read before the command runs. -/
def Request.serve (load : String → Except SettingsError Settings) : Request → Outcome
  | .misuse => { exitCode := 2, errors := misuseNote }
  | .showHelp environment? topic => { output := (Help.ofTopic environment? topic).render }
  | .showVersion => { output := "cypher-bridge " ++ version ++ "\n" }
  | .run configPath? format command =>
    match configPath?.mapM load with
    | .error error => failure error.message
    | .ok settings? => command.run format (settings?.getD {})

end CommandLine

end GraphGateway
