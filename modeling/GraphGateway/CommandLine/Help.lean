import GraphGateway.CommandLine.Arguments

/-!
# Help texts

What the program says about itself and its commands: a purpose, the form of a call, and lists of
commands, arguments and options in two columns.
-/

namespace GraphGateway.CommandLine

/-- A help text: sections under a heading, each with lines of a left and a right part. -/
structure Help where
  purpose : String
  usage : String
  sections : List (String × List (String × String))

namespace Help

/-- A section: the right parts of its lines stand in one column. -/
def renderSection (heading : String) (lines : List (String × String)) : String :=
  let column := lines.foldl (fun column line => max column line.1.length) 0
  "\n" ++ heading ++ ":\n" ++ String.join (lines.map fun (left, right) =>
    "  " ++ left ++ String.ofList (List.replicate (column - left.length) ' ') ++ "  " ++ right ++
      "\n")

/-- The whole text. -/
def render (help : Help) : String :=
  help.purpose ++ "\n\nUsage: cypher-bridge " ++ help.usage ++ "\n" ++
    String.join (help.sections.map fun (heading, lines) => renderSection heading lines)

/-- The options that are known everywhere, with those of a command among them. The path of the
settings that the environment names is shown. -/
def options (environment? : Option String) (others : List (String × String)) :
    String × List (String × String) :=
  ("Options",
    [("    --config <CONFIG>",
      "Adapter configuration file (YAML) [env: CYPHER_BRIDGE_CONFIG=" ++ environment?.getD "" ++
        "]")] ++ others ++
    [("    --format <FORMAT>",
      "Output format [default: table] [possible values: table, json, csv]"),
    ("-h, --help", "Print help")])

/-- Help on the program. -/
def program (environment? : Option String) : Help where
  purpose := "Cypher Bridge CLI"
  usage := "[OPTIONS] <COMMAND>"
  sections :=
    let (heading, lines) := options environment? []
    [("Commands",
      [("compile", "Compile a path pattern to Cypher"),
      ("explain", "Show how each token of a pattern compiles"),
      ("config", "Print the effective configuration, password redacted"),
      ("help", "Print this message or the help of the given subcommand(s)")]),
    (heading, lines ++ [("-V, --version", "Print version")])]

/-- Help on the help command. -/
def helpCommand : Help where
  purpose := "Print this message or the help of the given subcommand(s)"
  usage := "help [COMMAND]..."
  sections := [("Arguments", [("[COMMAND]...", "Print help for the subcommand(s)")])]

/-- Help on a command. -/
def ofCommand (environment? : Option String) : CommandName → Help
  | .compile => {
      purpose := "Compile a path pattern to Cypher"
      usage := "compile [OPTIONS] <TOKENS>..."
      sections := [
        ("Arguments", [("<TOKENS>...", "Alternating node and edge selectors, `*` for any")]),
        options environment?
          [("    --limit <LIMIT>", "Result cap (defaults to the configured limit)")]] }
  | .explain => {
      purpose := "Show how each token of a pattern compiles"
      usage := "explain [OPTIONS] <TOKENS>..."
      sections := [("Arguments", [("<TOKENS>...", "")]), options environment? []] }
  | .config => {
      purpose := "Print the effective configuration, password redacted"
      usage := "config [OPTIONS]"
      sections := [options environment? []] }

/-- Help on a topic. -/
def ofTopic (environment? : Option String) : HelpTopic → Help
  | .program => program environment?
  | .command name => ofCommand environment? name
  | .help => helpCommand

end Help

/-- What is said where the arguments make no sense. -/
def misuseNote : String :=
  "Usage: cypher-bridge " ++ (Help.program none).usage ++
    "\n\nFor more information, try '--help'.\n"

end GraphGateway.CommandLine
