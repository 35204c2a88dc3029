/-!
# Command line arguments

Two options are known everywhere, `--config` and `--format`; what stands nearer to the command's own
arguments counts. A command takes one option more, or tokens, or neither. After `--` everything is a
token.
-/

namespace GraphGateway.CommandLine

/-- How results are printed. -/
inductive Format where
  | table
  | json
  | csv
  deriving DecidableEq, Repr

/-- What is to be done. -/
inductive Command where
  /-- Print the query of a pattern. -/
  | compile (tokens : List String) (limit? : Option Int64)
  /-- Print the steps of a pattern. -/
  | explain (tokens : List String)
  /-- Print the settings. -/
  | config
  deriving DecidableEq

/-- The options seen so far before the command, or behind it. -/
structure Options where
  config? : Option String := none
  format? : Option Format := none
  limit? : Option Int64 := none

/-- The names of the commands. -/
inductive CommandName where
  | compile
  | explain
  | config
  deriving DecidableEq, Repr

/-- What help is asked about. -/
inductive HelpTopic where
  | program
  | command (name : CommandName)
  /-- The command that prints help. -/
  | help
  deriving DecidableEq, Repr

/-- What the arguments ask for. Help tells which settings the environment names. -/
inductive Request where
  | run (configPath? : Option String) (format : Format) (command : Command)
  | showVersion
  | showHelp (environment? : Option String) (topic : HelpTopic)
  /-- The arguments make no sense. -/
  | misuse
  deriving DecidableEq

/-- The command of a name. -/
def CommandName.ofText? (text : String) : Option CommandName :=
  match text with
  | "compile" => some compile
  | "explain" => some explain
  | "config" => some config
  | _ => none

/-- Whether a command takes tokens. -/
def CommandName.takesTokens : CommandName → Bool
  | config => false
  | _ => true

/-- The format of a name. -/
def Format.ofText? (text : String) : Option Format :=
  match text with
  | "table" => some table
  | "json" => some json
  | "csv" => some csv
  | _ => none

/-- The 64-bit integer that a text writes in decimal digits, perhaps after a sign. -/
def limitOfText? (text : String) : Option Int64 :=
  let (negative, digits) := match text.toList with
    | '-' :: rest => (true, rest)
    | '+' :: rest => (false, rest)
    | rest => (false, rest)
  if digits.isEmpty || !digits.all Char.isDigit then none
  else
    let magnitude := digits.foldl (fun n c => 10 * n + (c.toNat - '0'.toNat)) 0
    let value : Int := if negative then -(magnitude : Int) else magnitude
    if Int64.minValue.toInt ≤ value ∧ value ≤ Int64.maxValue.toInt then some (Int64.ofInt value)
    else none

/-- An argument by its form. -/
inductive Argument where
  /-- Two hyphens by themselves. -/
  | separator
  /-- Two hyphens and a name, perhaps with a value behind an equals sign. -/
  | long (name : String) (value? : Option String)
  /-- A hyphen and letters. -/
  | short (letters : List Char)
  /-- Anything else. -/
  | word (text : String)
  deriving DecidableEq

/-- The form of an argument. -/
def Argument.ofText (text : String) : Argument :=
  match text.toList with
  | ['-', '-'] => separator
  | '-' :: '-' :: rest =>
    let name := String.ofList (rest.takeWhile (· ≠ '='))
    match rest.dropWhile (· ≠ '=') with
    | [] => long name none
    | _ :: value => long name (some (String.ofList value))
  | '-' :: c :: rest => short (c :: rest)
  | _ => word text

/-- Sets an option that is not set yet. Before a command there is no limit, and only one command
takes it. -/
def Options.set? (options : Options) (command? : Option CommandName) (name value : String) :
    Option Options :=
  match name with
  | "config" =>
    if options.config?.isSome || value.isEmpty then none
    else some { options with config? := some value }
  | "format" =>
    if options.format?.isSome then none
    else (Format.ofText? value).map fun format => { options with format? := some format }
  | "limit" =>
    if command? ≠ some .compile || options.limit?.isSome then none
    else (limitOfText? value).map fun limit => { options with limit? := some limit }
  | _ => none

/-- Whether an argument may be the value of an option behind it: a word, or a negative number where
the option is a limit. -/
def mayBeValue (name text : String) : Bool :=
  match Argument.ofText text with
  | .word _ => true
  | .short _ => name = "limit" && (limitOfText? text).isSome
  | _ => false

/-- An option before the command with its value in an argument of its own. It is looked at when the
next option is read or all arguments are, so that a command can explain itself behind a bad one. -/
abbrev Pending := Option (String × String)

/-- Sets an option that is still to be looked at. -/
def Options.setPending? (options : Options) : Pending → Option Options
  | some (name, value) => options.set? none name value
  | none => some options

/-- What the arguments behind a command come to. -/
inductive CommandArguments where
  | run (options : Options) (tokens : List String)
  | showHelp
  | misuse

/-- Reads the arguments behind a command. -/
def readCommand (command : CommandName) : Options → List String → List String → CommandArguments
  | options, tokens, [] => .run options tokens
  | options, tokens, text :: rest =>
    match Argument.ofText text with
    | .separator =>
      if command.takesTokens || rest.isEmpty then .run options (tokens ++ rest) else .misuse
    | .word token =>
      if command.takesTokens then readCommand command options (tokens ++ [token]) rest
      else .misuse
    | .short letters => if letters.head? = some 'h' then .showHelp else .misuse
    | .long "help" none => .showHelp
    | .long name (some value) =>
      match options.set? (some command) name value with
      | some options => readCommand command options tokens rest
      | none => .misuse
    | .long name none =>
      match rest with
      | value :: rest =>
        if mayBeValue name value then
          match options.set? (some command) name value with
          | some options => readCommand command options tokens rest
          | none => .misuse
        else .misuse
      | [] => .misuse

/-- The request of a command with what stands before it and behind it. An option behind the command
counts more than one before it, and both more than the environment. -/
def finish (environment? : Option String) (outer : Options) (pending : Pending)
    (command : CommandName) : CommandArguments → Request
  | .showHelp => .showHelp environment? (.command command)
  | .misuse => .misuse
  | .run inner tokens =>
    match outer.setPending? pending with
    | none => .misuse
    | some outer =>
      let config? := (inner.config?.orElse fun _ => outer.config?).orElse fun _ => environment?
      let format := (inner.format?.orElse fun _ => outer.format?).getD .table
      match command with
      | .config => .run config? format .config
      | .compile =>
        if tokens.isEmpty then .misuse else .run config? format (.compile tokens inner.limit?)
      | .explain => if tokens.isEmpty then .misuse else .run config? format (.explain tokens)

/-- What the arguments behind the help command ask help about: one topic at most. -/
def helpTopic? : List String → Option HelpTopic
  | [] => some .program
  | ["help"] => some .help
  | [name] => (CommandName.ofText? name).map .command
  | _ => none

/-- Whether an option may stand before the command with its value in an argument of its own. -/
def isSharedOption (name : String) : Bool := name = "config" || name = "format"

/-- Reads the arguments before the command. -/
def readArguments (environment? : Option String) : Options → Pending → List String → Request
  | _, _, [] => .misuse
  | options, pending, text :: rest =>
    match Argument.ofText text with
    | .separator => .misuse
    | .word "help" =>
      match helpTopic? rest with
      | some topic => .showHelp environment? topic
      | none => .misuse
    | .word name =>
      match CommandName.ofText? name with
      | some command =>
        finish environment? options pending command (readCommand command {} [] rest)
      | none => .misuse
    | argument =>
      match options.setPending? pending with
      | none => .misuse
      | some options =>
        match argument with
        | .short letters =>
          if letters.head? = some 'h' then .showHelp environment? .program
          else if letters.head? = some 'V' then .showVersion
          else .misuse
        | .long "help" none => .showHelp environment? .program
        | .long "version" none => .showVersion
        | .long name (some value) =>
          match options.set? none name value with
          | some options => readArguments environment? options none rest
          | none => .misuse
        | .long name none =>
          match rest with
          | value :: rest =>
            if isSharedOption name && mayBeValue name value then
              readArguments environment? options (some (name, value)) rest
            else .misuse
          | [] => .misuse
        | _ => .misuse

/-- What arguments ask for, given the path of the settings that the environment names. -/
def Request.parse (environment? : Option String) (arguments : List String) : Request :=
  readArguments environment? {} none arguments

end GraphGateway.CommandLine
