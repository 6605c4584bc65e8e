import ScriptBridge.CommandLine.Option

/-!
# The commands of the program

The program compiles, runs and inspects units, and starts an interactive session.
`Request.read` says which of these the arguments ask for, and `helpText` is what it prints on a
request for help.
-/

namespace ScriptBridge.CommandLine

/-! ### The table of subcommands -/

/-- The option that names a file with settings. -/
def configOption : OptionSpec :=
  { name := "config", kind := .value "CONFIG" true false,
    summary := "Bridge configuration file (TOML)" }

/-- The option for more logging. -/
def verboseOption : OptionSpec := { name := "verbose", summary := "Enable verbose logging" }

/-- The option that marks a module. -/
def moduleOption (summary : String) : OptionSpec := { name := "module", summary }

/-- The option that asks for help. -/
def helpOption : OptionSpec :=
  { name := "help", short := some 'h', kind := .help, summary := "Print help" }

/-- Runs a source text. -/
def evalCommand : Subcommand where
  name := "eval"
  summary := "Evaluate a source file or inline code"
  positional := some
    { placeholder := "FILE", isRequired := false, summary := "Source file to evaluate" }
  options := [configOption,
    { name := "eval", short := some 'e', kind := .value "CODE" false false,
      summary := "Evaluate code from the command line" },
    moduleOption "Treat the source as a module", verboseOption, helpOption]

/-- Compiles a source text to a blob. -/
def compileCommand : Subcommand where
  name := "compile"
  summary := "Compile a source file into a bytecode blob"
  positional := some { placeholder := "FILE", summary := "Source file to compile" }
  options := [configOption,
    { name := "output", short := some 'o', kind := .value "OUTPUT" true false,
      summary := "Where to write the blob" },
    moduleOption "Compile as a module", verboseOption,
    { name := "name", kind := .value "NAME" false false,
      summary := "Unit name; defaults to the file path" },
    helpOption]
  required := ["output"]

/-- Runs a blob. -/
def runCommand : Subcommand where
  name := "run"
  summary := "Run a bytecode blob"
  positional := some { placeholder := "BLOB", summary := "Blob to run" }
  options := [
    { name := "call", kind := .value "CALL" false false,
      summary := "Function to call afterwards: a module export, or a global for scripts" },
    configOption,
    { name := "register", kind := .value "BLOB" true true,
      summary := "Module blob the run may import by name (repeatable)" },
    verboseOption, helpOption]

/-- Shows what a blob says of its unit. -/
def inspectCommand : Subcommand where
  name := "inspect"
  summary := "Print a blob's header"
  positional := some { placeholder := "BLOB", summary := "Blob to inspect" }
  options := [configOption, verboseOption, helpOption]

/-- Starts an interactive session. -/
def replCommand : Subcommand where
  name := "repl"
  summary := "Start the interactive REPL"
  options := [configOption, verboseOption, helpOption]

/-- Prints help. -/
def helpCommand : Subcommand where
  name := "help"
  summary := "Print this message or the help of the given subcommand(s)"
  options := []

/-- The subcommands. -/
def subcommands : List Subcommand :=
  [evalCommand, compileCommand, runCommand, inspectCommand, replCommand, helpCommand]

/-- The program as a whole. -/
def program : Subcommand where
  summary := "Compile, run and inspect QuickJS bytecode through the embedding bridge"
  options := [configOption, verboseOption, helpOption,
    { name := "version", short := some 'V', kind := .version, summary := "Print version" }]
  next := subcommands.map (·.name)

/-- The subcommand with a name. -/
def subcommand? (name : String) : Option Subcommand := subcommands.find? fun c => c.name == name

/-! ### What the arguments ask for -/

/-- A command of the program. -/
inductive Invocation
  | eval (file code : Option String) (isModule : Bool)
  | compile (file output : String) (isModule : Bool) (name : Option String)
  | run (blob : String) (call : Option String) (register : List String)
  | inspect (blob : String)
  | repl
deriving DecidableEq, Repr

/-- What the arguments ask for, and the file with settings, if one is named. -/
structure Request where
  config : Option String := none
  invocation : Invocation := .repl
deriving DecidableEq, Repr

namespace Request

/-- The command that a subcommand with its arguments is. -/
def invocationOf (name : String) (w : Words) : Except Stop Invocation :=
  match name, w.positional with
  | "eval", file =>
    if file.isSome && w.has "eval" then .error .usage
    else .ok (.eval file (w.value? "eval") (w.has "module"))
  | "compile", some file =>
    match w.value? "output" with
    | some output => .ok (.compile file output (w.has "module") (w.value? "name"))
    | none => .error .usage
  | "run", some blob => .ok (.run blob (w.value? "call") (w.values "register"))
  | "inspect", some blob => .ok (.inspect blob)
  | "repl", _ => .ok .repl
  | _, _ => .error .usage

/-- What help is asked for: on the program, or on the one subcommand that is named. -/
def readHelp : List String → Stop
  | [] => .help ""
  | [name] => if (subcommand? name).isSome then .help name else .usage
  | _ => .usage

/-- Reads the arguments of the program. -/
def read (args : List String) : Except Stop Request := do
  let (top, rest) ← Words.read program {} none args
  match rest with
  | none => return { config := top.value? "config" }
  | some ("help", names) => .error (readHelp names)
  | some (name, args) =>
    match subcommand? name with
    | none => .error .usage
    | some spec =>
      let (w, _) ← Words.read spec {} none args
      let w ← Words.complete spec w
      let invocation ← invocationOf name w
      return { config := (w.value? "config").or (top.value? "config"), invocation }

/-- The files that a request reads. -/
def inputs (r : Request) : List String :=
  r.config.toList ++
    match r.invocation with
    | .eval file _ _ => file.toList
    | .compile file _ _ _ => [file]
    | .run blob _ register => blob :: register
    | .inspect blob => [blob]
    | .repl => []

end Request

/-! ### Help -/

/-- The name of the program. -/
def programName : String := "qjsbridge"

/-- The version of the program. -/
def version : String := "0.1.0"

/-- How an option is written in help. -/
def OptionSpec.label (o : OptionSpec) : String :=
  let letter := match o.short with
    | some c => "-" ++ String.ofList [c] ++ ", "
    | none => "    "
  let value := match o.kind with
    | .value placeholder _ _ => " <" ++ placeholder ++ ">"
    | _ => ""
  letter ++ "--" ++ o.name ++ value

/-- How a positional argument is written in help. -/
def PositionalSpec.label (p : PositionalSpec) : String :=
  if p.isRequired then "<" ++ p.placeholder ++ ">" else "[" ++ p.placeholder ++ "]"

/-- Lines of labels and summaries, the summaries in one column. -/
def listing (items : List (String × String)) : List String :=
  let width := (items.map fun i => i.1.length).foldl max 0
  items.map fun i =>
    "  " ++ i.1 ++ String.ofList (List.replicate (width - i.1.length) ' ') ++ "  " ++ i.2

/-- How a subcommand is used. -/
def Subcommand.usageLine (c : Subcommand) : String :=
  let options := if c.options.isEmpty then [] else ["[OPTIONS]"]
  let required := c.required.filterMap fun name =>
    (c.options.find? fun o => o.name == name).map fun o =>
      "--" ++ o.name ++ match o.kind with
        | .value placeholder _ _ => " <" ++ placeholder ++ ">"
        | _ => ""
  let positional := (c.positional.map PositionalSpec.label).toList
  let next := if c.name = "help" then ["[COMMAND]..."]
    else if c.next.isEmpty then [] else ["[COMMAND]"]
  let name := if c.name.isEmpty then [programName] else [programName, c.name]
  "Usage: " ++ " ".intercalate (name ++ options ++ required ++ positional ++ next)

/-- The lines of the help on a subcommand. -/
def Subcommand.help (c : Subcommand) : List String :=
  let commands := if c.next.isEmpty then []
    else ["", "Commands:"] ++ listing (subcommands.map fun s => (s.name, s.summary))
  let arguments := match c.positional with
    | some p => ["", "Arguments:"] ++ listing [(p.label, p.summary)]
    | none => []
  let options := if c.options.isEmpty then []
    else ["", "Options:"] ++ listing (c.options.map fun o => (o.label, o.summary))
  [c.summary, "", c.usageLine] ++ commands ++ arguments ++ options

/-- The help on a subcommand, or on the program where the name is empty. -/
def helpText (name : String) : List String := ((subcommand? name).getD program).help

end ScriptBridge.CommandLine
