/-!
# The arguments of the program

The options and subcommands of the program are a table of `Subcommand`s.  `Words.read` takes the
arguments apart by that table: it stops at the first argument that it cannot use, and at a request
for help or for the version.
-/

namespace ScriptBridge.CommandLine

/-- What stands behind an option. -/
inductive OptionKind
  | flag
  /-- One value, or, if the option repeats, one each time; paths must not be empty. -/
  | value (placeholder : String) (isPath repeats : Bool)
  | help
  | version
deriving DecidableEq, Repr

/-- An option of the program. -/
structure OptionSpec where
  /-- The name behind two dashes. -/
  name : String
  /-- The letter behind one dash. -/
  short : Option Char := none
  kind : OptionKind := .flag
  summary : String
deriving DecidableEq, Repr

/-- A positional argument, which is a path. -/
structure PositionalSpec where
  placeholder : String
  isRequired : Bool := true
  summary : String
deriving DecidableEq, Repr

/-- A subcommand, or the program itself, whose name is then empty. -/
structure Subcommand where
  name : String := ""
  summary : String
  positional : Option PositionalSpec := none
  /-- The options, in the order in which help lists them. -/
  options : List OptionSpec
  /-- The options that must be given. -/
  required : List String := []
  /-- The names of the subcommands that may follow. -/
  next : List String := []
deriving DecidableEq, Repr

/-- Why the arguments of the program start no command. -/
inductive Stop
  /-- They cannot be used. -/
  | usage
  /-- They ask for help on the program, or on a subcommand. -/
  | help (subcommand : String)
  | version
deriving DecidableEq, Repr

/-- What the arguments of one subcommand give. -/
structure Words where
  /-- The flags that were given, and the options with their values, the last one first. -/
  options : List (String × String) := []
  positional : Option String := none
deriving DecidableEq, Repr

namespace Words

/-- Whether an option was given. -/
def has (w : Words) (name : String) : Bool := w.options.any fun o => o.1 == name

/-- The value of an option. -/
def value? (w : Words) (name : String) : Option String := w.options.lookup name

/-- The values of an option that repeats, in order. -/
def values (w : Words) (name : String) : List String :=
  (w.options.reverse.filter fun o => o.1 == name).map (·.2)

/-- Notes an option with its value. -/
def give (w : Words) (o : OptionSpec) (value : String) : Except Stop Words :=
  let emptyPath := match o.kind with
    | .value _ isPath _ => isPath && value.isEmpty
    | _ => false
  let again := match o.kind with
    | .value _ _ repeats => !repeats && w.has o.name
    | _ => w.has o.name
  if emptyPath || again then .error .usage
  else .ok { w with options := (o.name, value) :: w.options }

/-- Notes a positional argument. -/
def place (spec : Subcommand) (w : Words) (value : String) : Except Stop Words :=
  if spec.positional.isNone || w.positional.isSome || value.isEmpty then .error .usage
  else .ok { w with positional := some value }

/-- Whether an argument starts an option, so that it is no value of the one before it. -/
def startsOption (arg : String) : Bool := arg.startsWith "-" && arg ≠ "-"

/-- Reads an option that has a name: with a value behind `=`, with a value to come, or alone. -/
def readLong (spec : Subcommand) (w : Words) (arg : List Char) :
    Except Stop (Words × Option OptionSpec) :=
  let name := String.ofList (arg.takeWhile (· ≠ '='))
  let tail := arg.dropWhile (· ≠ '=')
  match spec.options.find? fun o => o.name == name with
  | none => .error .usage
  | some o =>
    match o.kind, tail with
    | .flag, [] => (w.give o "").map fun w => (w, none)
    | .help, [] => .error (.help spec.name)
    | .version, [] => .error .version
    | .value .., [] => .ok (w, some o)
    | .value .., _ :: value => (w.give o (String.ofList value)).map fun w => (w, none)
    | _, _ :: _ => .error .usage

/-- Reads options that are letters: a value may follow the last one at once, perhaps behind `=`. -/
def readShort (spec : Subcommand) (w : Words) : List Char → Except Stop (Words × Option OptionSpec)
  | [] => .ok (w, none)
  | c :: rest =>
    match spec.options.find? fun o => o.short == some c with
    | none => .error .usage
    | some o =>
      match o.kind with
      | .help => .error (.help spec.name)
      | .version => .error .version
      | .flag =>
        match w.give o "" with
        | .ok w => readShort spec w rest
        | .error s => .error s
      | .value .. =>
        match rest with
        | [] => .ok (w, some o)
        | '=' :: value => (w.give o (String.ofList value)).map fun w => (w, none)
        | value => (w.give o (String.ofList value)).map fun w => (w, none)

/-- Reads what follows two dashes: only positional arguments. -/
def readPlain (spec : Subcommand) (w : Words) : List String → Except Stop Words
  | [] => .ok w
  | arg :: rest =>
    match place spec w arg with
    | .ok w => readPlain spec w rest
    | .error s => .error s

/-- Reads arguments up to the name of a subcommand: what they give, that name, and what follows it.
`due` is the option whose value is to come. -/
def read (spec : Subcommand) (w : Words) (due : Option OptionSpec) :
    List String → Except Stop (Words × Option (String × List String))
  | [] => if due.isSome then .error .usage else .ok (w, none)
  | arg :: rest =>
    match due with
    | some o =>
      if startsOption arg then .error .usage
      else
        match w.give o arg with
        | .ok w => read spec w none rest
        | .error s => .error s
    | none =>
      match arg.toList with
      | ['-', '-'] => (readPlain spec w rest).map fun w => (w, none)
      | '-' :: '-' :: name =>
        match readLong spec w name with
        | .ok (w, due) => read spec w due rest
        | .error s => .error s
      | '-' :: c :: letters =>
        match readShort spec w (c :: letters) with
        | .ok (w, due) => read spec w due rest
        | .error s => .error s
      | _ =>
        if !spec.next.isEmpty then
          if spec.next.contains arg then .ok (w, some (arg, rest)) else .error .usage
        else
          match place spec w arg with
          | .ok w => read spec w none rest
          | .error s => .error s

/-- Refuses to go on unless all that must be given is there. -/
def complete (spec : Subcommand) (w : Words) : Except Stop Words :=
  let lacksPositional := match spec.positional with
    | some p => p.isRequired && w.positional.isNone
    | none => false
  if lacksPositional || spec.required.any fun name => !w.has name then .error .usage else .ok w

end Words

end ScriptBridge.CommandLine
