import ScriptBridge.Async.Service
import ScriptBridge.Bridge.Display
import ScriptBridge.Bridge.Units
import ScriptBridge.CommandLine.Invocation
import ScriptBridge.Repl.Entry
import ScriptBridge.Terminal.Workbench

/-!
# The interactive session

The session evaluates entries and shows their values.  Async calls for functions that are built in
are served at once; the others are held until a command settles them.  `Repl.feed` takes one line
of input, `Repl.finish` the end of the input; both leave what they write in the lines of the
session.
-/

namespace ScriptBridge

/-- An interactive session. -/
structure Repl where
  bench : Workbench
  /-- The requests that wait for commands. -/
  held : List AsyncRequest := []
  /-- The lines of an entry that is not complete. -/
  unfinished : String := ""

/-- How files are read: the bytes of a file, or the reason why there are none. -/
abbrev FileReader := String → Except String (List UInt8)

/-- Reads a file as text. -/
def FileReader.text (read : FileReader) (path : String) : Except String String := do
  match Utf8.decode? (← read path) with
  | some s => return s
  | none => throw "stream did not contain valid UTF-8"

/-- Work in a session. -/
abbrev ReplM := StateM Repl

/-- Why a result is missing: an error of the bridge, or something outside of it. -/
inductive CommandError
  | bridge (e : BridgeError)
  | message (text : String)

/-- The lines that show an error. -/
def CommandError.report : CommandError → List String
  | .bridge e => e.report
  | .message text => [WorkM.errorLine text]

namespace ReplM

/-- Does work at the bench of the session. -/
def atBench {α : Type} (p : WorkM α) : ReplM α :=
  modifyGet fun r =>
    let (a, bench) := p.run r.bench
    (a, { r with bench })

/-- Writes a line. -/
def say (text : String) : ReplM Unit := atBench (WorkM.say text)

/-- Writes a line to the stream of errors. -/
def complain (text : String) : ReplM Unit := atBench (WorkM.complain text)

/-- Runs an operation on the bridge. -/
def onBridge {α : Type} (p : BridgeM α) : ReplM (Except BridgeError α) := atBench (WorkM.onBridge p)

/-! ### Requests -/

/-- Holds a request for commands. -/
def hold (r : AsyncRequest) : ReplM Unit :=
  modify fun s => { s with held := s.held.filter (fun h => h.id ≠ r.id) ++ [r] }

/-- Serves the requests for functions that are built in, and holds the others. -/
def serve : ReplM Unit := do
  match ← onBridge (BridgeM.serve .hold) with
  | .ok held =>
    for r in held do
      let name := r.functionName?.getD "<no function_name>"
      say (Style.yellow.paint "pending" ++ " " ++ callIdText r.id ++ " " ++ Style.dimmed.paint name)
      hold r
  | .error e => complain (WorkM.errorLine e.message)
  discard (atBench WorkM.reportFailures)

/-- Ends a call. -/
def complete (id : Nat) (outcome : CallOutcome) : ReplM Unit := do
  match ← onBridge (BridgeM.completeCall id outcome) with
  | .ok done =>
    modify fun s => { s with held := s.held.filter fun h => h.id ≠ id }
    say (Style.dimmed.paint done.text)
    serve
  | .error e => atBench (WorkM.complainAll e.report)

/-- Lists the calls that have not ended. -/
def listPending : ReplM Unit := do
  let s ← get
  match s.bench.bridge.ledger.pendingIds with
  | [] => say (Style.dimmed.paint "no pending calls")
  | ids =>
    for id in ids do
      let payload := ((s.held.find? fun r => r.id == id).map (·.payload.compact)).getD ""
      say ("  " ++ Style.yellow.paint (callIdText id) ++ " " ++ Style.dimmed.paint payload)

/-! ### Results -/

/-- Shows a result, and lets go of it. -/
def showResult : Except CommandError Handle → ReplM Unit
  | .ok h => do
    match ← onBridge (BridgeM.formatValue h) with
    | .ok text => say text
    | .error e => atBench (WorkM.complainAll e.report)
    discard (onBridge (BridgeM.release h))
  | .error e => atBench (WorkM.complainAll e.report)

/-- Serves the requests that an evaluation made, and shows its result. -/
def settle (result : Except CommandError Handle) : ReplM Unit := do
  serve
  showResult result

/-- The name that entries have as files. -/
def entryName : String := "<repl>"

/-- Evaluates an entry. -/
def evaluate (text : String) : ReplM Unit := do
  let result ← onBridge (BridgeM.evalSource entryName text false)
  settle (result.mapError .bridge)

/-! ### Files -/

/-- What follows the last dot in the last part of a path, if something stands before the dot. -/
def extension? (path : String) : Option String :=
  let parts := (path.splitOn "/").filter fun p => p ≠ "" ∧ p ≠ "."
  match parts.getLast? with
  | none | some ".." => none
  | some name =>
    let reversed := name.toList.reverse
    let tail := reversed.takeWhile (· ≠ '.')
    let stem := (reversed.dropWhile (· ≠ '.')).drop 1
    if stem.isEmpty then none else some (String.ofList tail.reverse)

/-- Loads a blob, as its header says. -/
def loadBlob (blob : List UInt8) : BridgeM Handle := do
  match CompiledUnit.inspect blob with
  | .error e => throw e
  | .ok header =>
    match header.kind with
    | .module => BridgeM.loadBlob blob
    | .script => BridgeM.evalBlob blob

/-- Loads a file: a blob, or a source text, which is a module if its extension says so. -/
def load (read : FileReader) (path : String) : ReplM Unit := do
  let result : Except CommandError Handle ←
    if extension? path == some "qjsb" then
      match read path with
      | .error reason => pure (.error (.message reason))
      | .ok blob => (·.mapError .bridge) <$> onBridge (loadBlob blob)
    else
      match read.text path with
      | .error reason => pure (.error (.message s!"failed to read {path}: {reason}"))
      | .ok source =>
        (·.mapError .bridge) <$>
          onBridge (BridgeM.evalSource path source (extension? path == some "mjs"))
  settle result

/-! ### Commands -/

/-- Says how a command is used. -/
def usage (text : String) : ReplM Unit :=
  complain (Style.dimmed.paint "usage:" ++ " " ++ Style.cyan.paint text)

/-- The width of the first column of the help. -/
def helpColumn : Nat := 24

/-- One line of the help. -/
def helpLine (style : Style) (item : String × String) : String :=
  "  " ++ style.paint (padRight helpColumn item.1) ++ " " ++ Style.dimmed.paint item.2

/-- The functions that are built in, and what becomes of the others. -/
def builtins : List (String × String) := [
  ("echo", "resolves with the payload"),
  ("sleep", "waits \x60duration\x60 ms, then resolves"),
  ("anything else", "stays pending for .resolve / .reject")]

/-- Writes the help. -/
def help : ReplM Unit := do
  say ""
  say (WorkM.heading .white "REPL Commands:")
  say ""
  for c in ReplCommand.all do say (helpLine .cyan c)
  say ""
  say (WorkM.heading .white "Async host calls:")
  say ""
  for b in builtins do say (helpLine .yellow b)
  say ""

/-- The value that the text behind a call id writes; nothing stands for null. -/
def operand (text : String) : Except Json.Error Json :=
  if text.isEmpty then .ok .null else Json.read text

/-- Ends a call with a value. -/
def resolve (arg : Option String) : ReplM Unit := do
  match CallArgs.read arg with
  | .error f =>
    complain (WorkM.errorLine f.message)
    usage ".resolve <id> [json]"
  | .ok args =>
    match operand args.rest with
    | .ok value => complete args.id (.resolveJson value)
    | .error e => complain (WorkM.errorLine s!"invalid JSON: {e.message}")

/-- Ends a call with an error. -/
def reject (arg : Option String) : ReplM Unit := do
  match CallArgs.read arg with
  | .error f =>
    complain (WorkM.errorLine f.message)
    usage ".reject <id> <message>"
  | .ok args =>
    complete args.id (.reject (if args.rest.isEmpty then "rejected" else args.rest))

/-- Lists the modules that were loaded. -/
def listModules : ReplM Unit := do
  match (← get).bench.bridge.modules.names with
  | [] => say (Style.dimmed.paint "no modules loaded")
  | names => for name in names do say ("  " ++ Style.cyan.paint name)

/-- Runs a command: whether the session goes on. -/
def execute (read : FileReader) : ReplCommand → Option String → ReplM Bool
  | .exit, _ => return false
  | .help, _ => do help; return true
  | .load, some path => do load read path; return true
  | .load, none => do usage ".load <file>"; return true
  | .pending, _ => do listPending; return true
  | .resolve, arg => do resolve arg; return true
  | .reject, arg => do reject arg; return true
  | .modules, _ => do listModules; return true

/-- Takes an entry: whether the session goes on. -/
def enter (read : FileReader) (entry : String) : ReplM Bool := do
  let text := Text.trim entry
  if text.isEmpty then return true
  if !text.startsWith "." then
    evaluate text
    return true
  match ReplCommand.read text with
  | some (c, arg) => execute read c arg
  | none =>
    complain (WorkM.errorLine
      ("unknown command " ++ Style.cyan.paint text ++ " (try " ++ Style.cyan.paint ".help" ++ ")"))
    return true

/-- Says how many calls are left. -/
def leave : ReplM Unit := do
  let count := (← get).held.length
  if count ≠ 0 then
    say (Style.yellow.paint "note:" ++ s!" {count} async call(s) left pending")

end ReplM

namespace Repl

/-- The lines that a session starts with. -/
def banner : List String := [
  "",
  "  " ++ WorkM.heading .brightCyan CommandLine.programName ++ " " ++
    Style.brightYellow.paint CommandLine.version,
  "  " ++ Style.dimmed.paint engineTag,
  "  " ++ Style.dimmed.paint "Type" ++ " " ++ Style.cyan.paint ".help" ++ " " ++
    Style.dimmed.paint "for available commands",
  ""]

/-- A new session over a bridge. -/
def start (b : Bridge) : Repl := { bench := { bridge := b, lines := (banner.map .out).toArray } }

/-- Takes a line of input: whether the session goes on. -/
def feed (read : FileReader) (line : String) (r : Repl) : Bool × Repl :=
  match Entry.feed r.unfinished line with
  | .error unfinished => (true, { r with unfinished })
  | .ok entry =>
    ((do
      if ← ReplM.enter read entry then return true
      ReplM.leave
      return false : ReplM Bool).run { r with unfinished := "" })

/-- Takes the end of the input; an entry that is not complete is dropped. -/
def finish (r : Repl) : Repl :=
  ((do
    ReplM.say (Style.dimmed.paint "^D")
    ReplM.leave : ReplM Unit).run r).2

/-- Takes the lines of the whole input. -/
def feedAll (read : FileReader) : List String → Repl → Repl
  | [], r => r.finish
  | line :: rest, r =>
    match r.feed read line with
    | (true, r) => feedAll read rest r
    | (false, r) => r

/-- The lines that were written, and the session without them. -/
def takeLines (r : Repl) : List OutputLine × Repl :=
  (r.bench.lines.toList, { r with bench := { r.bench with lines := #[] } })

/-- The file that a line of input will load. -/
def input? (r : Repl) (line : String) : Option String :=
  match Entry.feed r.unfinished line with
  | .error _ => none
  | .ok entry =>
    match ReplCommand.read entry with
    | some (.load, path) => path
    | _ => none

end Repl

end ScriptBridge
