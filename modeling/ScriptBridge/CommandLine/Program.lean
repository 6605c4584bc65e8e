import ScriptBridge.Repl.Session

/-!
# Running the program

`Outcome.ofArgs` is the program as a function of its arguments, its environment and the files that
it reads.  It ends with lines and a code, or it wants to write a file first, or it starts an
interactive session, which then takes the input line by line.
-/

namespace ScriptBridge.CommandLine

/-- What the program comes to. -/
inductive Outcome
  | finished (lines : List OutputLine) (code : Nat)
  /-- A file is to be written; how that goes decides about the rest. -/
  | saving (path : String) (content : List UInt8)
      (after : Except String Unit → List OutputLine × Nat)
  | session (repl : Repl)

/-- The code for a success. -/
def success : Nat := 0

/-- The code for a failure. -/
def failure : Nat := 1

/-- The code for arguments that cannot be used. -/
def misuse : Nat := 2

/-- The end of a program that failed. -/
def failed (e : CommandError) : List OutputLine × Nat := (e.report.map .err, failure)

/-! ### Settings and files -/

/-- The settings in a file, changed by those of the environment. -/
def loadConfig (read : FileReader) (var : String → Option String) (path : Option String) :
    Except CommandError BridgeConfig := do
  let config ← match path with
    | none => .ok {}
    | some path =>
      match read.text path with
      | .error reason => .error (.bridge (.io reason))
      | .ok text => (BridgeConfig.ofDocument path text).mapError .bridge
  match config.applyEnv var with
  | (config, .ok _) => return config
  | (_, .error e) => throw (.bridge e)

/-- The failure to read a file. -/
def readFailure (path reason : String) : CommandError :=
  .message s!"failed to read {path}: {reason}"

/-- Reads a file that the arguments name. -/
def readBlob (read : FileReader) (path : String) : Except CommandError (List UInt8) :=
  (read path).mapError (readFailure path)

/-- Reads a source text that the arguments name. -/
def readSource (read : FileReader) (path : String) : Except CommandError String :=
  (read.text path).mapError (readFailure path)

/-- A bridge for one run of the program. -/
def newBridge (c : BridgeConfig) : Except CommandError Bridge :=
  match Bridge.create c {} with
  | .ok (b, _) => .ok b
  | .error e => .error (.bridge e)

/-! ### Work that can fail -/

/-- Work at a terminal that can fail. -/
abbrev CommandM := ExceptT CommandError WorkM

/-- Runs an operation on the bridge. -/
def onBridge {α : Type} (p : BridgeM α) : CommandM α := do
  match ← (WorkM.onBridge p : CommandM _) with
  | .ok a => return a
  | .error e => throw (.bridge e)

/-- The code after a run: a failure if jobs threw. -/
def closing : CommandM Nat := do
  return if ← (WorkM.reportFailures : CommandM Bool) then failure else success

/-- Serves the async requests. -/
def serveAll : CommandM Unit := discard (onBridge (BridgeM.serve .reject))

/-- The value of a result: of a promise, what it is settled with. -/
def settled (result : Handle) : CommandM Handle := do
  match ← (WorkM.onBridge (BridgeM.promiseStatus result) : CommandM _) with
  | .ok .pending => throw (.message "promise never settled")
  | .ok _ => onBridge (BridgeM.awaitPromise result)
  | .error (.typeFault _) => return result
  | .error e => throw (.bridge e)

/-- Serves the async requests, and shows the value of a result. -/
def showResult (result : Handle) : CommandM Nat := do
  serveAll
  let value ← settled result
  unless ← onBridge (BridgeM.isSilent value) do
    let text ← onBridge (BridgeM.formatValue value)
    (WorkM.say text : CommandM Unit)
  closing

/-- Runs work on a new bridge to its end. -/
def runOn (b : Bridge) (p : CommandM Nat) : Outcome :=
  let (r, w) := (ExceptT.run p).run { bridge := b }
  let (lines, code) := match r with
    | .ok code => ([], code)
    | .error e => failed e
  .finished (w.lines.toList ++ lines) code

/-! ### The commands -/

/-- Runs a source text. -/
def evalSource (read : FileReader) (c : BridgeConfig) (file code : Option String)
    (isModule : Bool) : Except CommandError Outcome := do
  let (filename, source) ← match file, code with
    | some path, _ => do pure (path, ← readSource read path)
    | none, some code => pure (c.defaultFilename, code)
    | none, none => throw (.message "nothing to evaluate: pass a file or -e <code>")
  let b ← newBridge c
  return runOn b do showResult (← onBridge (BridgeM.evalSource filename source isModule))

/-- The line that tells of a blob that was written. -/
def compiledLine (u : CompiledUnit) (size : Nat) (path : String) : String :=
  WorkM.heading .green "Compiled" ++ " " ++ Style.cyan.paint u.name ++
    s!" ({u.kind.text}, {size} bytes) -> {path}"

/-- Compiles a source text to a file. -/
def compileFile (read : FileReader) (c : BridgeConfig) (file output : String) (isModule : Bool)
    (name : Option String) : Except CommandError Outcome := do
  let source ← readSource read file
  discard (newBridge c)
  match CompiledUnit.compile (name.getD file) source (.ofFlag isModule) with
  | .error e => throw (.bridge e)
  | .ok u =>
    let blob := u.serialize
    return .saving output blob fun
      | .ok _ => ([.out (compiledLine u blob.length output)], success)
      | .error reason => failed (.message s!"failed to write {output}: {reason}")

/-- Runs a blob: the object whose functions can be called, and the result. -/
def startUnit (kind : UnitKind) (blob : List UInt8) : CommandM (Handle × Handle) := do
  match kind with
  | .module =>
    let ns ← onBridge (BridgeM.loadBlob blob)
    return (ns, ns)
  | .script =>
    let result ← onBridge (BridgeM.evalBlob blob)
    return (← onBridge BridgeM.globalObject, result)

/-- Registers the blobs in files. -/
def registerAll (read : FileReader) : List String → CommandM Unit
  | [] => return ()
  | path :: rest => do
    match readBlob read path with
    | .error e => throw e
    | .ok blob =>
      discard (onBridge (BridgeM.registerModule blob))
      registerAll read rest

/-- Runs the blob in a file, and perhaps one of its functions. -/
def runFile (read : FileReader) (c : BridgeConfig) (path : String) (call : Option String)
    (register : List String) : Except CommandError Outcome := do
  let blob ← readBlob read path
  let header ← (CompiledUnit.inspect blob).mapError .bridge
  let b ← newBridge c
  return runOn b do
    registerAll read register
    let (target, result) ← startUnit header.kind blob
    match call, header.kind with
    | some name, _ =>
      serveAll
      showResult (← onBridge (BridgeM.callMethod target name []))
    | none, .module =>
      serveAll
      closing
    | none, .script => showResult result

/-- The width of the names of fields. -/
def fieldColumn : Nat := 10

/-- A line for a field of a header. -/
def fieldLine (name value : String) : OutputLine :=
  .out (WorkM.heading .white (padRight fieldColumn name) ++ " " ++ value)

/-- Shows what a blob says of its unit. -/
def inspectFile (read : FileReader) (path : String) : Except CommandError Outcome := do
  let blob ← readBlob read path
  let h ← (CompiledUnit.inspect blob).mapError .bridge
  return .finished
    [fieldLine "name" (Style.cyan.paint h.name), fieldLine "kind" h.kind.text,
      fieldLine "engine" h.engine, fieldLine "payload" s!"{h.payloadLength} bytes",
      fieldLine "sha256" (Style.dimmed.paint (Hex.ofBytes h.digest))] success

/-- Does what a request asks for. -/
def perform (read : FileReader) (var : String → Option String) (r : Request) :
    Except CommandError Outcome := do
  let c ← loadConfig read var r.config
  match r.invocation with
  | .eval file code isModule => evalSource read c file code isModule
  | .compile file output isModule name => compileFile read c file output isModule name
  | .run blob call register => runFile read c blob call register
  | .inspect blob => inspectFile read blob
  | .repl => return .session (Repl.start (← newBridge c))

/-- The program. -/
def Outcome.ofArgs (args : List String) (var : String → Option String) (read : FileReader) :
    Outcome :=
  match Request.read args with
  | .error .usage => .finished [.err s!"usage: {programName} [OPTIONS] [COMMAND]"] misuse
  | .error (.help name) => .finished ((helpText name).map .out) success
  | .error .version => .finished [.out (programName ++ " " ++ version)] success
  | .ok r =>
    match perform read var r with
    | .ok outcome => outcome
    | .error e => let (lines, code) := failed e; .finished lines code

end ScriptBridge.CommandLine
