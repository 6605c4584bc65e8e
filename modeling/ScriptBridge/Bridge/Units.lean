import ScriptBridge.Bridge.Basic

/-!
# Running units

Scripts yield the value they complete with.  A module is run once: it is declared by the first
operation that needs it, its evaluation may go on while the host does other things, and its
namespace is kept from the first load on.
-/

namespace ScriptBridge

open Script

namespace BridgeM

/-! ### Scripts -/

/-- Runs a source text as a script. -/
def evalScript (filename source : String) : BridgeM Handle := do
  match checkSource filename source with
  | .error e => throw e
  | .ok _ =>
    thenDrain do
      keep (← evaluate (.ofProc (scriptValue filename source)))
where
  scriptValue (filename source : String) : Proc Value := do
    match parse false source with
    | .ok p => return Proc.valueOf (← Proc.ask (.script p filename))
    | .error f =>
      unless f.hasPlace do Proc.throwNew .syntaxError f.message
      let r ← Proc.alloc {
        kind := .error
        proto := some (Intrinsic.errorProto .syntaxError)
        props := #[
          (Key.ofString "message", .hidden (.ofString (cutMessage f.message))),
          (Key.ofString "stack", .hidden (.string (Proc.stackText true)))] }
      Proc.throwValue (.object r)

/-- Runs the payload of a script. -/
def runPayload (payload : List UInt8) : Proc Value := do
  match Payload.decode? payload with
  | none => Proc.throwNew .syntaxError "invalid bytecode version"
  | some p =>
    match p.kind with
    | .module =>
      match readModule payload with
      | .error f => Proc.throwFault f
      | .ok _ => Proc.throwType "module bytecode cannot be evaluated as a script"
    | .script =>
      match parse false p.source with
      | .ok program => return Proc.valueOf (← Proc.ask (.script program p.name))
      | .error f => Proc.throwNew .syntaxError f.message

/-- Runs a script unit. -/
def evaluateUnit (u : CompiledUnit) : BridgeM Handle := do
  if u.kind = .module then
    throw (.module u.name .evaluation "module units are loaded with load_bytecode")
  thenDrain do
    -- a module in the place of a script is refused, but the engine keeps it
    discard (updateTable (Loading.read u.payload))
    keep (← evaluate (.ofProc (runPayload u.payload)))

/-! ### Modules -/

/-- Changes what the bridge knows of modules. -/
def modifyModules (f : ModuleRegistry → ModuleRegistry) : BridgeM Unit :=
  modify fun b => { b with modules := f b.modules }

/-- Notes the promise for the evaluation of a module. -/
def noteEvaluation (name : String) (promise : Value) : BridgeM Unit :=
  modifyModules fun m => { m with evaluations := (name, promise) :: m.evaluations }

/-- Gives a module to the engine, finds what it imports and starts its body.  The jobs do not run
yet.  If something is missing, the module is given up. -/
def declareModule (u : CompiledUnit) : BridgeM Unit := do
  match (← get).modules.checkLinkable u.name u.payload with
  | .error e => throw e
  | .ok _ =>
    let id ← tableStage u.name .nameExtraction (Loading.read u.payload)
    modifyModules fun m => m.keep u.name u.payload
    tableStage u.name .resolution ((Loading.resolve id).orAbandon id)
    let order ← tableStage u.name .evaluation ((Loading.link id).orAbandon id)
    noteEvaluation u.name (← stage u.name .evaluation (Proc.evaluateLinked id order))

/-- Declares a module unless it is declared, and runs the jobs. -/
def ensureDeclared (u : CompiledUnit) : BridgeM Unit := do
  unless (← get).modules.isDeclared u.name do declareModule u
  discard drain

/-- Runs a module unit without loading it by name: the promise for its evaluation, or, if it came
by way of another module, for its import. -/
def evaluateModuleUnit (u : CompiledUnit) : BridgeM Handle := do
  ensureDeclared u
  match (← get).modules.evaluations.lookup u.name with
  | some promise => keep promise
  | none => keep (← stage u.name .resolution (Proc.importByName u.name))

/-- Runs the unit in a blob. -/
def evalBlob (blob : List UInt8) : BridgeM Handle := do
  match CompiledUnit.deserialize blob with
  | .error e => throw e
  | .ok u =>
    match u.kind with
    | .script => evaluateUnit u
    | .module => evaluateModuleUnit u

/-- Fails if the evaluation of a module has failed. -/
def checkEvaluation (name : String) : BridgeM Unit := do
  if let some promise := (← get).modules.evaluations.lookup name then
    perform do
      match ← Proc.promiseState? promise with
      | some (.rejected e) =>
        return .error (.module name .evaluation (← Exchange.describe e).message)
      | _ => return .ok ()

/-- The namespace that an import has come to. -/
def importedNamespace (name : String) (promise : Value) : BridgeM Value :=
  perform do
    match ← Proc.promiseState? promise with
    | some (.fulfilled (.object r)) => return .ok (.object r)
    | some (.fulfilled _) =>
      return .error (.module name .resolution "import did not produce a namespace object")
    | some (.rejected e) =>
      return .error (.module name .resolution (← Exchange.describe e).message)
    | _ => return .error (.module name .resolution "module evaluation has not finished")

/-- Imports a module, which is declared before if need be: its namespace. -/
def importNamespace (u : CompiledUnit) : BridgeM Value := do
  ensureDeclared u
  checkEvaluation u.name
  let promise ← stage u.name .resolution (Proc.importByName u.name)
  discard drain
  importedNamespace u.name promise

/-- The namespace of a module, which is imported by the first load. -/
def loadNamespace (u : CompiledUnit) : BridgeM Value := do
  match (← get).modules.namespaces.lookup u.name with
  | some ns => return ns
  | none =>
    let ns ← importNamespace u
    modifyModules fun m => { m with namespaces := (u.name, ns) :: m.namespaces }
    return ns

/-- Loads the module in a blob: its namespace. -/
def loadBlob (blob : List UInt8) : BridgeM Handle := do
  match CompiledUnit.deserialize blob with
  | .error e => throw e
  | .ok u =>
    if u.kind ≠ .module then
      throw (.module u.name .nameExtraction "unit is a script, not a module")
    keep (← loadNamespace u)

/-- The reason why a text with a NUL is refused, if it has one. -/
def nulFault? (text : String) : Option String :=
  if text.toList.contains '\x00' then
    let before := String.ofList (text.toList.takeWhile (· ≠ '\x00'))
    some ("String contained internal null bytes: nul byte found in provided data at position: "
      ++ toString before.utf8ByteSize)
  else none

/-- Runs a source text as a module: the promise for its evaluation. -/
def loadSource (filename source : String) : BridgeM Handle := do
  let name := ModuleName.canonical filename
  let fail {α : Type} (reason : String) : BridgeM α := throw (.module name .evaluation reason)
  if (← get).modules.isDeclared name then fail "a module with this name is already loaded"
  thenDrain do
    match (nulFault? name).or (nulFault? source), parse true source with
    | some reason, _ => fail reason
    | none, .error f => fail (syntaxMessage f)
    | none, .ok program =>
      let id ← tableStage name .evaluation (Loading.add name program)
      tableStage name .evaluation ((Loading.resolve id).orDrop id)
      let order ← tableStage name .evaluation ((Loading.link id).orAbandon id)
      let promise ← stage name .evaluation (Proc.evaluateLinked id order)
      noteEvaluation name promise
      keep promise

/-- Runs a source text. -/
def evalSource (filename source : String) (isModule : Bool) : BridgeM Handle :=
  if isModule then loadSource filename source else evalScript filename source

/-- Runs a source text as a script under the default name. -/
def eval (source : String) : BridgeM Handle := do
  evalScript (← get).config.defaultFilename source

/-- Keeps the module in a blob for imports by its name, without running it. -/
def registerModule (blob : List UInt8) : BridgeM String := do
  match CompiledUnit.deserialize blob with
  | .error e => throw e
  | .ok u =>
    if u.kind ≠ .module then throw (.invalidArgument (.scriptUnit u.name))
    modifyModules fun m => m.keep u.name u.payload
    return u.name

/-- The names of the modules that were loaded. -/
def loadedModules : BridgeM (List String) := return (← get).modules.names

end BridgeM

end ScriptBridge
