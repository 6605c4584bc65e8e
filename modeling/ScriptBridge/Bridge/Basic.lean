import ScriptBridge.Async.Ledger
import ScriptBridge.Config.Basic
import ScriptBridge.Handle.Table
import ScriptBridge.Module.Registry
import ScriptBridge.Script.Machine
import ScriptBridge.Script.Realm

/-!
# Bridges

A bridge holds one engine and all that its host can reach of it: values under handles, host
functions, async calls, modules, and the lines that scripts printed.  Its operations are programs
in `BridgeM`: they change the bridge, also where they fail.  `BridgeM.perform` runs a procedure of
the engine and serves what that asks of the host.
-/

namespace ScriptBridge

open Script

/-- A function that the host gives to scripts: it gets the number of earlier calls of it and the
arguments, and yields a value or a message. -/
abbrev HostFunction := Nat → List Json → Except String Json

/-- The name of a host function and the number of its parameters. -/
structure HostDescriptor where
  name : String
  arity : Nat
deriving DecidableEq, Repr

/-- A host function that was installed, and how often it was called. -/
structure InstalledFunction where
  run : HostFunction
  calls : Nat := 0

/-- An embedded engine with what its host can reach of it. -/
structure Bridge where
  config : BridgeConfig
  handles : HandleTable Value
  /-- The async calls, with the promises that their ends settle. -/
  ledger : Ledger Ref := {}
  functions : Array InstalledFunction := #[]
  /-- The host functions that were installed, in the order of their names. -/
  descriptors : List HostDescriptor := []
  modules : ModuleRegistry := {}
  /-- The lines that scripts printed and the host has not taken. -/
  output : List String := []
  /-- The lines that scripts printed to the standard output of the program, and that are not
  written yet. -/
  stdout : List String := []
  /-- What jobs threw and the host has not taken. -/
  failures : List ScriptException := []
  /-- The object that holds the host functions. -/
  namespaceObject : Ref
  world : World
  suspended : Suspended := []
  /-- Whether a run, or draining, was cut off.  The engine is not to be used any more then. -/
  isHalted : Bool := false

/-- A program on a bridge.  A failure keeps the changes before it. -/
abbrev BridgeM := ExceptT BridgeError (StateM Bridge)

namespace Bridge

/-! ### What scripts ask of the host -/

/-- Keeps or drops a line that a script printed. -/
def printLine (b : Bridge) (line : String) : Bridge :=
  match b.config.print with
  | .buffer => { b with output := b.output ++ [line] }
  | .stdout => { b with stdout := b.stdout ++ [line] }
  | .log | .discard => b

/-- Serves what a script asks of the host.  The promise of an async call has no settler: only the
bridge settles it. -/
def serve (b : Bridge) (w : World) : HostCall → Reply × World × Bridge
  | .print line => (.nothing, w, b.printLine line)
  | .startAsync payload =>
    let p := w.objects.size
    (.value (.object p), w.push (World.pendingPromise Intrinsic.promiseProto),
      { b with ledger := b.ledger.issue p payload })
  | .call id args =>
    match b.functions[id]? with
    | some f =>
      (.answer (f.run f.calls args), w,
        { b with functions := b.functions.modify id fun f => { f with calls := f.calls + 1 } })
    | none => (.answer (.ok .null), w, b)
  | .modules c =>
    let (reply, table) := b.modules.table.serve c
    (reply, w, { b with modules := { b.modules with table } })

end Bridge

namespace Script.Outcome

/-- The world as it is. -/
def world {α : Type} : Outcome α → World
  | .done _ w | .thrown _ w | .ask _ w _ => w

end Script.Outcome

namespace Script.Running

/-- The world as it is. -/
def world {α : Type} : Running α → World
  | .top o => o.world
  | .inner o _ _ => o.world

end Script.Running

namespace Bridge

/-- Runs a procedure for `fuel` steps: what it came to, and nothing if that was not enough. -/
def runFor {α : Type} : Nat → Running α → Bridge → Option (Except Value α) × Bridge
  | 0, r, b => (none, { b with world := r.world })
  | fuel + 1, r, b =>
    match r.step b.suspended with
    | .done a w => (some (.ok a), { b with world := w })
    | .thrown v w => (some (.error v), { b with world := w })
    | .running r s => runFor fuel r { b with suspended := s }
    | .asking h w k =>
      let (reply, w, b) := b.serve w h
      runFor fuel (k reply w) b

/-- The number of steps after which a run is cut off.  The engine itself has no limit: what is said
to end whatever the number of its steps is said with `Bridge.ComesTo`. -/
def stepLimit : Nat := 1000000000

end Bridge

namespace BridgeM

/-- Refuses to use an engine that was cut off. -/
def checkRunning : BridgeM Unit := do if (← get).isHalted then throw (.engine .exhausted)

/-- Runs a procedure that tells its failures by itself. -/
def perform {α : Type} (p : Proc (Except BridgeError α)) : BridgeM α := do
  checkRunning
  let b ← get
  let w := b.world
  set { b with world := default }
  let (outcome, b) := Bridge.runFor Bridge.stepLimit (.top (p w)) (← get)
  set { b with isHalted := outcome.isNone }
  match outcome with
  | some (.ok (.ok a)) => return a
  | some (.ok (.error e)) => throw e
  | some (.error _) => throw (.engine .refused)
  | none => throw (.engine .exhausted)

/-- Runs a procedure; what it throws is the failure of a script. -/
def evaluate {α : Type} (p : Crossing α) : BridgeM α :=
  perform do
    match ← Proc.attempt p.run with
    | .ok (.ok a) => return .ok a
    | .ok (.error f) => return .error (.engine f)
    | .error v => return .error (.ofException (← Exchange.describe v))

/-- Runs a procedure for the host itself; if it throws, the engine has refused it. -/
def require {α : Type} (p : Proc α) : BridgeM α :=
  perform do
    match ← Proc.attempt p with
    | .ok a => return .ok a
    | .error _ => return .error (.engine .refused)

/-- Runs a part of loading a module; what it throws is the reason of the failure. -/
def stage {α : Type} (name : String) (s : ModuleStage) (p : Proc α) : BridgeM α :=
  perform do
    match ← Proc.attempt p with
    | .ok a => return .ok a
    | .error v => return .error (.module name s (← Exchange.describe v).message)

/-- Runs a program on the table of modules. -/
def updateTable {α : Type} (p : Loading α) : BridgeM (Except ModuleFault α) := do
  checkRunning
  modifyGet fun b =>
    let (outcome, table) := p.run.run b.modules.table
    (outcome, { b with modules := { b.modules with table } })

/-- Runs a part of loading a module on the table of modules; why that cannot be had is thrown as an
error of the engine. -/
def tableStage {α : Type} (name : String) (s : ModuleStage) (p : Loading α) : BridgeM α := do
  match ← updateTable p with
  | .ok a => return a
  | .error f => stage name s (Proc.throwFault f)

/-! ### Handles -/

/-- The value that a handle names. -/
def value (h : Handle) : BridgeM Value := do
  MonadExcept.ofExcept ((← get).handles.get h)

/-- A new handle for a value. -/
def keep (v : Value) : BridgeM Handle :=
  modifyGet fun b =>
    let (h, handles) := b.handles.insert v
    (h, { b with handles })

/-- Lets go of a handle. -/
def release (h : Handle) : BridgeM Unit := do
  match (← get).handles.release? h with
  | some handles => modify fun b => { b with handles }
  | none => throw (.invalidHandle h)

/-! ### Jobs -/

/-- What draining the jobs did. -/
structure DrainReport where
  /-- The number of jobs that ran, also of those that threw. -/
  executed : Nat := 0
  /-- What jobs threw, in order. -/
  failures : List ScriptException := []

/-- Runs one job: what it threw, or how it was cut off. -/
def runJob (j : Job) : BridgeM (Option ScriptException) :=
  tryCatch (perform do
    match ← Proc.attempt (Proc.ask (.job j)) with
    | .ok _ => return .ok none
    | .error v => return .ok (some (← Exchange.describe v)))
    fun e => return some { message := e.message }

/-- Runs jobs until none is left.  If there are more than `fuel`, draining is cut off. -/
def drainFor : Nat → DrainReport → BridgeM DrainReport
  | 0, report => do
    modify fun b => { b with isHalted := b.isHalted || !b.world.jobs.isEmpty }
    return report
  | fuel + 1, report => do
    match (← get).world.jobs with
    | [] => return report
    | j :: rest =>
      modify fun b => { b with world := { b.world with jobs := rest } }
      let failure ← runJob j
      drainFor fuel ⟨report.executed + 1, report.failures ++ failure.toList⟩

/-- The number of jobs after which draining stops. -/
def jobLimit : Nat := 1000000000

/-- Runs jobs until none is left. -/
def drain : BridgeM DrainReport := do
  let report ← drainFor jobLimit {}
  modify fun b => { b with failures := b.failures ++ report.failures }
  return report

/-- Runs an operation, and then the jobs, also where the operation failed. -/
def thenDrain {α : Type} (p : BridgeM α) : BridgeM α := do
  let outcome ← observing p
  discard drain
  match outcome with
  | .ok a => return a
  | .error e => throw e
where
  observing (p : BridgeM α) : BridgeM (Except BridgeError α) :=
    ExceptT.mk do return .ok (← p.run)

end BridgeM

end ScriptBridge
