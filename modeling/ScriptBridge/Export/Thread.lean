import ScriptBridge.Bridge.Host
import ScriptBridge.Bridge.Units
import ScriptBridge.Export.Buffer
import ScriptBridge.Export.Native

/-!
# The exported calls

Callers in other languages see one bridge a thread.  `Thread` is what a thread keeps: its bridge,
the words of the last failure, and the requests that were taken from the bridge and not yet handed
out.  Each export is a function on threads that yields a status and, if that is `ok`, the results
that it writes.  A call that is made while another one runs on the thread is refused as busy.
-/

namespace ScriptBridge

/-- What a thread keeps for its exports. -/
structure Thread where
  bridge : Option Bridge := none
  /-- The words of the last call, if it failed. -/
  lastError : Option String := none
  /-- The requests that were taken from the bridge and are to be handed out, the oldest first. -/
  requests : List AsyncRequest := []
  /-- The requests that native dispatchers got, the oldest first. -/
  delivered : List AsyncRequest := []
  tags : TagSource := {}
  /-- Whether a call is running. -/
  isRunning : Bool := false
  /-- How many results the last call has written. -/
  written : Nat := 0

/-- The body of an export. -/
abbrev ExportM := ExceptT Failure (StateM Thread)

/-- An exported call: its status, and its results if it went well. -/
abbrev Export (α : Type) := Thread → (Status × Option α) × Thread

namespace ExportM

variable {α : Type}

/-- Passes on what a check of the arguments says. -/
def ofArgument (r : Except Failure α) : ExportM α := ExceptT.mk (pure r)

/-- Runs an operation on the bridge of the thread. -/
def onBridge (p : BridgeM α) : ExportM α := do
  let t ← get
  match t.bridge with
  | none => throw .noBridge
  | some b =>
    set { t with bridge := none }
    let (r, b) := p.run.run b
    modify fun t => { t with bridge := some b }
    match r with
    | .ok a => return a
    | .error e => throw (.ofError e)

/-- Writes a result through a pointer. -/
def write (out : OutPointer) : ExportM Unit :=
  match out with
  | .null => throw (.argument "null output pointer")
  | .valid => modify fun t => { t with written := t.written + 1 }

/-- Checks the arguments, runs an operation with what they are on the bridge, and writes the results
that it yields. -/
def guarded {β : Type} (outs : List OutPointer) (arguments : Except Failure β)
    (p : β → BridgeM α) : ExportM α := do
  ofArgument (requireOuts outs)
  let a ← onBridge (p (← ofArgument arguments))
  outs.forM write
  return a

/-- Hands the requests that the dispatcher got over to it. -/
def deliver (t : Thread) : Thread :=
  match t.bridge with
  | none => t
  | some b =>
    let (fresh, ledger) := b.ledger.takeDispatched
    { t with
      bridge := some { b with ledger },
      delivered := t.delivered ++ fresh.map Delivery.toAsyncRequest }

/-- Runs a call: its status, and the words of its failure if it fails. -/
def run (p : ExportM α) : Export α := fun t =>
  if t.isRunning then ((.busy, none), t)
  else
    let (r, t) := ExceptT.run p { t with isRunning := true, written := 0 }
    let t := { deliver t with isRunning := false }
    match r with
    | .ok a => ((.ok, some a), { t with lastError := none })
    | .error f => ((f.status, none), { t with lastError := some f.message })

/-- Runs a call that leaves the words of the last failure alone. -/
def inspect (p : ExportM α) : Export α := fun t =>
  let (r, after) := ExportM.run p t
  (r, { after with lastError := t.lastError })

end ExportM

namespace Thread

open ExportM (ofArgument onBridge write guarded)

/-! ### Lifecycle -/

/-- Sets a bridge up in the place of the one that there is. -/
def install (c : BridgeConfig) : ExportM Unit := do
  let t := { ExportM.deliver (← get) with bridge := none, requests := [] }
  set t
  match Bridge.create c t.tags with
  | .error e => throw (.ofError e)
  | .ok (b, tags) => set { t with bridge := some b, tags }

/-- Sets a bridge up with the defaults and the settings of the environment. -/
def init (var : String → Option String) : Export Unit :=
  ExportM.run do install (← ofArgument ((BridgeConfig.ofEnv var).mapError Failure.ofError))

/-- Sets a bridge up with the settings of a document. -/
def initWithConfig (document : Buffer) : Export Unit :=
  ExportM.run do
    let text ← ofArgument document.text
    install (← ofArgument ((BridgeConfig.ofToml text).mapError Failure.ofError))

/-- Drops the bridge, with its handles and the calls that have not ended. -/
def shutdown : Export Unit :=
  ExportM.run do
    let t := ExportM.deliver (← get)
    if t.bridge.isNone then throw .noBridge
    set { t with bridge := none, requests := [] }

/-! ### Units -/

/-- Compiles a source text to a blob. -/
def compile (filename source : Buffer) (isModule : Bool) (outs : List OutPointer) :
    Export (List UInt8) :=
  ExportM.run <| guarded outs (return (← filename.text, ← source.text)) fun (filename, source) => do
    match CompiledUnit.compile filename source (.ofFlag isModule) with
    | .ok u => return u.serialize
    | .error e => throw e

/-- Runs a source text; an empty file name stands for the default. -/
def eval (filename source : Buffer) (isModule : Bool) (out : OutPointer) : Export Handle :=
  ExportM.run <| guarded [out] (return (← filename.text, ← source.text))
    fun (filename, source) => do
    let b ← get
    let name := if filename.isEmpty then b.config.defaultFilename else filename
    BridgeM.evalSource name source isModule

/-- Runs the unit in a blob. -/
def evalBlob (blob : Buffer) (out : OutPointer) : Export Handle :=
  ExportM.run (guarded [out] blob.content BridgeM.evalBlob)

/-- Loads the module in a blob. -/
def loadBlob (blob : Buffer) (out : OutPointer) : Export Handle :=
  ExportM.run (guarded [out] blob.content BridgeM.loadBlob)

/-! ### Values -/

/-- The global object. -/
def globalObject (out : OutPointer) : Export Handle :=
  ExportM.run (guarded [out] (pure ()) fun _ => BridgeM.globalObject)

/-- Calls the method of a value. -/
def call (target : Handle) (name : Buffer) (args : HandleArray) (out : OutPointer) :
    Export Handle :=
  ExportM.run <| guarded [out] (return (← name.text, ← args.content)) fun (name, args) =>
    BridgeM.callMethod target name args

/-- Reads a property of a value. -/
def getProperty (target : Handle) (name : Buffer) (out : OutPointer) : Export Handle :=
  ExportM.run (guarded [out] name.text fun name => BridgeM.getProperty target name)

/-- The text of a value. -/
def getString (h : Handle) (outs : List OutPointer) : Export String :=
  ExportM.run (guarded outs (pure ()) fun _ => BridgeM.getString h)

/-- A text as a value. -/
def newString (text : Buffer) (out : OutPointer) : Export Handle :=
  ExportM.run (guarded [out] text.text BridgeM.newString)

/-- Lets go of a handle. -/
def release (h : Handle) : Export Unit := ExportM.run (onBridge (BridgeM.release h))

/-! ### Promises and host calls -/

/-- What a promise was settled with. -/
def promiseResult (h : Handle) (out : OutPointer) : Export Handle :=
  ExportM.run (guarded [out] (pure ()) fun _ => BridgeM.promiseResult h)

/-- How a callback ends a call: the null handle stands for null, or for a general message. -/
def callbackOutcome (value : Handle) (rejected : Bool) : BridgeM CallOutcome := do
  if rejected then
    if value.isNull then return .reject "rejected by host"
    else return .reject (← BridgeM.getString value)
  else if value.isNull then return .resolveJson .null
  else return .resolve value

/-- Ends an async call.  What that did is written if there is a place for it. -/
def endCall (id : Nat) (value : Handle) (rejected : Bool) (out : OutPointer) : Export CallEnd :=
  ExportM.run do
    let done ← onBridge do BridgeM.completeCall id (← callbackOutcome value rejected)
    unless out = .null do write out
    return done

/-- Ends an async call, and has a place for what that did. -/
def promiseCallback (id : Nat) (value : Handle) (rejected : Bool) : Export CallEnd :=
  endCall id value rejected .valid

/-- Installs a native function, if there is one. -/
def registerHost (name : Buffer) (arity : Nat) (f : Option NativeCallback) : Export Unit :=
  ExportM.run do
    let name ← ofArgument name.text
    match f with
    | none => throw (.argument "null host function pointer")
    | some f => discard (onBridge (BridgeM.registerHost name arity (f.toHost name)))

/-- Sends the requests of scripts to a dispatcher, or lets them wait to be taken. -/
def setDispatcher (on : Bool) : Export Unit :=
  ExportM.run (onBridge (BridgeM.setDispatcher on))

/-- Takes the oldest request that waits; nothing if none does. -/
def takeRequest (outs : List OutPointer) : Export (Option AsyncRequest) :=
  ExportM.run do
    ofArgument (requireOuts outs)
    let fresh ← onBridge BridgeM.takeRequests
    let t ← get
    let next ← match t.requests ++ fresh with
      | [] => pure none
      | r :: rest => do
        set { t with requests := rest }
        pure (some r)
    outs.forM write
    return next

/-! ### Failures -/

/-- The words of the last call, empty if it went well. -/
def lastErrorText (outs : List OutPointer) : Export String :=
  ExportM.inspect do
    ofArgument (requireOuts outs)
    let t ← get
    outs.forM write
    return t.lastError.getD ""

/-- Takes the requests that native dispatchers got. -/
def takeDelivered (t : Thread) : List AsyncRequest × Thread :=
  (t.delivered, { t with delivered := [] })

end Thread

end ScriptBridge
