import ScriptBridge.Bridge.Values

/-!
# Bridges and their hosts

Setting a bridge up and tearing it down, the functions that the host installs, and the async calls
that it ends.
-/

namespace ScriptBridge

open Script

/-! ### Setting up -/

/-- What was still there when a bridge was shut down. -/
structure ShutdownReport where
  liveHandles : Nat
  /-- The async calls that the host never ended. -/
  abandonedCalls : List Nat
  loadedModules : List String
deriving DecidableEq, Repr

/-- Whether nothing was left behind. -/
def ShutdownReport.isClean (r : ShutdownReport) : Bool :=
  r.liveHandles = 0 && r.abandonedCalls.isEmpty

namespace Bridge

/-- Makes what scripts find of the bridge: the function that prints, and the object with the
function that starts async calls. -/
def installGlobals (c : BridgeConfig) : Proc Ref := do
  let global := Value.object Intrinsic.global
  let print ← Proc.allocNative .print [] "print" 0
  Proc.set global (Key.ofString "print") (.object print) true
  let ns ← Proc.allocPlain
  let entry ← Proc.allocNative .hostAsync [] c.asyncEntry 1
  Proc.set (.object ns) (Exchange.keyOf c.asyncEntry) (.object entry) true
  Proc.set global (Exchange.keyOf c.hostNamespace) (.object ns) true
  return ns

/-- A bridge whose globals are not installed. -/
def blank (c : BridgeConfig) : Bridge :=
  { config := c, handles := .empty 0, namespaceObject := 0, world := Realm.world }

/-- Installs the globals of a bridge.  Its tag is drawn only if all goes well. -/
def setUp (b : Bridge) (tags : TagSource) : Except BridgeError (Bridge × TagSource) := do
  b.config.validate
  let (outcome, b) := (BridgeM.require (installGlobals b.config)).run.run b
  match outcome with
  | .error e => throw (.runtimeInit e.message)
  | .ok ns =>
    let (tag, tags) := tags.draw
    return ({ b with handles := .empty tag, namespaceObject := ns }, tags)

/-- A new bridge. -/
def create (c : BridgeConfig) (tags : TagSource) : Except BridgeError (Bridge × TagSource) :=
  (blank c).setUp tags

/-- What is left of a bridge that is shut down. -/
def shutdown (b : Bridge) : ShutdownReport :=
  ⟨b.handles.size, b.ledger.pendingIds, b.modules.names⟩

end Bridge

namespace BridgeM

/-! ### Host functions -/

/-- Puts a descriptor into a list in the order of names, in the place of one with its name. -/
def insertDescriptor (d : HostDescriptor) : List HostDescriptor → List HostDescriptor
  | [] => [d]
  | e :: rest =>
    if d.name < e.name then d :: e :: rest
    else if d.name = e.name then d :: rest
    else e :: insertDescriptor d rest

/-- Installs a host function: the descriptor of the one that it replaces, if any. -/
def registerHost (name : String) (arity : Nat) (f : HostFunction) :
    BridgeM (Option HostDescriptor) := do
  if name.isEmpty then throw (.invalidArgument .emptyFunctionName)
  let b ← get
  if name = b.config.asyncEntry then throw (.invalidArgument (.reservedName name))
  let id ← modifyGet fun b =>
    (b.functions.size, { b with functions := b.functions.push { run := f } })
  require do
    let r ← Proc.allocNative (.host id arity) [] name arity
    Proc.set (.object b.namespaceObject) (Exchange.keyOf name) (.object r) true
  modifyGet fun b =>
    (b.descriptors.find? fun d => d.name = name,
      { b with descriptors := insertDescriptor ⟨name, arity⟩ b.descriptors })

/-- The host functions that were installed, in the order of their names. -/
def hostFunctions : BridgeM (List HostDescriptor) := return (← get).descriptors

/-! ### Async calls -/

/-- Changes the ledger, and yields something of it. -/
def updateLedger {α : Type} (f : Ledger Ref → α × Ledger Ref) : BridgeM α :=
  modifyGet fun b =>
    let (a, ledger) := f b.ledger
    (a, { b with ledger })

/-- Sends the requests of scripts to a dispatcher, or lets them wait for the host. -/
def setDispatcher (on : Bool) : BridgeM Unit :=
  updateLedger fun l => ((), l.install on)

/-- Takes the requests that waited, the oldest first. -/
def takeRequests : BridgeM (List AsyncRequest) := updateLedger Ledger.takeQueued

/-- Takes the requests that dispatchers got, the oldest first. -/
def takeDeliveries : BridgeM (List Delivery) := updateLedger Ledger.takeDispatched

/-- Takes the requests that dispatchers got, as they were made. -/
def takeDispatched : BridgeM (List AsyncRequest) :=
  (·.map Delivery.toAsyncRequest) <$> takeDeliveries

/-- The calls that have not ended. -/
def pendingCalls : BridgeM (List Nat) := return (← get).ledger.pendingIds

end BridgeM

/-- How the host ends a call. -/
inductive CallOutcome
  | resolve (h : Handle)
  | resolveJson (j : Json)
  /-- With an error of the given message. -/
  | reject (message : String)

namespace BridgeM

/-- What a call is ended with: a value, or the message of an error. -/
def outcomeValue : CallOutcome → BridgeM (Except String Value)
  | .resolve h => do return .ok (← value h)
  | .resolveJson j => do return .ok (← require (Exchange.ofJson j))
  | .reject message => return .error message

/-- What the promise of a call is settled by. -/
def verdict (p : Ref) : Except String Value → Crossing Verdict
  | .ok v => Crossing.ofProc (Proc.resolution p v)
  | .error message => Verdict.reject <$> Exchange.hostCallError message

/-- Settles the promise of a call. -/
def settleCall (p : Ref) (result : Except String Value) : BridgeM Unit := do
  let v ← evaluate (verdict p result)
  modify fun b => { b with world := b.world.conclude p v }

/-- What it is to end a call with a value, or the message of an error. -/
def endOf : Except String Value → CallEnd
  | .ok _ => .resolved
  | .error _ => .rejected

/-- Ends a call.  If its promise cannot be settled, the call stays pending. -/
def completeCall (id : Nat) (outcome : CallOutcome) : BridgeM CallEnd := do
  let result ← outcomeValue outcome
  match (← get).ledger.take id with
  | .error e => return e
  | .ok (p, ledger) =>
    modify fun b => { b with ledger }
    tryCatch (settleCall p result) fun e => do
      modify fun b => { b with ledger := b.ledger.putBack id p }
      throw e
    discard drain
    return endOf result

/-! ### Failures and output -/

/-- Takes what jobs threw. -/
def takeFailures : BridgeM (List ScriptException) :=
  modifyGet fun b => (b.failures, { b with failures := [] })

/-- Takes the lines that scripts printed. -/
def takeOutput : BridgeM (List String) :=
  modifyGet fun b => (b.output, { b with output := [] })

/-- Takes the lines that are to be written to the standard output. -/
def takeStdout : BridgeM (List String) :=
  modifyGet fun b => (b.stdout, { b with stdout := [] })

end BridgeM

end ScriptBridge
