import ScriptBridge.Bridge.Basic

/-!
# Values and calls

Making values for the host, reading them, and calling functions of scripts.
-/

namespace ScriptBridge

open Script

/-- Whether a promise is settled, and how. -/
inductive PromiseStatus
  | pending | fulfilled | rejected
deriving DecidableEq, Repr

/-- The word for the state of a promise. -/
def PromiseStatus.text : PromiseStatus → String
  | .pending => "Pending"
  | .fulfilled => "Fulfilled"
  | .rejected => "Rejected"

namespace BridgeM

/-! ### Objects -/

/-- Makes an empty object and puts it into the global object under a name. -/
def createNamespace (name : String) : BridgeM Handle := do
  if name.isEmpty then throw (.invalidArgument .emptyGlobalName)
  let v ← require do
    let v := Value.object (← Proc.allocPlain)
    Proc.set (.object Intrinsic.global) (Exchange.keyOf name) v true
    return v
  keep v

/-- The global object. -/
def globalObject : BridgeM Handle := keep (.object Intrinsic.global)

/-- The object that holds the host functions. -/
def hostNamespace : BridgeM Handle := do keep (.object (← get).namespaceObject)

/-- Calls the method of a value, with the value as `this`; then the jobs run. -/
def callMethod (target : Handle) (name : String) (args : List Handle) : BridgeM Handle :=
  thenDrain do
    let this ← value target
    unless Proc.isObject this do throw (.typeFault (.callOnNonObject name))
    let f ← evaluate (.ofProc (Proc.get this (Exchange.keyOf name)))
    unless ← evaluate (.ofProc (Proc.isCallable f)) do throw (.typeFault (.notFunction name))
    let args ← args.mapM value
    keep (← evaluate (.ofProc (Proc.call f this args)))

/-- Reads a property of a value. -/
def getProperty (target : Handle) (name : String) : BridgeM Handle := do
  let v ← value target
  unless Proc.isObject v do throw (.typeFault (.readOfNonObject name))
  keep (← evaluate (.ofProc (Proc.get v (Exchange.keyOf name))))

/-! ### Plain values -/

/-- The text of a value. -/
def getString (h : Handle) : BridgeM String := do evaluate (Exchange.coerceText (← value h))

/-- A text as a value. -/
def newString (text : String) : BridgeM Handle := keep (.ofString text)

/-- The kind of a value. -/
def valueKind (h : Handle) : BridgeM ValueKind := do
  evaluate (.ofProc (Exchange.kindOf (← value h)))

/-- The number that a value is. -/
def getNumber (h : Handle) : BridgeM Float := do
  match (← value h).number? with
  | some x => return x
  | none => throw (.typeFault (.notNumber (← valueKind h)))

/-- A number as a value. -/
def newNumber (x : Float) : BridgeM Handle := keep (Exchange.ofHostFloat x)

/-- The JSON form of a value. -/
def toJson (h : Handle) : BridgeM Json := do evaluate (Exchange.toJson (← value h))

/-- JSON as a value. -/
def fromJson (j : Json) : BridgeM Handle := do keep (← require (Exchange.ofJson j))

/-- The number of handles that were not released. -/
def liveHandles : BridgeM Nat := return (← get).handles.size

/-! ### Promises -/

/-- The state of the promise that a handle names. -/
def settlement (h : Handle) : BridgeM PromiseState := do
  match ← evaluate (.ofProc (Proc.promiseState? (← value h))) with
  | some s => return s
  | none => throw (.typeFault .notPromise)

/-- What a promise was settled with; `undefined` while it is pending. -/
def promiseResult (h : Handle) : BridgeM Handle := do
  match ← settlement h with
  | .pending .. => keep .undefined
  | .fulfilled v | .rejected v => keep v

/-- Whether a promise is settled, and how. -/
def promiseStatus (h : Handle) : BridgeM PromiseStatus := do
  match ← settlement h with
  | .pending .. => return .pending
  | .fulfilled _ => return .fulfilled
  | .rejected _ => return .rejected

/-- The value of a promise; fails with what it was rejected with, and while it is pending. -/
def awaitPromise (h : Handle) : BridgeM Handle := do
  match ← settlement h with
  | .pending .. => throw .promisePending
  | .fulfilled v => keep v
  | .rejected e => throw (.ofException (← evaluate (.ofProc (Exchange.describe e))))

end BridgeM

end ScriptBridge
