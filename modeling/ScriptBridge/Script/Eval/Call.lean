import ScriptBridge.Script.Builtin.Arithmetic
import ScriptBridge.Script.Builtin.Array
import ScriptBridge.Script.Builtin.Awaited
import ScriptBridge.Script.Builtin.Collection
import ScriptBridge.Script.Builtin.Failure
import ScriptBridge.Script.Builtin.Function
import ScriptBridge.Script.Builtin.Iteration
import ScriptBridge.Script.Builtin.JsonText
import ScriptBridge.Script.Builtin.Number
import ScriptBridge.Script.Builtin.Object
import ScriptBridge.Script.Builtin.Primitive
import ScriptBridge.Script.Builtin.Promise
import ScriptBridge.Script.Builtin.Reflect
import ScriptBridge.Script.Builtin.Text
import ScriptBridge.Script.Builtin.Uri
import ScriptBridge.Script.Exchange
import ScriptBridge.Script.Module.Evaluate

/-!
# Calls

Calling any function, built in or not, and the functions that the host gives to scripts: writing a
line, starting an async call, and the functions that it installed.
-/

namespace ScriptBridge.Script

namespace Proc

/-! ### Functions of the host -/

/-- Writes a line for the host: the texts of the arguments. -/
def printLine (args : List Value) : Proc Value := do
  let texts ← args.mapM fun v => (Exchange.coerceText v).orThrow
  discard (ask (.host (.print (" ".intercalate texts))))
  return .undefined

/-- Starts an async call of the host: the promise that its end settles. -/
def startHostCall (args : List Value) : Proc Value := do
  let payload ← match args with
    | [] => pure Json.null
    | v :: _ => (Exchange.toJson v).orThrow
  return valueOf (← ask (.host (.startAsync payload)))

/-- Runs a function that the host installed; arguments that are missing are null. -/
def runHostFunction (id arity : Nat) (args : List Value) : Proc Value := do
  let given ← args.mapM fun v => (Exchange.toJson v).orThrow
  let padded := given ++ List.replicate (arity - given.length) Json.null
  match ← ask (.host (.call id padded)) with
  | .answer (.ok j) => Exchange.ofJson j
  | .answer (.error message) => do throwValue (← (Exchange.hostCallError message).orThrow)
  | _ => return .undefined

/-! ### Calls -/

/-- Runs a built-in function. -/
def runNative (code : Native) (c : NativeCall) : Proc Value :=
  match code with
  | .object f => runObject f c
  | .reflect f => runReflect f c
  | .function f => runFunction f c
  | .array .fromAsync => arrayFromAwaited c
  | .array f => runArray f c
  | .string f => runString f c
  | .uri f => runUri f c
  | .number f => runNumber f c
  | .primitive f => runPrimitive f c
  | .promise f => runPromise f c
  | .collection f => runCollection f c
  | .iterator f => runIterator f c
  | .generator f => runGenerator f c
  | .math f => runMath f c
  | .error f => runError f c
  | .jsonParse => parseJson c
  | .jsonStringify => stringifyJson c
  | .species => pure c.this
  | .eval =>
    match c.arg 0 with
    | .string s => evalText s outermost false
    | v => pure v
  | .now => pure (.float 0.0)
  | .queueMicrotask => do
    callback (c.arg 0)
    enqueue (.microtask (c.arg 0))
    return .undefined
  | .moduleDone => do
    if let .int id := c.capture 0 then asyncDone id.toInt.toNat
    return .undefined
  | .moduleFailed => do
    if let .int id := c.capture 0 then
      asyncFailed ((← world).modules.size + 1) id.toInt.toNat (c.arg 0)
    return .undefined
  | .importDone => do
    finishImport c.captured
    return .undefined
  | .importFailed => do
    discard (call (c.capture 1) .undefined [c.arg 0])
    return .undefined
  | .print => printLine c.args
  | .hostAsync => startHostCall c.args
  | .host id arity => runHostFunction id arity c.args

/-- Calls a value. -/
def callValue (f this : Value) (args : List Value) : Proc Value := do
  match f with
  | .object r =>
    match (← object r).kind with
    | .function c => callClosure r c this args
    | .native code captured => runNative code { this, args, captured }
    | .bound target bound first => call target bound (first ++ args)
    | _ => throwType "not a function"
  | _ => throwType "not a function"

/-- Calls a value as a constructor. -/
def constructValue (f : Value) (args : List Value) (newTarget : Value) : Proc Value := do
  match f with
  | .object r =>
    let o ← object r
    unless o.isConstructor do throwType "not a constructor"
    match o.kind with
    | .function c => constructClosure r c args newTarget
    | .native code captured => runNative code { this := .undefined, args, newTarget, captured }
    | .bound target _ first =>
      construct target (first ++ args) (if newTarget.sameValue f then target else newTarget)
    | _ => throwType "not a constructor"
  | _ => throwType "not a function"

end Proc

end ScriptBridge.Script
