import ScriptBridge.Script.Builtin.Basic

/-!
# Functions of promises

`all` and its kin share an array for the results and a count of those that are missing; the
function that receives one result captures both, its place, and whether it was called.
-/

namespace ScriptBridge.Script

namespace Proc

/-- Makes a promise and gives the functions that settle it to another function. -/
def makePromise (c : NativeCall) : Proc Value := do
  if c.isPlain then throwType "must be called with new"
  callback (c.arg 0)
  let (p, settler) ← allocPromise (← protoFor c.newTarget Intrinsic.promiseProto)
  let (resolve, reject) ← resolvingFunctions settler
  match ← attempt (call (c.arg 0) .undefined [resolve, reject]) with
  | .ok _ => pure ()
  | .error e => discard (call reject .undefined [e])
  return .object p

/-- Puts one function of a promise that is being made into its place, which must be empty. -/
def keepFunction (place f : Value) : Proc Unit := do
  match place with
  | .object r =>
    match ← cellValue r with
    | .undefined => setKind r (.cell f)
    | _ => throwType "resolving function already set"
  | _ => pure ()

/-- Makes an error out of several. -/
def allocAggregate (errors : Value) : Proc Value := do
  return .object (← alloc {
    kind := .error
    proto := some (Intrinsic.errorProto .aggregateError)
    props := #[(Key.ofString "errors", .hidden errors)] })

/-- Takes one from the results that are missing, and settles the promise when none is left. -/
def countDown (f : PromiseFn) (counter results settleWith : Value) : Proc Unit := do
  match counter with
  | .object r =>
    let n := Value.toInt32 (← cellValue r) - 1
    setKind r (.cell (Value.ofInt n))
    if n = 0 then
      let v ← if f = .anyElement then allocAggregate results else pure results
      discard (call settleWith .undefined [v])
  | _ => pure ()

/-- The object that `allSettled` has for one promise. -/
def settledObject (rejected : Bool) (v : Value) : Proc Value := do
  let r ← allocPlain
  defineValue r (Key.ofString "status") (.ofString (if rejected then "rejected" else "fulfilled"))
  defineValue r (Key.ofString (if rejected then "reason" else "value")) v
  return .object r

/-- Receives one result. -/
def receiveElement (f : PromiseFn) (c : NativeCall) : Proc Value := do
  match c.captured with
  | [.object flag, .int place, .object results, settleWith, counter] =>
    if (← cellValue flag).truthy then return .undefined
    setKind flag (.cell (.bool true))
    let v ← match f with
      | .settledFulfilled => settledObject false (c.arg 0)
      | .settledRejected => settledObject true (c.arg 0)
      | _ => pure (c.arg 0)
    defineValue results (.index place.toInt.toNat) v
    countDown f counter (.object results) settleWith
    return .undefined
  | _ => return .undefined

/-- What `all` and its kin do with each item of an iteration. -/
def subscribe (f : PromiseFn) (ctor resolve : Value) (cap : Capability) (results counter : Ref)
    (place : Nat) (item : Value) : Proc Unit := do
  let p ← call resolve ctor [item]
  let flag ← allocCell (.bool false)
  let element (code : PromiseFn) (settleWith : Value) : Proc Value := do
    return .object (← allocNative (.promise code)
      [.object flag, Value.ofNat place, .object results, settleWith, .object counter] "" 1)
  let (onValue, onFailure) ← match f with
    | .allSettled => do
      let a ← element .settledFulfilled cap.resolve
      pure (a, ← element .settledRejected cap.resolve)
    | .any => do
      defineValue results (.ofNat place) .undefined
      pure (cap.resolve, ← element .anyElement cap.reject)
    | .race => pure (cap.resolve, cap.reject)
    | _ => do pure (← element .allElement cap.resolve, cap.reject)
  unless f = .race do
    setKind counter (.cell (Value.stepBy true (← cellValue counter)))
  discard (invoke p (Key.ofString "then") [onValue, onFailure])

/-- What `all` and its kin do at the end of an iteration. -/
def endSubscriptions (f : PromiseFn) (cap : Capability) (results counter : Ref) : Proc Unit := do
  let isAny := f = .any
  unless f = .race do
    countDown (if isAny then .anyElement else f) (.object counter) (.object results)
      (if isAny then cap.reject else cap.resolve)

/-- Joins the promises of an iteration into one. -/
def joinPromises (f : PromiseFn) (c : NativeCall) : Proc Value := do
  unless isObject c.this do throwType "not an object"
  let cap ← capabilityOf c.this
  let outcome ← attempt (do
    let resolve ← get c.this (Key.ofString "resolve")
    callback resolve
    let results ← allocArray []
    let counter ← allocCell (.int 1)
    discard (consume (c.arg 0) (.joined f c.this resolve cap results counter)))
  match outcome with
  | .ok _ => pure ()
  | .error e => discard (call cap.reject .undefined [e])
  return cap.promise

/-- Calls a function when a promise is settled, whichever way. -/
def promiseFinally (this f : Value) : Proc Value := do
  let ctor ← match this with
    | .object r => speciesOf r (.object Intrinsic.promise)
    | _ => throwType "not an object"
  if ← isCallable f then
    let a ← allocNative (.promise .thenFinally) [ctor, f] "" 1
    let b ← allocNative (.promise .catchFinally) [ctor, f] "" 1
    invoke this (Key.ofString "then") [.object a, .object b]
  else invoke this (Key.ofString "then") [f, f]

/-- Calls the function of `finally`, and then continues as the promise did. -/
def runFinally (code : PromiseFn) (c : NativeCall) : Proc Value := do
  let result ← call (c.capture 1) .undefined []
  let p ← promiseResolve (c.capture 0) result
  let next ← allocNative (.promise code) [c.arg 0] "" 0
  invoke p (Key.ofString "then") [.object next]

/-- Runs a function of promises. -/
def runPromise (f : PromiseFn) (c : NativeCall) : Proc Value := do
  match f with
  | .make => makePromise c
  | .resolve =>
    unless isObject c.this do throwType "not an object"
    promiseResolve c.this (c.arg 0)
  | .reject =>
    unless isObject c.this do throwType "not an object"
    let cap ← capabilityOf c.this
    discard (call cap.reject .undefined [c.arg 0])
    return cap.promise
  | .attempt =>
    unless isObject c.this do throwType "not an object"
    let cap ← capabilityOf c.this
    match ← Proc.attempt (call (c.arg 0) .undefined (c.args.drop 1)) with
    | .ok v => discard (call cap.resolve .undefined [v])
    | .error e => discard (call cap.reject .undefined [e])
    return cap.promise
  | .withResolvers =>
    unless isObject c.this do throwType "not an object"
    let cap ← capabilityOf c.this
    let r ← allocPlain
    defineValue r (Key.ofString "promise") cap.promise
    defineValue r (Key.ofString "resolve") cap.resolve
    defineValue r (Key.ofString "reject") cap.reject
    return .object r
  | .all | .allSettled | .any | .race => joinPromises f c
  | .thenFn => promiseThen c.this (c.arg 0) (c.arg 1)
  | .catchFn => invoke c.this (Key.ofString "then") [.undefined, c.arg 0]
  | .finallyFn => promiseFinally c.this (c.arg 0)
  | .resolving => settleOnce c.captured false (c.arg 0)
  | .rejecting => settleOnce c.captured true (c.arg 0)
  | .executor =>
    keepFunction (c.capture 0) (c.arg 0)
    keepFunction (c.capture 1) (c.arg 1)
    return .undefined
  | .allElement | .settledFulfilled | .settledRejected | .anyElement => receiveElement f c
  | .thenFinally => runFinally .valueThunk c
  | .catchFinally => runFinally .thrower c
  | .valueThunk => return c.capture 0
  | .thrower => throwValue (c.capture 0)

end Proc

namespace PromiseFn

/-- The functions found in the constructor. -/
def statics : List Builtin := [
  .method "resolve" (.promise .resolve) 1, .method "reject" (.promise .reject) 1,
  .method "all" (.promise .all) 1, .method "allSettled" (.promise .allSettled) 1,
  .method "any" (.promise .any) 1, .method "try" (.promise .attempt) 1,
  .method "race" (.promise .race) 1, .method "withResolvers" (.promise .withResolvers) 0,
  .species]

/-- The functions found in every promise. -/
def methods : List Builtin := [
  .method "then" (.promise .thenFn) 2, .method "catch" (.promise .catchFn) 1,
  .method "finally" (.promise .finallyFn) 1, .tag "Promise"]

end PromiseFn

end ScriptBridge.Script
