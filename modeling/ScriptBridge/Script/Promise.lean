import ScriptBridge.Script.Convert
import ScriptBridge.Script.Settlement

/-!
# Promises

A promise is pending until it is settled once, by one of the two functions that are made with it,
which share a settler.  Reactions to it run as jobs, in the order in which they were added.
-/

namespace ScriptBridge.Script

namespace Proc

/-- Makes a pending promise, and a settler for it. -/
def allocPromise (proto : Ref) : Proc (Ref × Ref) :=
  act (fun w => ((w.objects.size, w.objects.size + 1), w.addPromise proto)) fun w =>
    w.evolves_addPromise proto

/-- What a promise that is resolved with a value is settled by: with an object that has a method
`then`, it follows that object. -/
def resolution (p : Ref) (v : Value) : Proc Verdict := do
  match v with
  | .object r =>
    if r == p then return .reject (← makeError .typeError "promise self resolution")
    else
      match ← attempt (getOf r (Key.ofString "then")) with
      | .error e => return .reject e
      | .ok method => return if ← isCallable method then .follow v method else .fulfill v
  | v => return .fulfill v

/-- Makes the two functions that settle the promise of a settler.  Together they settle it once. -/
def resolvingFunctions (settler : Ref) : Proc (Value × Value) := do
  let resolve ← allocNative (.promise .resolving) [.object settler] "" 1
  let reject ← allocNative (.promise .rejecting) [.object settler] "" 1
  return (.object resolve, .object reject)

/-- Makes a pending promise of the language's own kind, with the functions that settle it. -/
def ownCapability : Proc Capability := do
  let (p, settler) ← allocPromise Intrinsic.promiseProto
  let (resolve, reject) ← resolvingFunctions settler
  return ⟨.object p, resolve, reject⟩

/-- Makes a promise with a constructor, and keeps the functions that settle it. -/
def capabilityOf (ctor : Value) : Proc Capability := do
  match ctor with
  | .object c =>
    if c == Intrinsic.promise then ownCapability
    else
      let resolve ← allocCell .undefined
      let reject ← allocCell .undefined
      let executor ← allocNative (.promise .executor) [.object resolve, .object reject] "" 2
      let p ← construct ctor [.object executor] ctor
      let f ← cellValue resolve
      let g ← cellValue reject
      unless (← isCallable f) && (← isCallable g) do throwType "not a function"
      return ⟨p, f, g⟩
  | _ => throwType "not a constructor"

/-- The state of a promise, if a value is one. -/
def promiseState? (v : Value) : Proc (Option PromiseState) := do
  match v with
  | .object r =>
    match (← object r).kind with
    | .promise s => return some s
    | _ => return none
  | _ => return none

/-- The promise that a constructor makes of a value: the value itself, if it is one of its own. -/
def promiseResolve (ctor v : Value) : Proc Value := do
  if (← promiseState? v).isSome then
    if (← get v (Key.ofString "constructor")).sameValue ctor then return v
  let cap ← capabilityOf ctor
  discard (call cap.resolve .undefined [v])
  return cap.promise

/-- Waits for the value that a promise is settled with. -/
def awaitValue (v : Value) : Proc Value := do
  let p ← promiseResolve (.object Intrinsic.promise) v
  return valueOf (← onThrow (ask (.await p)) rethrow)

/-- Adds two functions as reactions to a promise; their outcome settles `cap`. -/
def performThen (p : Ref) (onValue onFailure : Value) (cap : Option Capability) : Proc Unit :=
  act (fun w => ((), w.addReactions p ⟨cap, .call onValue⟩ ⟨cap, .call onFailure⟩)) fun w =>
    w.evolves_addReactions p _ _

/-- `promise.then(onValue, onFailure)`. -/
def promiseThen (this onValue onFailure : Value) : Proc Value := do
  match this, ← promiseState? this with
  | .object p, some _ =>
    let cap ← capabilityOf (← speciesOf p (.object Intrinsic.promise))
    performThen p onValue onFailure (some cap)
    return cap.promise
  | _, _ => throwType "Promise object expected"

/-- Runs a reaction to a settled promise. -/
def runReaction (r : Reaction) (rejected : Bool) (v : Value) : Proc Unit := do
  match r.handler with
  | .resume id => discard (ask (.resume id rejected v))
  | .call f =>
    let outcome ← attempt (do
      if ← isCallable f then call f .undefined [v]
      else if rejected then throwValue v
      else return v)
    match r.capability with
    | some cap =>
      match outcome with
      | .ok result => discard (call cap.resolve .undefined [result])
      | .error e => discard (call cap.reject .undefined [e])
    | none => pure ()

/-- Makes the promise of a settler follow an object with a method `then`. -/
def runFollow (settler : Ref) (thenable method : Value) : Proc Unit := do
  let (resolve, reject) ← resolvingFunctions settler
  match ← attempt (call method thenable [resolve, reject]) with
  | .ok _ => pure ()
  | .error e => discard (call reject .undefined [e])

/-- Settles a promise by one of the functions made with it, if none was called before. -/
def settleOnce (captured : List Value) (rejected : Bool) (v : Value) : Proc Value := do
  match captured with
  | [.object settler] =>
    match (← world).settler? settler with
    | some (p, false) =>
      act (fun w => ((), w.useSettler settler)) fun w => w.evolves_useSettler settler
      let verdict ← if rejected then pure (.reject v) else resolution p v
      act (fun w => ((), w.concludeBy settler verdict)) fun w =>
        w.evolves_concludeBy settler verdict
      return .undefined
    | _ => return .undefined
  | _ => return .undefined

end Proc

end ScriptBridge.Script
