import ScriptBridge.Script.Promise

/-!
# Generators

A generator runs its body up to a `yield`, which puts the body aside under a number; the next step
takes it up again.  A step may also make the body throw or return where it stopped: returning is a
value that is thrown, that no handler catches, and that runs the parts that always run.  An async
generator keeps a list of what it was asked for, and serves one demand after the other.
-/

namespace ScriptBridge.Script

namespace Proc

/-- The value that a body returned. -/
def returned : Completion → Value
  | .ret v => v
  | _ => .undefined

/-! ### Generators -/

/-- The state of the generator that a value is. -/
def generatorState (v : Value) : Proc (Ref × GeneratorState) := do
  match v with
  | .object r =>
    match (← object r).kind with
    | .generator state => return (r, state)
    | _ => throwType "not a generator"
  | _ => throwType "not a generator"

/-- What a generator comes to that does not run any more. -/
def afterEnd (how : Resumption) (v : Value) : Proc Value :=
  match how with
  | .next => iterationResult .undefined true
  | .finish => iterationResult v true
  | .fail => throwValue v

/-- Goes on with code that was put aside. -/
def takeUp (id : Nat) (how : Resumption) (v : Value) : Proc Reply := do
  match how with
  | .next => ask (.resume id false v)
  | .fail => ask (.resume id true v)
  | .finish =>
    let r ← alloc { kind := .returning v, proto := none }
    ask (.resume id true (.object r))

/-- The result of a step of a generator that ran. -/
def stepResult (r : Ref) (outcome : Except Value Reply) : Proc Value := do
  match outcome with
  | .ok (.paused v isResult) => if isResult then return v else iterationResult v false
  | .ok (.completion c) =>
    setKind r (.generator .finished)
    iterationResult (returned c) true
  | .ok _ => return .undefined
  | .error e =>
    setKind r (.generator .finished)
    match ← returning? e with
    | some v => iterationResult v true
    | none => throwValue e

/-- One step of a generator. -/
def stepGenerator (this : Value) (how : Resumption) (v : Value) : Proc Value := do
  let (r, state) ← generatorState this
  match state with
  | .fresh body env =>
    match how with
    | .next =>
      setKind r (.generator .running)
      stepResult r (← attempt (ask (.generatorBody body env)))
    | how =>
      setKind r (.generator .finished)
      afterEnd how v
  | .paused id =>
    setKind r (.generator .running)
    stepResult r (← attempt (takeUp id how v))
  | .finished => afterEnd how v
  | .running | .returning => throwType "cannot invoke a running generator"

/-- Puts the body of a generator aside with a value: how it goes on, and with what. -/
def yieldSync (r : Ref) (v : Value) (isResult : Bool) : Proc (Resumption × Value) := do
  setKind r (.generator (.paused (← world).nextWait))
  match ← attempt (ask (.pause (.paused v isResult))) with
  | .ok reply => return (.next, valueOf reply)
  | .error e =>
    match ← returning? e with
    | some v => return (.finish, v)
    | none => return (.fail, e)

/-! ### Async generators -/

/-- The state of an async generator, and what it was asked for. -/
def asyncGeneratorState (r : Ref) : Proc (GeneratorState × List GeneratorDemand) := do
  match (← object r).kind with
  | .asyncGenerator state demands => return (state, demands)
  | _ => return (.finished, [])

/-- Changes the state of an async generator. -/
def setAsyncState (r : Ref) (state : GeneratorState) : Proc Unit := do
  let (_, demands) ← asyncGeneratorState r
  setKind r (.asyncGenerator state demands)

/-- Takes the first demand from an async generator. -/
def takeDemand? (r : Ref) : Proc (Option GeneratorDemand) := do
  match ← asyncGeneratorState r with
  | (_, []) => return none
  | (state, d :: rest) =>
    setKind r (.asyncGenerator state rest)
    return some d

/-- Answers the first demand with the result of a step. -/
def answerDemand (r : Ref) (v : Value) (done : Bool) : Proc Unit := do
  if let some d ← takeDemand? r then
    let result ← iterationResult v done
    discard (call d.capability.resolve .undefined [result])

/-- Answers the first demand with a failure. -/
def refuseDemand (r : Ref) (e : Value) : Proc Unit := do
  if let some d ← takeDemand? r then discard (call d.capability.reject .undefined [e])

/-- Puts the body of an async generator aside with a value, unless something else was asked for
meanwhile: how it goes on, and with what. -/
def yieldAsync (r : Ref) (v : Value) : Proc (Resumption × Value) := do
  answerDemand r v false
  match ← asyncGeneratorState r with
  | (_, d :: _) => return (d.how, d.value)
  | _ =>
    setAsyncState r (.paused (← world).nextWait)
    match ← attempt (ask (.pause .nothing)) with
    | .ok reply => return (.next, valueOf reply)
    | .error e =>
      match ← returning? e with
      | some v => return (.finish, v)
      | none => return (.fail, e)

/-- Runs the body of an async generator and answers the demand that its end meets. -/
def runAsyncGenerator (r : Ref) (body : List Stmt) (env : Env) : Proc Unit := do
  let outcome ← attempt (statements body env)
  setAsyncState r .finished
  match outcome with
  | .ok c => answerDemand r (returned c) true
  | .error e =>
    match ← returning? e with
    | some v => answerDemand r v true
    | none => refuseDemand r e
  discard (ask (.serve r))

/-- Waits for the value that an async generator is to return, which does not run any more. -/
def awaitReturn (r : Ref) (v : Value) : Proc Unit := do
  setAsyncState r .returning
  let onValue ← allocNative (.generator .returnMet) [.object r] "" 1
  let onFailure ← allocNative (.generator .returnFailed) [.object r] "" 1
  match ← attempt (promiseResolve (.object Intrinsic.promise) v) with
  | .ok (.object p) => performThen p (.object onValue) (.object onFailure) none
  | .ok _ => pure ()
  | .error e => discard (call (.object onFailure) .undefined [e])

/-- Serves the first demand of an async generator: whether to go on with the next. -/
def serveDemand (r : Ref) : Proc Bool := do
  match ← asyncGeneratorState r with
  | (_, []) | (.running, _) | (.returning, _) => return false
  | (.fresh body env, d :: _) =>
    if d.how = .next then
      setAsyncState r .running
      discard (ask (.asyncGeneratorBody r body env))
    else setAsyncState r .finished
    return true
  | (.paused id, d :: _) =>
    setAsyncState r .running
    discard (takeUp id d.how d.value)
    return true
  | (.finished, d :: _) =>
    match d.how with
    | .next =>
      answerDemand r .undefined true
      return true
    | .fail =>
      refuseDemand r d.value
      return true
    | .finish =>
      awaitReturn r d.value
      return false

/-- Asks an async generator for a step: the promise for its result. -/
def demandStep (this : Value) (how : Resumption) (v : Value) : Proc Value := do
  let capability ← ownCapability
  let refuse : Proc Value := do
    let e ← makeError .typeError "not an AsyncGenerator object"
    discard (call capability.reject .undefined [e])
    return capability.promise
  match this with
  | .object r =>
    match (← object r).kind with
    | .asyncGenerator state demands =>
      setKind r (.asyncGenerator state (demands ++ [⟨how, v, capability⟩]))
      discard (ask (.serve r))
      return capability.promise
    | _ => refuse
  | _ => refuse

/-- Ends the wait for the value that an async generator returns. -/
def endReturn (r : Ref) (failed : Bool) (v : Value) : Proc Unit := do
  setAsyncState r .finished
  if failed then refuseDemand r v else answerDemand r v true
  discard (ask (.serve r))

/-! ### Both kinds -/

/-- Whether a generator is async. -/
def isAsyncGenerator (r : Ref) : Proc Bool := do
  match (← object r).kind with
  | .asyncGenerator .. => return true
  | _ => return false

/-- The value of `yield`. -/
def yieldValue (r : Ref) (v : Value) : Proc Value := do
  if ← isAsyncGenerator r then
    match ← yieldAsync r (← awaitValue v) with
    | (.next, v) => return v
    | (.fail, e) => throwValue e
    | (.finish, v) => throwReturn (← awaitValue v)
  else
    match ← yieldSync r v false with
    | (.next, v) => return v
    | (.fail, e) => throwValue e
    | (.finish, v) => throwReturn v

/-- What one step of yielding what another iterator yields comes to. -/
inductive Delegated
  | value (v : Value)
  | more (how : Resumption) (v : Value)

/-- One step of yielding what another iterator yields. -/
def delegateStep (r : Ref) (iterator next : Value) (how : Resumption) (v : Value) :
    Proc Delegated := do
  let isAsync ← isAsyncGenerator r
  let waited (v : Value) : Proc Value := if isAsync then awaitValue v else pure v
  let checked (result : Value) : Proc Value := do
    let result ← waited result
    unless isObject result do throwType "iterator must return an object"
    return result
  let goOn (result : Value) (atEnd : Value → Proc Delegated) : Proc Delegated := do
    if (← get result (Key.ofString "done")).truthy then
      atEnd (← get result (Key.ofString "value"))
    else
      let (how, v) ←
        if isAsync then do yieldAsync r (← get result (Key.ofString "value"))
        else yieldSync r result true
      return .more how v
  match how with
  | .next => goOn (← checked (← call next iterator [v])) fun v => return .value v
  | .finish =>
    let v ← waited v
    match ← get iterator (Key.ofString "return") with
    | .undefined | .null => throwReturn (← waited v)
    | f => goOn (← checked (← call f iterator [v])) fun v => do throwReturn (← waited v)
  | .fail =>
    match ← get iterator (Key.ofString "throw") with
    | .undefined | .null =>
      match ← get iterator (Key.ofString "return") with
      | .undefined | .null => pure ()
      | f => discard (waited (← call f iterator []))
      throwType "iterator does not have a throw method"
    | f => goOn (← checked (← call f iterator [v])) fun v => return .value v

/-- The value of `yield*`. -/
def yieldAllOf (r : Ref) (v : Value) : Proc Value := do
  let (iterator, next) ← if ← isAsyncGenerator r then asyncIteratorOf v else iteratorOf v
  return valueOf (← ask (.delegate r iterator next .next .undefined))

end Proc

end ScriptBridge.Script
