import ScriptBridge.Script.Module.Link

/-!
# Running modules

Each module runs once, after those that it asks for.  A module that waits, or that asks for one
that does, is async: it runs when all that it asks for has ended.  Modules that ask for each other
in a circle end together; the first of them that was come to is the root of the circle, and has the
promise for all.
-/

namespace ScriptBridge.Script

namespace Proc

/-- How far an evaluation has come: the next turn, and the modules whose circle is open, the last
one first. -/
structure Progress where
  turn : Nat := 0
  stack : List Nat := []

/-- The program of a module. -/
def moduleProgram (id : Nat) : Proc Program := do return ((← moduleTable).record id).program

/-- Starts the body of a module that waits. -/
def startAsyncModule (id : Nat) : Proc Unit := do
  let cap ← ownCapability
  discard (ask (.asyncModuleBody cap id))
  let done ← allocNative .moduleDone [Value.ofNat id] "" 0
  let failed ← allocNative .moduleFailed [Value.ofNat id] "" 0
  match cap.promise with
  | .object p => performThen p (.object done) (.object failed) none
  | _ => pure ()

/-- Runs the body of a module that does not wait: nothing, or what it threw. -/
def runSyncModule (id : Nat) : Proc (Option Value) := do
  match ← attempt (ask (.moduleBody id)) with
  | .ok _ => return none
  | .error e => return some e

/-- Gives a module its turn among the async ones. -/
def markAsync (id : Nat) : Proc Unit := do
  let turn ← update fun w => (w.nextAsync, { w with nextAsync := w.nextAsync + 1 })
  modifyModule id fun m => { m with asyncOrder := some turn }

/-- The modules of a circle, which is closed: its root and those that came after it. -/
def closeCircle (root : Nat) : List Nat → Proc (List Nat)
  | [] => pure []
  | id :: rest => do
    modifyModule id fun m => { m with
      status := if m.asyncOrder.isSome then .evaluatingAsync else .evaluated
      cycleRoot := some root }
    if id == root then return rest else closeCircle root rest

/-- Notes that a module asks for another, which was come to: what that one threw, if it failed. -/
def joinRequest (id target : Nat) : Proc (Option Value) := do
  let t ← moduleState target
  let (failure, waited) ← match t.status with
    | .evaluating => do
      modifyModule id fun m => { m with ancestor := min m.ancestor t.ancestor }
      pure (none, target)
    | _ => do
      let root := t.cycleRoot.getD target
      pure ((← moduleState root).failure, root)
  if failure.isSome then return failure
  if (← moduleState waited).asyncOrder.isSome then
    modifyModule id fun m => { m with pendingAsync := m.pendingAsync + 1 }
    modifyModule waited fun m => { m with asyncParents := m.asyncParents ++ [id] }
  return none

/-- Runs the modules that a module asks for, by `run`. -/
def runRequests (run : Nat → Progress → Proc (Progress × Option Value)) (id : Nat) :
    List Nat → Progress → Proc (Progress × Option Value)
  | [], p => pure (p, none)
  | target :: rest, p => do
    let (p, failure) ← run target p
    if failure.isSome then return (p, failure)
    let failure ← joinRequest id target
    if failure.isSome then return (p, failure)
    runRequests run id rest p

/-- Runs a module after those that it asks for: how far that came, and what was thrown.  `fuel`
bounds how long a chain of modules is. -/
def evaluateFrom : Nat → Nat → Progress → Proc (Progress × Option Value)
  | 0, _, p => pure (p, none)
  | fuel + 1, id, p => do
    let m ← moduleState id
    match m.status with
    | .evaluatingAsync | .evaluated => return (p, m.failure)
    | .evaluating => return (p, none)
    | _ =>
      modifyModule id fun m => { m with
        status := .evaluating, visit := p.turn, ancestor := p.turn, pendingAsync := 0 }
      let p : Progress := ⟨p.turn + 1, id :: p.stack⟩
      let requested := ((← moduleTable).record id).requested.getD []
      let (p, failure) ← runRequests (evaluateFrom fuel) id requested p
      if failure.isSome then return (p, failure)
      let now ← moduleState id
      let failure ←
        if 0 < now.pendingAsync then do
          markAsync id
          pure none
        else if (← moduleProgram id).waits then do
          markAsync id
          startAsyncModule id
          pure none
        else runSyncModule id
      if failure.isSome then return (p, failure)
      let now ← moduleState id
      if now.ancestor == now.visit then
        return ({ p with stack := ← closeCircle id p.stack }, none)
      else return (p, none)

/-- Marks the modules of an open circle as failed. -/
def failCircle (root : Nat) (failure : Value) : List Nat → Proc Unit
  | [] => pure ()
  | id :: rest => do
    modifyModule id fun m => { m with
      status := .evaluated, failure := some failure, cycleRoot := some root }
    failCircle root failure rest

/-- Evaluates a module for its own sake, and settles the promise for it. -/
def evaluateRoot (root : Nat) (cap : Capability) : Proc Unit := do
  let (p, failure) ← evaluateFrom ((← moduleTable).records.size + 1) root {}
  match failure with
  | some e =>
    failCircle root e p.stack
    discard (call cap.reject .undefined [e])
  | none =>
    if (← moduleState root).asyncOrder.isNone then
      discard (call cap.resolve .undefined [.undefined])

/-- Evaluates a module that was linked with those in `order`: the promise for the end of its
evaluation. -/
def evaluateLinked (id : Nat) (order : List Nat) : Proc Value := do
  discard (attempt (instantiate order))
  let m ← moduleState id
  let root := match m.status with
    | .evaluatingAsync | .evaluated => m.cycleRoot.getD id
    | _ => id
  match (← moduleState root).promise with
  | some cap => return cap.promise
  | none =>
    let cap ← ownCapability
    modifyModule root fun m => { m with promise := some cap }
    discard (attempt (evaluateRoot root cap))
    return cap.promise

/-- Links and evaluates a module. -/
def evaluateModule (id : Nat) : Proc Value := do evaluateLinked id (← askModules (.link id))

/-! ### The end of async modules -/

/-- Settles the promise for a module, if it has one. -/
def settleModule (id : Nat) (failure : Option Value) : Proc Unit := do
  modifyModule id fun m => { m with status := .evaluated, failure, asyncOrder := none }
  match (← moduleState id).promise with
  | some cap =>
    match failure with
    | some e => discard (call cap.reject .undefined [e])
    | none => discard (call cap.resolve .undefined [.undefined])
  | none => pure ()

/-- The modules that need not wait any longer when a module has ended; `fuel` bounds how long a
chain of them is. -/
def freedBy : Nat → List Nat → Nat → Proc (List Nat)
  | 0, acc, _ => pure acc
  | fuel + 1, acc, id => do
    let mut acc := acc
    for parent in (← moduleState id).asyncParents do
      let m ← moduleState parent
      let root ← moduleState (m.cycleRoot.getD parent)
      if !acc.contains parent && root.failure.isNone then
        modifyModule parent fun m => { m with pendingAsync := m.pendingAsync - 1 }
        if m.pendingAsync == 1 then
          acc := acc ++ [parent]
          unless (← moduleProgram parent).waits do acc ← freedBy fuel acc parent
    return acc

/-- Ends a module that failed, and those that wait for it; `fuel` bounds how long a chain of them
is. -/
def asyncFailed : Nat → Nat → Value → Proc Unit
  | 0, _, _ => pure ()
  | fuel + 1, id, e => do
    let m ← moduleState id
    unless m.status == .evaluated do
      modifyModule id fun m => { m with
        status := .evaluated, failure := some e, asyncOrder := none }
      for parent in m.asyncParents do
        asyncFailed fuel parent e
      match m.promise with
      | some cap => discard (call cap.reject .undefined [e])
      | none => pure ()

/-- Runs a module that need not wait any longer. -/
def runFreed (id : Nat) : Proc Unit := do
  let m ← moduleState id
  unless m.status == .evaluated do
    if (← moduleProgram id).waits then startAsyncModule id
    else
      match ← runSyncModule id with
      | some e => asyncFailed ((← world).modules.size + 1) id e
      | none => settleModule id none

/-- Ends a module that waited, and goes on with those that wait for it. -/
def asyncDone (id : Nat) : Proc Unit := do
  unless (← moduleState id).status == .evaluated do
    settleModule id none
    let w ← world
    let freed ← freedBy (w.modules.size + 1) [] id
    let order (m : Nat) : Nat := (w.modules.getD m default).asyncOrder.getD 0
    for m in freed.mergeSort fun a b => order a ≤ order b do
      runFreed m

/-! ### Imports by name -/

/-- The specifier that a value of running code is. -/
def specifierOf (v : Value) : Proc String := do
  match specifierText (← toStr v) with
  | .ok s => return s
  | .error f => throwFault f

/-- Imports a module: its namespace, or what went wrong, settles a promise. -/
def importInto (base : String) (specifier : Proc String) (cap : Capability) : Proc Unit := do
  let outcome ← attempt (do
    let found ← askModules (.find (ModuleName.resolve base (← specifier)))
    let id := found.headD 0
    discard (askModules (.resolve id))
    return (id, ← evaluateModule id))
  match outcome with
  | .error e => discard (call cap.reject .undefined [e])
  | .ok (id, evaluation) =>
    let captured := [cap.resolve, cap.reject, Value.ofNat id]
    let done ← allocNative .importDone captured "" 0
    let failed ← allocNative .importFailed captured "" 0
    match evaluation with
    | .object p => performThen p (.object done) (.object failed) none
    | _ => pure ()

/-- Settles an import whose module has ended. -/
def finishImport (captured : List Value) : Proc Unit := do
  match captured with
  | [resolve, reject, .int id] =>
    match ← attempt (do namespaceOf (← moduleTable) id.toInt.toNat) with
    | .ok ns => discard (call resolve .undefined [ns])
    | .error e => discard (call reject .undefined [e])
  | _ => pure ()

/-- Imports a module for the host. -/
def importByName (name : String) : Proc Value := do
  let cap ← ownCapability
  importInto "" (pure name) cap
  return cap.promise

end Proc

end ScriptBridge.Script
