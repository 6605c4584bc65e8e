import ScriptBridge.Script.Builtin.Consumption
import ScriptBridge.Script.Eval.Call
import ScriptBridge.Script.Eval.Statement

/-!
# Programs, async bodies and jobs, and what each request does

`Request.run` is the procedure behind each request that the machine does not answer by itself.
-/

namespace ScriptBridge.Script

namespace Proc

/-! ### Scripts -/

/-- Refuses a variable of a name that is declared already. -/
def redeclared (name : String) : Proc Unit :=
  throwNew .syntaxError s!"redeclaration of '{Key.shown name}'"

/-- Refuses variables of the global object that clash with earlier declarations. -/
def checkGlobalVars (names : List String) : Proc Unit := do
  let known := (← scope Intrinsic.globalScope).vars.map (·.name)
  for name in names do
    if known.contains name then redeclared name

/-- Refuses declarations that clash with earlier ones. -/
def checkGlobals (p : Program) : Proc Unit := do
  let known := (← scope Intrinsic.globalScope).vars.map (·.name)
  for (name, kind) in lexicalNames p.body do
    unless kind = .func do
      if known.contains name then redeclared name
      if let some q ← ownProperty Intrinsic.global (.ofString name) then
        unless q.configurable do redeclared name
  checkGlobalVars (p.vars ++ functionNames p.body)

/-- A property of the global object as a declaration makes it; it can be deleted only if running
code made it. -/
def globalVar (configurable : Bool) (v : Value) : Property := ⟨.data v, true, true, configurable⟩

/-- Declares variables as properties of the global object. -/
def declareGlobals (configurable : Bool) (names : List String) : Proc Unit := do
  for name in names do
    let k := Key.ofString name
    if (← ownProperty Intrinsic.global k).isNone then
      if (← object Intrinsic.global).extensible then
        define Intrinsic.global k (globalVar configurable .undefined)
      else throwType s!"cannot define variable '{Key.shown name}'"

/-- Makes the functions that statements declare as properties of the global object. -/
def hoistGlobals (configurable : Bool) (env : Env) : List Stmt → Proc Unit
  | [] => pure ()
  | s :: rest => do
    match s.unlabeled with
    | .func f _ =>
      if let some name := f.info.name then
        let v := Value.object (← makeFunction f env (Str.ofString name) none)
        let k := Key.ofString name
        match ← ownProperty Intrinsic.global k with
        | some q =>
          if q.configurable then define Intrinsic.global k (globalVar configurable v)
          else if q.isData && q.writable && q.enumerable then
            define Intrinsic.global k { q with holding := .data v }
          else throwType s!"cannot define variable '{Key.shown name}'"
        | none => define Intrinsic.global k (globalVar configurable v)
    | _ => pure ()
    hoistGlobals configurable env rest

/-- The value that a program completes with. -/
def completed : Completion → Proc Value
  | .normal (some v) => pure v
  | _ => pure .undefined

/-- Runs a script: its completion value. -/
def runScript (p : Program) (file : String) : Proc Value := do
  let env : Env := ⟨Intrinsic.globalScope, file, p.isStrict, ← newProgram⟩
  checkGlobals p
  declare Intrinsic.globalScope (lexicalBindings (lexicalNames p.body))
  declareGlobals false p.vars
  hoistGlobals false env p.body
  completed (← statements p.body env)

/-! ### Programs that running code evaluates -/

/-- Whether a name is declared in a scope, or between it and the scope `outer`; `fuel` bounds the
chain. -/
def isDeclaredWithin (w : World) (name : String) (outer : ScopeRef) : Nat → ScopeRef → Bool
  | 0, _ => false
  | fuel + 1, s =>
    let scope := w.scopes.getD s default
    (scope.find? name).isSome
      || s != outer && scope.parent.elim false (isDeclaredWithin w name outer fuel)

/-- Declares variables in the scope `outer`, unless code at `env` sees others of their names before
it comes there. -/
def declareOutwards (outer : ScopeRef) (env : Env) (names : List String) : Proc Unit := do
  let w ← world
  let missing := names.filter fun name =>
    !isDeclaredWithin w name outer (w.scopes.size + 1) env.scope
  declare outer (missing.map fun name => { name, value := some .undefined })

/-- Makes the functions that statements declare for variables that there are already. -/
def assignFunctions (env : Env) : List Stmt → Proc Unit
  | [] => pure ()
  | s :: rest => do
    match s.unlabeled with
    | .func f _ =>
      if let some name := f.info.name then
        assignVar name (.object (← makeFunction f env (declaredName name) none)) env
    | _ => pure ()
    assignFunctions env rest

/-- Runs a program at a place in running code: its completion value.  What it declares by `let` is
its own; so is everything if it is strict, and otherwise its variables are those of the function
around, or of the global object. -/
def runEvaluated (p : Program) (env : Env) : Proc Value := do
  let w ← world
  let outer := w.varScope (w.scopes.size + 1) env.scope
  let around := env
  let scope ← allocScope {
    vars := lexicalBindings (lexicalNames p.body), parent := some env.scope
    holdsVars := p.isStrict }
  let env := { env with scope, isStrict := p.isStrict, program := ← newProgram }
  if p.isStrict then
    declare scope (p.vars.map fun name => { name, value := some .undefined })
    hoistFunctions env p.body
  else if outer = Intrinsic.globalScope then
    checkGlobalVars (p.vars ++ functionNames p.body)
    declareGlobals true p.vars
    hoistGlobals true env p.body
  else
    declareOutwards outer around (p.vars ++ functionNames p.body)
    assignFunctions env p.body
  completed (← statements p.body env)

/-! ### Async bodies and jobs -/

/-- Runs the body of an async function and settles its promise. -/
def runAsyncBody (cap : Capability) (body : List Stmt) (env : Env) : Proc Unit := do
  match ← attempt (statements body env) with
  | .ok c => discard (call cap.resolve .undefined [returned c])
  | .error e => discard (call cap.reject .undefined [e])

/-- Starts the body of a module by `run`, if that is allowed. -/
def startModule (id : Nat) (run : List Stmt → Env → Proc Unit) : Proc Unit := do
  if ← mayStart id then
    let m := (← moduleTable).record id
    run m.program.body (moduleEnv m (← moduleState id))

/-- Runs a job. -/
def runJob : Job → Proc Unit
  | .reaction r rejected v => runReaction r rejected v
  | .follow p thenable method => runFollow p thenable method
  | .microtask f => discard (call f .undefined [])
  | .importModule base specifier cap =>
    importInto base (specifierOf specifier) cap

/-- One step of reading an iteration to its end. -/
def collectStep (iterator next : Value) (acc : List Value) : Proc Final := do
  match ← iterate iterator next with
  | some v => return .tail (.collect iterator next (v :: acc))
  | none => return .reply (.values acc.reverse)

end Proc

namespace Request

open Proc

/-- What a request does. -/
def run : Request → Proc Final
  | .eval e env => do return .reply (← evalExpr env e)
  | .named e name env => do return .reply (← evalNamedExpr name env e)
  | .callee e env => do return .reply (← evalCallee env e)
  | .exec s labels env => runStmt labels env s
  | .statements body last env => runStatements body last env
  | .loop l last env => runLoop l last env
  | .eachKey l source keys last env => runEachKey l source keys last env
  | .eachItem l iterator next last env => runEachItem l iterator next last env
  | .bind p v mode env => do
    bindOne v mode env p
    return .reply .nothing
  | .call f this args => do return .reply (.value (← callValue f this args))
  | .construct f args newTarget => do
    return .reply (.value (← constructValue f args newTarget))
  | .collect iterator next acc => collectStep iterator next acc
  | .helperStep r => do
    match ← helperTurn r with
    | none => return .tail (.helperStep r)
    | some item => return .reply (.values item.toList)
  | .consume iterator next c count => do
    match ← c.step iterator next count with
    | .inl c => return .tail (.consume iterator next c (count + 1))
    | .inr v => return .reply (.value v)
  | .script p file => do return .reply (.value (← runScript p file))
  | .evaluated p env => do return .reply (.value (← runEvaluated p env))
  | .moduleBody id => do
    startModule id fun body env => discard (Proc.statements body env)
    return .reply .nothing
  | .asyncModuleBody cap id => do
    startModule id (runAsyncBody cap)
    return .reply .nothing
  | .asyncBody cap body env => do
    runAsyncBody cap body env
    return .reply .nothing
  | .generatorBody body env => do return .reply (.completion (← Proc.statements body env))
  | .asyncGeneratorBody r body env => do
    runAsyncGenerator r body env
    return .reply .nothing
  | .serve r => do
    if ← serveDemand r then return .tail (.serve r) else return .reply .nothing
  | .delegate r iterator next how v => do
    match ← delegateStep r iterator next how v with
    | .value v => return .reply (.value v)
    | .more how v => return .tail (.delegate r iterator next how v)
  | .job j => do
    runJob j
    return .reply .nothing
  | .await _ | .pause _ | .resume .. | .traced | .host _ => return .reply .nothing

/-- How a request marks the code that waits for its reply. -/
inductive Mark
  | plain
  /-- It shows up in stack traces. -/
  | traced
  /-- It shows up too, and code above it can wait. -/
  | async
deriving DecidableEq

/-- How the call of a value shows up. -/
def markOfCallee (w : World) : Value → Mark
  | .object r =>
    match (w.objects.getD r default).kind with
    | .function _ => .traced
    | .native code _ => if code.isTraced then .traced else .plain
    | _ => .plain
  | _ => .plain

/-- How a request shows up. -/
def mark (w : World) : Request → Mark
  | .call f _ _ => markOfCallee w f
  | .construct f _ _ => markOfCallee w f
  | .script .. | .evaluated .. | .moduleBody _ => .traced
  | .asyncModuleBody .. | .asyncBody .. | .generatorBody .. | .asyncGeneratorBody ..
  | .resume .. => .async
  | _ => .plain

end Request

end ScriptBridge.Script
