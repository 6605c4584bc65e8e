import ScriptBridge.Script.Eval.Pattern

/-!
# Statements

Each statement comes to a `Completion`; lists of statements and the rounds of loops go on by a
further request in place of their own (`Final.tail`), so that no loop is a recursion.
-/

namespace ScriptBridge.Script

/-- What the run of a request comes to: a reply, or another request that replies for it. -/
inductive Final
  | reply (r : Reply)
  | tail (q : Request)

namespace Completion

/-- The completion, with a value if it has none of its own. -/
def orValue (last : Option Value) : Completion → Completion
  | .normal v => .normal (v.or last)
  | .ret v => .ret v
  | .leave l v => .leave l (v.or last)
  | .again l v => .again l (v.or last)

/-- The completion of a statement that always has a value. -/
def valued (c : Completion) : Completion := c.orValue (some .undefined)

/-- What a loop does after a round: it goes on with the value so far, or it ends. -/
def afterRound (labels : List String) (last : Option Value) (c : Completion) :
    Except Completion (Option Value) :=
  match c with
  | .normal v => .ok (v.or last)
  | .again none v => .ok (v.or last)
  | .again (some l) v =>
    if labels.contains l then .ok (v.or last) else .error (.again (some l) (v.or last))
  | .leave none v => .error (.normal (v.or last))
  | .leave (some l) v => .error (.leave (some l) (v.or last))
  | .ret v => .error (.ret v)

end Completion

namespace Proc

/-- Replies with a completion. -/
def complete (c : Completion) : Proc Final := pure (.reply (.completion c))

/-- Replies that nothing happened. -/
def proceed : Proc Final := complete (.normal none)

/-! ### Declarations -/

/-- Gives declared variables their values. -/
def declareAll (kind : DeclKind) (env : Env) : List (Pattern × Option Expr) → Proc Unit
  | [] => pure ()
  | (p, init) :: rest => do
    let mode := if kind = .var then BindMode.assign else .create
    match p, init with
    | _, some e =>
      let v ← match p with
        | .target t => evalAssigned t e env
        | _ => eval e env
      bindPattern p v mode env
    | _, none => unless kind = .var do bindPattern p .undefined mode env
    declareAll kind env rest

/-! ### Loops -/

/-- A copy of the innermost scope for the next round of a loop with variables of its own. -/
def freshRound (own : List String) (env : Env) : Proc Env := do
  if own.isEmpty then return env
  let s ← scope env.scope
  let copy ← allocScope { s with activation := none }
  return { env with scope := copy }

/-- The first round of a loop with three parts. -/
def startLoop (init : Option Stmt) (test update : Option Expr) (body : Stmt)
    (labels : List String) (env : Env) : Proc Final := do
  let go (own : List String) (env : Env) : Final :=
    .tail (.loop ⟨test, update, body, labels, own⟩ (some .undefined) env)
  match init with
  | some (.decl .var bindings) =>
    declareAll .var env bindings
    return go [] env
  | some (.decl kind bindings) =>
    let names := bindingNames bindings
    let vars := names.map fun name => { name, value := none, isConst := kind = .const }
    let scope ← allocScope { vars, parent := some env.scope }
    let inner := { env with scope }
    declareAll kind inner bindings
    let own := if kind = .letVar then names else []
    return go own (← freshRound own inner)
  | some (.expr e) =>
    discard (eval e env)
    return go [] env
  | _ => return go [] env

/-- One round of a loop. -/
def runLoop (l : Loop) (last : Option Value) (env : Env) : Proc Final := do
  let goesOn ← match l.test with
    | some e => do pure (← eval e env).truthy
    | none => pure true
  if !goesOn then complete (.normal last)
  else
    match (← exec l.body [] env).afterRound l.labels last with
    | .error c => complete c
    | .ok last =>
      let env ← freshRound l.own env
      if let some e := l.update then discard (eval e env)
      return .tail (.loop l last env)

/-- The keys that a loop over an object goes through: its own and those of its prototypes; `fuel`
bounds the chain. -/
def inheritedKeys (w : World) : Nat → List Key → Ref → List Key
  | 0, _ => fun _ => []
  | fuel + 1, seen => fun r =>
    let o := w.objects.getD r default
    let own := (ownKeysOf o).filter fun k => k.str?.isSome && !seen.contains k
    let shown := own.filter fun k => match ownIn w o k with
      | some p => p.enumerable
      | none => false
    shown ++ o.proto.elim [] (inheritedKeys w fuel (seen ++ own))

/-- Where one round of a loop over items or keys runs: its variables are new each time. -/
def enterRound (l : EachLoop) (v : Value) (env : Env) : Proc Env := do
  match l.kind with
  | some .letVar | some .const =>
    let vars := l.target.names.map fun name =>
      { name, value := none, isConst := l.kind = some .const }
    let scope ← allocScope { vars, parent := some env.scope }
    let env := { env with scope }
    bindPattern l.target v .create env
    return env
  | _ =>
    bindPattern l.target v .assign env
    return env

/-- The start of a loop over items or keys. -/
def startEach (l : EachLoop) (e : Expr) (env : Env) : Proc Final := do
  let head ← match l.kind with
    | some .letVar | some .const =>
      let vars := l.target.names.map fun name => { name, value := none }
      pure { env with scope := ← allocScope { vars, parent := some env.scope } }
    | _ => pure env
  let v ← eval e head
  match l.each with
  | .items =>
    let (iterator, next) ← iteratorOf v
    return .tail (.eachItem l iterator next (some .undefined) env)
  | .awaited =>
    let (iterator, next) ← asyncIteratorOf v
    return .tail (.eachItem l iterator next (some .undefined) env)
  | .keys =>
    if v.isNullish then complete (.normal (some .undefined))
    else
      let r ← toObject v
      let w ← world
      let keys := inheritedKeys w (w.objects.size + 1) [] r
      return .tail (.eachKey l (.object r) keys (some .undefined) env)

/-- One round of a loop over keys. -/
def runEachKey (l : EachLoop) (source : Value) (keys : List Key) (last : Option Value)
    (env : Env) : Proc Final := do
  match keys with
  | [] => complete (.normal last)
  | k :: rest =>
    let present ← match source with
      | .object r => hasProperty r k
      | _ => pure true
    if !present then return .tail (.eachKey l source rest last env)
    let inner ← enterRound l (keyValue k) env
    match (← exec l.body [] inner).afterRound l.labels last with
    | .error c => complete c
    | .ok last => return .tail (.eachKey l source rest last env)

/-- One round of a loop over items. -/
def runEachItem (l : EachLoop) (iterator next : Value) (last : Option Value) (env : Env) :
    Proc Final := do
  let result ← call next iterator []
  let result ← if l.each = .awaited then awaitValue result else pure result
  match ← itemOf result with
  | none => complete (.normal last)
  | some v =>
    let outcome ← attempt (do
      let inner ← enterRound l v env
      return (← exec l.body [] inner).afterRound l.labels last)
    match outcome with
    | .error e =>
      abandonIterator iterator e
      throwValue e
    | .ok (.error c) =>
      closeIterator iterator
      complete c
    | .ok (.ok last) => return .tail (.eachItem l iterator next last env)

/-! ### Blocks -/

/-- Runs statements in a block of their own. -/
def runBlock (body : List Stmt) (env : Env) : Proc Completion := do
  statements body (← enterBlock body env)

/-- Runs the part of a statement that catches. -/
def runHandler (param : Option Pattern) (body : List Stmt) (v : Value) (env : Env) :
    Proc Completion := do
  match param with
  | none => runBlock body env
  | some p =>
    let vars := p.names.map fun name => { name, value := none }
    let scope ← allocScope { vars, parent := some env.scope }
    let inner := { env with scope }
    bindPattern p v .create inner
    runBlock body inner

/-- Runs a statement that catches, or has a part that always runs. -/
def runAttempt (body : List Stmt) (handler : Option (Option Pattern × List Stmt))
    (finalizer : Option (List Stmt)) (env : Env) : Proc Completion := do
  let outcome ← attempt (runBlock body env)
  let outcome ← match outcome, handler with
    | .error e, some (param, h) => do
      if (← returning? e).isSome then pure (.error e) else attempt (runHandler param h e env)
    | o, _ => pure o
  match finalizer with
  | none => pure ()
  | some f =>
    match ← runBlock f env with
    | .normal _ => pure ()
    | c => return c.valued
  match outcome with
  | .ok c => return c.valued
  | .error e => throwValue e

/-- The place of the case that a value selects. -/
def selectCase (v : Value) (env : Env) : List (Option Expr × List Stmt) → Nat →
    Proc (Option Nat)
  | [], _ => pure none
  | (none, _) :: rest, i => selectCase v env rest (i + 1)
  | (some e, _) :: rest, i => do
    if v.strictEquals (← eval e env) then return some i
    else selectCase v env rest (i + 1)

/-- Runs the cases from the selected one on. -/
def runSwitch (e : Expr) (cases : List (Option Expr × List Stmt)) (env : Env) :
    Proc Completion := do
  let v ← eval e env
  let env ← enterBlock (cases.flatMap (·.2)) env
  let start ← match ← selectCase v env cases 0 with
    | some i => pure i
    | none => pure ((cases.findIdx? fun c => c.1.isNone).getD cases.length)
  match ← statements ((cases.drop start).flatMap (·.2)) env with
  | .leave none v => return .normal (v.or (some .undefined))
  | c => return c.valued

/-! ### Statements -/

/-- Runs a statement that `labels` stand in front of. -/
def runStmt (labels : List String) (env : Env) : Stmt → Proc Final
  | .expr e => do complete (.normal (some (← eval e env)))
  | .decl kind bindings => do
    declareAll kind env bindings
    proceed
  | .func f escapes => do
    if escapes then
      if let some name := f.info.name then
        let r ← makeFunction f env (declaredName name) none
        assignOuter name (.object r) env
    proceed
  | .empty => proceed
  | .klass (.mk name text parent ctor members) => do
    let v ← evalClass (Str.ofString "default") env (.mk name text parent ctor members)
    if let some n := name then initializeVar n v env
    proceed
  | .ret e => do
    match e with
    | some e => complete (.ret (← eval e env))
    | none => complete (.ret .undefined)
  | .cond test yes no => do
    if (← eval test env).truthy then complete (← exec yes [] env).valued
    else
      match no with
      | some s => complete (← exec s [] env).valued
      | none => complete (.normal (some .undefined))
  | .loop init test update body => startLoop init test update body labels env
  | .doWhile body test => do
    match (← exec body [] env).afterRound labels (some .undefined) with
    | .error c => complete c
    | .ok last => return .tail (.loop ⟨some test, none, body, labels, []⟩ last env)
  | .forEach each kind target e body => startEach ⟨each, kind, target, body, labels⟩ e env
  | .block body => do complete (← runBlock body env)
  | .leave label => complete (.leave label none)
  | .again label => complete (.again label none)
  | .throw e => do rethrow (← eval e env)
  | .attempt body handler finalizer => do complete (← runAttempt body handler finalizer env)
  | .switch e cases => do complete (← runSwitch e cases env)
  | .labeled label body => do
    match ← exec body (label :: labels) env with
    | .leave (some l) v => complete (if l == label then .normal v else .leave (some l) v)
    | c => complete c
  | .exportDefault e => do
    initializeVar "*default*" (← evalNamed e (Str.ofString "default") env) env
    proceed

/-- Runs statements one after the other; `last` is the value so far. -/
def runStatements (body : List Stmt) (last : Option Value) (env : Env) : Proc Final := do
  match body with
  | [] => complete (.normal last)
  | s :: rest =>
    match ← exec s [] env with
    | .normal v => return .tail (.statements rest (v.or last) env)
    | c => complete (c.orValue last)

end Proc

end ScriptBridge.Script
