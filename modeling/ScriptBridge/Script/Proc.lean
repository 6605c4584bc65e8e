import ScriptBridge.Script.Evolution

/-!
# Procedures

A procedure reads and changes the world, and comes to a value or to a thrown value.  What it cannot
do by itself it asks for: it stops with a `Request` and goes on when it gets the `Reply`.  Running
code, calling functions, waiting and talking to the host are all requests, so every procedure is
finite, and only the machine that answers requests runs for long.

A procedure carries the proof that it leads from each world to worlds that have evolved from it
(`World.Evolves`), also where it goes on after a request.  Only the few procedures that change the
heap by themselves have something to show; all others are put together from them.
-/

namespace ScriptBridge.Script

/-- How a statement ended, with the value it left, if any. -/
inductive Completion
  | normal (v : Option Value)
  | ret (v : Value)
  | leave (label : Option String) (v : Option Value)
  | again (label : Option String) (v : Option Value)
deriving Inhabited

/-- How a pattern binds: it gives declared variables their first value, or it assigns. -/
inductive BindMode
  | create | assign
deriving DecidableEq, Repr

/-- What is asked of the table of modules. -/
inductive ModuleCall
  /-- To show what it holds. -/
  | table
  /-- To find the module of a name, which the store may have. -/
  | find (name : String)
  /-- To find what a module asks for, and what that asks for. -/
  | resolve (id : Nat)
  /-- To link a module and those that it asks for: those that were not linked before. -/
  | link (id : Nat)
  /-- To let the body of a module start. -/
  | start (id : Nat)

/-- What the host is asked for. -/
inductive HostCall
  /-- To write a line. -/
  | print (line : String)
  /-- To start an async call, and for the promise that its end settles. -/
  | startAsync (payload : Json)
  /-- To run an installed function. -/
  | call (id : Nat) (args : List Json)
  /-- To look up or change what is known of modules. -/
  | modules (c : ModuleCall)

/-- The part of a loop that is run again and again. -/
structure Loop where
  test : Option Expr
  update : Option Expr
  body : Stmt
  labels : List String
  /-- The variables that each round has for itself. -/
  own : List String

/-- A loop over the items or keys of something. -/
structure EachLoop where
  each : EachKind
  kind : Option DeclKind
  target : Pattern
  body : Stmt
  labels : List String

/-- The answer to a request. -/
inductive Reply
  | value (v : Value)
  | completion (c : Completion)
  | callee (f this : Value)
  /-- An optional chain ended early. -/
  | short
  | values (vs : List Value)
  | flag (b : Bool)
  /-- What a function of the host returned, or its message. -/
  | answer (r : Except String Json)
  | table (t : ModuleTable)
  /-- The numbers of modules, or why they cannot be had. -/
  | found (r : Except ModuleFault (List Nat))
  /-- Code was put aside with a value; `isResult` if that is the result of a step of an
  iteration. -/
  | paused (v : Value) (isResult : Bool)
  | nothing
deriving Inhabited

/-- What the items of an iteration are for. -/
inductive Consumer
  /-- They are the items of an array; a function makes them of what the iteration yields, if there
  is one. -/
  | mapped (target : Ref) (f this : Value)
  /-- They are the fields of an object. -/
  | fields (r : Ref)
  /-- They are the entries, or the members, of a collection that a function adds them to. -/
  | added (target adder : Value) (isMap : Bool)
  /-- They are promises that become one. -/
  | joined (f : PromiseFn) (constructor resolve : Value) (capability : Capability)
    (results counter : Ref)
  /-- A function sorts them into groups. -/
  | grouped (f : Value) (isMap : Bool) (groups : List (Value × List Value))
  /-- A function sees each of them. -/
  | each (f : Value)
  /-- A function looks for one that makes it true, or not true, and that ends the iteration. -/
  | sought (f : Value) (wanted : Bool) (found : Option Value) (missing : Value)
  /-- A function joins them to one value. -/
  | reduced (f : Value) (acc : Option Value)

/-- What a procedure asks for. -/
inductive Request
  /-- The value of an expression. -/
  | eval (e : Expr) (env : Env)
  /-- The value of an expression; a function without a name gets this one. -/
  | named (e : Expr) (name : Str) (env : Env)
  /-- The function that a call calls, and its `this`. -/
  | callee (e : Expr) (env : Env)
  | exec (s : Stmt) (labels : List String) (env : Env)
  | statements (body : List Stmt) (last : Option Value) (env : Env)
  | loop (l : Loop) (last : Option Value) (env : Env)
  | eachKey (l : EachLoop) (source : Value) (keys : List Key) (last : Option Value) (env : Env)
  | eachItem (l : EachLoop) (iterator next : Value) (last : Option Value) (env : Env)
  | bind (p : Pattern) (v : Value) (mode : BindMode) (env : Env)
  | call (f this : Value) (args : List Value)
  | construct (f : Value) (args : List Value) (newTarget : Value)
  /-- The rest of an iteration, as values. -/
  | collect (iterator next : Value) (acc : List Value)
  /-- The next item of an iterator that was made of another. -/
  | helperStep (iterator : Ref)
  /-- What becomes of the rest of an iteration, of which `count` items have passed. -/
  | consume (iterator next : Value) (c : Consumer) (count : Nat)
  /-- A script from the top. -/
  | script (p : Program) (file : String)
  /-- A program that running code evaluates, in its place. -/
  | evaluated (p : Program) (env : Env)
  /-- The body of a module. -/
  | moduleBody (id : Nat)
  /-- The body of a module that waits, whose end settles a promise. -/
  | asyncModuleBody (capability : Capability) (id : Nat)
  /-- The body of an async function, whose end settles a promise. -/
  | asyncBody (capability : Capability) (body : List Stmt) (env : Env)
  /-- The body of a generator from the top. -/
  | generatorBody (body : List Stmt) (env : Env)
  /-- The body of an async generator from the top. -/
  | asyncGeneratorBody (generator : Ref) (body : List Stmt) (env : Env)
  /-- What an async generator is asked for, as far as it can go. -/
  | serve (generator : Ref)
  /-- Yielding what another iterator yields. -/
  | delegate (generator : Ref) (iterator next : Value) (how : Resumption) (v : Value)
  /-- The value that a promise is settled with. -/
  | await (v : Value)
  /-- Putting the running code aside with a reply to what started it. -/
  | pause (r : Reply)
  /-- Going on with code that was put aside. -/
  | resume (id : Nat) (rejected : Bool) (v : Value)
  | job (j : Job)
  /-- Whether anything runs that shows up in stack traces. -/
  | traced
  | host (h : HostCall)

/-- What running a procedure comes to. -/
inductive Outcome (α : Type) : Type
  | done (a : α) (w : World)
  | thrown (v : Value) (w : World)
  | ask (q : Request) (w : World) (k : Except Value Reply → World → Outcome α)

namespace Outcome

variable {α β : Type}

/-- Goes on with what comes of a value. -/
def bind : Outcome α → (α → World → Outcome β) → Outcome β
  | done a w, f => f a w
  | thrown v w, _ => thrown v w
  | ask q w k, f => ask q w fun r w => bind (k r w) f

/-- Goes on with what comes of a thrown value. -/
def handle : Outcome α → (Value → World → Outcome α) → Outcome α
  | done a w, _ => done a w
  | thrown v w, f => f v w
  | ask q w k, f => ask q w fun r w => handle (k r w) f

/-- It leads from a world to worlds that have evolved from it, also where it goes on after a
request. -/
def Evolves : World → Outcome α → Prop
  | w, done _ w' => w.Evolves w'
  | w, thrown _ w' => w.Evolves w'
  | w, ask _ w' k => w.Evolves w' ∧ ∀ r w'', (k r w'').Evolves w''

namespace Evolves

variable {w w' : World} {o : Outcome α}

theorem trans (hw : w.Evolves w') (h : o.Evolves w') : o.Evolves w := by
  cases o with
  | done a w'' => exact hw.trans h
  | thrown v w'' => exact hw.trans h
  | ask q w'' k => exact ⟨hw.trans h.1, h.2⟩

theorem bind {f : α → World → Outcome β} (h : o.Evolves w) (hf : ∀ a w, (f a w).Evolves w) :
    (o.bind f).Evolves w := by
  induction o generalizing w with
  | done a w' => exact .trans h (hf a w')
  | thrown v w' => exact h
  | ask q w' k ih => exact ⟨h.1, fun r w'' => ih r w'' (h.2 r w'')⟩

theorem handle {f : Value → World → Outcome α} (h : o.Evolves w) (hf : ∀ v w, (f v w).Evolves w) :
    (o.handle f).Evolves w := by
  induction o generalizing w with
  | done a w' => exact h
  | thrown v w' => exact .trans h (hf v w')
  | ask q w' k ih => exact ⟨h.1, fun r w'' => ih r w'' (h.2 r w'')⟩

end Evolves

end Outcome

/-- A procedure. -/
structure Proc (α : Type) where
  run : World → Outcome α
  evolves : ∀ w, (run w).Evolves w

namespace Proc

variable {α β : Type}

instance : CoeFun (Proc α) fun _ => World → Outcome α := ⟨run⟩

instance : Monad Proc where
  pure a := ⟨fun w => .done a w, .refl⟩
  bind p f := ⟨fun w => (p w).bind fun a => f a, fun w => (p.evolves w).bind fun a => (f a).evolves⟩

/-- Throws a value. -/
def throwValue (v : Value) : Proc α := ⟨fun w => .thrown v w, .refl⟩

instance : Inhabited (Proc α) := ⟨throwValue .undefined⟩

/-- Runs `p`, and `f` with the value if `p` throws one. -/
def onThrow (p : Proc α) (f : Value → Proc α) : Proc α where
  run w := (p w).handle fun v => f v
  evolves w := (p.evolves w).handle fun v => (f v).evolves

/-- Runs `p`: its value, or what it threw. -/
def attempt (p : Proc α) : Proc (Except Value α) :=
  onThrow (do return .ok (← p)) fun v => pure (.error v)

/-- Asks for something. -/
def ask (q : Request) : Proc Reply where
  run w := .ask q w fun r w =>
    match r with
    | .ok a => .done a w
    | .error v => .thrown v w
  evolves w := by
    refine ⟨.refl w, fun r w' => ?_⟩
    cases r <;> exact .refl w'

/-- The world. -/
def world : Proc World := ⟨fun w => .done w w, .refl⟩

/-- Computes a value and a world that has evolved. -/
def act (f : World → α × World) (h : ∀ w : World, w.Evolves (f w).2) : Proc α where
  run w := let (a, w) := f w; .done a w
  evolves := h

/-- Changes the world, but no object and no job. -/
def change (f : World → World) (h : ∀ w, (f w).objects = w.objects := by intro; rfl)
    (hjobs : ∀ w, (f w).jobs = w.jobs := by intro; rfl) : Proc Unit :=
  act (fun w => ((), f w)) fun w => .of_retains (.of_objects (h w)) (hjobs w)

/-- Computes a value and a new world, with the same objects and jobs. -/
def update (f : World → α × World) (h : ∀ w, (f w).2.objects = w.objects := by intro; rfl)
    (hjobs : ∀ w, (f w).2.jobs = w.jobs := by intro; rfl) : Proc α :=
  act f fun w => .of_retains (.of_objects (h w)) (hjobs w)

/-! ### Requests with the replies they get -/

/-- The value that a reply is. -/
def valueOf : Reply → Value
  | .value v => v
  | _ => .undefined

/-- The value of an expression. -/
def eval (e : Expr) (env : Env) : Proc Value := do return valueOf (← ask (.eval e env))

/-- Calls a function. -/
def call (f this : Value) (args : List Value) : Proc Value := do
  return valueOf (← ask (.call f this args))

/-- Calls a constructor. -/
def construct (f : Value) (args : List Value) (newTarget : Value) : Proc Value := do
  return valueOf (← ask (.construct f args newTarget))

/-- How a statement ends. -/
def completionOf : Reply → Completion
  | .completion c => c
  | _ => .normal none

/-- Runs a statement. -/
def exec (s : Stmt) (labels : List String) (env : Env) : Proc Completion := do
  return completionOf (← ask (.exec s labels env))

/-- Runs statements. -/
def statements (body : List Stmt) (env : Env) : Proc Completion := do
  return completionOf (← ask (.statements body none env))

/-- Binds a pattern. -/
def bindPattern (p : Pattern) (v : Value) (mode : BindMode) (env : Env) : Proc Unit := do
  discard (ask (.bind p v mode env))

/-- Whether anything runs that shows up in stack traces. -/
def isTraced : Proc Bool := do
  match ← ask .traced with
  | .flag b => return b
  | _ => return false

/-! ### Objects -/

/-- The object of a name. -/
def object (r : Ref) : Proc Object := do return (← world).objects.getD r default

/-- Changes an object, but promises and settlers stay what they are. -/
def modifyObject (r : Ref) (f : Object → Object) : Proc Unit :=
  act (fun w => ((), w.modify r (Object.revised f))) fun w =>
    w.evolves_modify r _ fun o => o.kind.becoming_eq_or (f o).kind

/-- Replaces an object. -/
def setObject (r : Ref) (o : Object) : Proc Unit := modifyObject r fun _ => o

/-- Makes an object that is no settler. -/
def alloc (o : Object) (h : o.kind.isBound = false := by exact @rfl Bool false) : Proc Ref :=
  act (fun w => (w.objects.size, w.push o)) fun w =>
    (World.Evolves.refl w).push o fun p used ho => by
    rw [ho] at h
    cases h

/-- Replaces what an object is. -/
def setKind (r : Ref) (k : ObjectKind) : Proc Unit := modifyObject r fun o => { o with kind := k }

/-- Makes a place for a value. -/
def allocCell (v : Value) : Proc Ref := alloc { kind := .cell v, proto := none }

/-- The value in a place. -/
def cellValue (r : Ref) : Proc Value := do
  match (← object r).kind with
  | .cell v => return v
  | _ => return .undefined

/-- Whether a value can be called. -/
def isCallable (v : Value) : Proc Bool := do
  match v with
  | .object r => return (← object r).isCallable
  | _ => return false

/-- Whether `new` can be used with a value. -/
def isConstructor (v : Value) : Proc Bool := do
  match v with
  | .object r => return (← object r).isConstructor
  | _ => return false

/-! ### Scopes -/

/-- The scope of a name. -/
def scope (r : ScopeRef) : Proc Scope := do return (← world).scopes.getD r default

/-- Changes a scope. -/
def modifyScope (r : ScopeRef) (f : Scope → Scope) : Proc Unit :=
  change fun w => { w with scopes := w.scopes.modify r f }

/-- Makes a scope. -/
def allocScope (s : Scope) : Proc ScopeRef :=
  update fun w => (w.scopes.size, { w with scopes := w.scopes.push s })

/-! ### Jobs, symbols and modules -/

/-- Adds a job behind the others. -/
def enqueue (j : Job) : Proc Unit :=
  act (fun w => ((), { w with jobs := w.jobs ++ [j] })) fun _ =>
    .of_objects rfl (List.prefix_append _ _)

/-- Makes a symbol. -/
def allocSymbol (description : Option Str) : Proc Nat :=
  update fun w => (w.symbols.size, { w with symbols := w.symbols.push description })

/-- The state of a module. -/
def moduleState (id : Nat) : Proc ModuleState := do return (← world).modules.getD id default

/-- A number for a program that is about to run. -/
def newProgram : Proc Nat :=
  update fun w => (w.nextProgram, { w with nextProgram := w.nextProgram + 1 })

/-- Changes the state of a module. -/
def modifyModule (id : Nat) (f : ModuleState → ModuleState) : Proc Unit :=
  change fun w => { w with modules := (w.modules.rightpad (id + 1) default).modify id f }

/-- What is known of modules. -/
def moduleTable : Proc ModuleTable := do
  match ← ask (.host (.modules .table)) with
  | .table t => return t
  | _ => return default

/-- Whether the body of a module may start now; it is allowed once. -/
def mayStart (id : Nat) : Proc Bool := do
  match ← ask (.host (.modules (.start id))) with
  | .flag b => return b
  | _ => return false

end Proc

end ScriptBridge.Script
