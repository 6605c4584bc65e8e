import ScriptBridge.Script.Convert

/-!
# Variables

A name is looked up from the innermost scope outwards, and last among the properties of the global
object.
-/

namespace ScriptBridge.Script

/-- What a name stands for. -/
inductive Resolved
  | variable (scope : ScopeRef) (b : Binding)
  /-- The arguments of the call whose outermost scope is `scope`, which no code has asked for
  before. -/
  | arguments (scope : ScopeRef) (args : List Value)
  | global

/-- What a name stands for in a scope; `fuel` bounds the chain of scopes. -/
def World.resolve (w : World) (name : String) : Nat → ScopeRef → Resolved
  | 0, _ => .global
  | fuel + 1, s =>
    let scope := w.scopes.getD s default
    match scope.find? name with
    | some b => .variable s b
    | none =>
      match scope.activation with
      | some { func := some _, args, .. } =>
        if name == "arguments" then .arguments s args else outer w name fuel scope.parent
      | _ => outer w name fuel scope.parent
where
  outer (w : World) (name : String) (fuel : Nat) : Option ScopeRef → Resolved
    | some p => resolve w name fuel p
    | none => .global

/-- The innermost call around a scope, with its outermost scope; `fuel` bounds the chain. -/
def World.activation? (w : World) : Nat → ScopeRef → Option (ScopeRef × Activation)
  | 0, _ => none
  | fuel + 1, s =>
    let scope := w.scopes.getD s default
    match scope.activation with
    | some a => some (s, a)
    | none => scope.parent.bind (activation? w fuel)

/-- The innermost scope around a scope, or the scope itself, in which `var` declares variables;
`fuel` bounds the chain. -/
def World.varScope (w : World) : Nat → ScopeRef → ScopeRef
  | 0, s => s
  | fuel + 1, s =>
    let scope := w.scopes.getD s default
    if scope.holdsVars then s else scope.parent.elim s (varScope w fuel)

/-- The names of parameters that are nothing but names. -/
def simpleNames? : List Pattern → Option (List String)
  | [] => some []
  | .target (.ident name) :: rest => (simpleNames? rest).map (name :: ·)
  | _ => none

/-- The names of the parameters that the arguments object of a function shows: of one that is not
strict and whose parameters are nothing but names.  Of several with one name it shows the last. -/
def Func.shownParameters : Func → List (Option String)
  | .mk info params none _ =>
    match simpleNames? params with
    | some names => if info.isStrict then [] else names.zipIdx.map fun (name, i) =>
        if (names.drop (i + 1)).contains name then none else some name
    | none => []
  | .mk _ _ (some _) _ => []

namespace Proc

/-- What a name stands for. -/
def resolve (name : String) (env : Env) : Proc Resolved := do
  let w ← world
  return w.resolve name (w.scopes.size + 1) env.scope

/-- Fails because a variable has no value yet. -/
def notInitialized {α : Type} (name : String) : Proc α :=
  throwNew .referenceError s!"{Key.shown name} is not initialized"

/-- The function that a call is of. -/
def calledFunction (scope : ScopeRef) : Proc (Option (Ref × Func)) := do
  match (← Proc.scope scope).activation with
  | some { func := some r, .. } =>
    match (← object r).kind with
    | .function c => return some (r, c.func)
    | _ => return none
  | _ => return none

/-- Makes the object that holds the arguments of a call. -/
def allocArguments (scope : ScopeRef) (args : List Value) : Proc Value := do
  let called ← calledFunction scope
  let shown := called.elim [] fun f => f.2.shownParameters
  let items := args.zipIdx.map fun (v, i) =>
    let holding := match (shown[i]?).join with
      | some name => Holding.parameter scope name
      | none => .data v
    (Key.index i, (⟨holding, true, true, true⟩ : Property))
  let values ← getOf Intrinsic.arrayProto (.symbol Symbols.iterator)
  let callee : Property := match called with
    | some (r, .mk { isStrict := false, .. } params none _) =>
      if (simpleNames? params).isSome then .hidden (.object r) else poisoned
    | _ => poisoned
  let r ← alloc {
    kind := .arguments, proto := some Intrinsic.objectProto
    props := items.toArray ++ #[(Key.length, .hidden (Value.ofNat args.length)),
      (Key.symbol Symbols.iterator, .hidden values), (Key.ofString "callee", callee)] }
  let v := Value.object r
  modifyScope scope fun s => s.put { name := "arguments", value := some v }
  return v
where
  /-- A property that refuses to be read and written. -/
  poisoned : Property :=
    let f := Value.object Intrinsic.thrower
    ⟨.accessor f f, false, false, false⟩

/-- The value of a variable; nothing if there is none of that name. -/
def readVar? (name : String) (env : Env) : Proc (Option Value) := do
  match ← resolve name env with
  | .variable _ b =>
    let b ← match b.link with
      | some (s, other) => do
        let w ← world
        pure (resolveLink w (w.scopes.size + 1) s other)
      | none => pure (some b)
    match b.bind Binding.value with
    | some v => return some v
    | none => notInitialized name
  | .arguments s args => return some (← allocArguments s args)
  | .global =>
    match ← lookup Intrinsic.global (Key.ofString name) with
    | some (_, p) => return some (← readHolding p.holding (.object Intrinsic.global))
    | none => return none

/-- Fails because there is no variable of a name. -/
def notDefined {α : Type} (name : String) : Proc α :=
  throwNew .referenceError s!"{Key.shown name} is not defined"

/-- The value of a variable. -/
def readVar (name : String) (env : Env) : Proc Value := do
  match ← readVar? name env with
  | some v => return v
  | none => notDefined name

/-- Assigns to a variable. -/
def assignVar (name : String) (v : Value) (env : Env) : Proc Unit := do
  let readOnly : Proc Unit := throwType s!"'{Key.shown name}' is read-only"
  match ← resolve name env with
  | .variable s b =>
    if b.isQuiet then
      if env.isStrict then readOnly
    else if b.isConst || b.link.isSome then readOnly
    else if b.value.isNone then notInitialized name
    else modifyScope s fun t => t.put { b with value := some v }
  | .arguments s _ => modifyScope s fun t => t.put { name, value := some v }
  | .global =>
    let k := Key.ofString name
    if env.isStrict && !(← hasProperty Intrinsic.global k) then notDefined name
    set (.object Intrinsic.global) k v env.isStrict

/-- Gives a declared variable its first value. -/
def initializeVar (name : String) (v : Value) (env : Env) : Proc Unit := do
  match ← resolve name env with
  | .variable s b => modifyScope s fun t => t.put { b with value := some v }
  | _ => pure ()

/-- Declares variables in a scope. -/
def declare (scope : ScopeRef) (bindings : List Binding) : Proc Unit :=
  modifyScope scope fun s => bindings.foldl Scope.put s

/-- Variables that a block declares, which have no value yet. -/
def lexicalBindings (names : List (String × LexicalKind)) : List Binding :=
  (names.filter fun e => e.2 != .func).map fun (name, kind) =>
    { name, value := none, isConst := kind == .const }

/-- Assigns to the variable that `var` declares around some code. -/
def assignOuter (name : String) (v : Value) (env : Env) : Proc Unit := do
  let w ← world
  assignVar name v { env with scope := w.varScope (w.scopes.size + 1) env.scope, isStrict := false }

/-- The innermost call around some code, with its outermost scope. -/
def activation (env : Env) : Proc (Option (ScopeRef × Activation)) := do
  let w ← world
  return w.activation? (w.scopes.size + 1) env.scope

/-- The value of `this`. -/
def thisValue (env : Env) : Proc Value := do
  match ← activation env with
  | some (_, { this := some v, .. }) => return v
  | some _ => notInitialized "this"
  | none => return .undefined

/-- The object in whose prototype `super` looks. -/
def superObject (env : Env) : Proc Value := do
  match ← activation env with
  | some (_, { home := some h, .. }) =>
    match (← object h).proto with
    | some p => return .object p
    | none => return .null
  | _ => return .undefined

end Proc

end ScriptBridge.Script
