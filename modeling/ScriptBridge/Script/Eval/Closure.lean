import ScriptBridge.Script.Eval.Hidden
import ScriptBridge.Script.Generator
import ScriptBridge.Script.Parser.Scope

/-!
# Functions and their calls

Making functions, and what a call does before and after the body runs: parameters, hoisted
declarations, `this`, and the fields of a new object.
-/

namespace ScriptBridge.Script

namespace Proc

/-- The name of a function that is kept under a key. -/
def nameOfKey (k : Key) : Proc Str := do
  match k with
  | .symbol id =>
    match (← world).symbols.getD id none with
    | some d => return Str.ofString "[" ++ d ++ Str.ofString "]"
    | none => return Str.empty
  | k => return k.str?.getD Str.empty

/-- The properties that every function has. -/
def functionProps (length : Nat) (name : Str) : Array (Key × Property) :=
  #[(Key.length, ⟨.data (Value.ofNat length), false, false, true⟩),
    (Key.ofString "name", ⟨.data (.string name), false, false, true⟩)]

/-- Makes a function.  `home` is where `super` starts. -/
def makeFunction (f : Func) (env : Env) (name : Str) (home : Option Ref) : Proc Ref := do
  let info := f.info
  let closure : Closure := ⟨f, env, home, {}, false⟩
  let proto := match info.isGenerator, info.isAsync with
    | true, true => Intrinsic.asyncGeneratorFunctionProto
    | true, false => Intrinsic.generatorFunctionProto
    | false, true => Intrinsic.asyncFunctionProto
    | false, false => Intrinsic.functionProto
  let r ← alloc { kind := .function closure, proto := some proto
                  props := functionProps info.length name }
  if info.isGenerator then
    let above := if info.isAsync then Intrinsic.asyncGeneratorProto else Intrinsic.generatorProto
    let p ← alloc { kind := .plain, proto := some above }
    define r (Key.ofString "prototype") ⟨.data (.object p), true, false, false⟩
  else if info.kind = .ordinary && !info.isAsync then
    let p ← allocPlain
    define p (Key.ofString "constructor") (.hidden (.object r))
    define r (Key.ofString "prototype") ⟨.data (.object p), true, false, false⟩
  return r

/-- The value of a function expression; one with a name of its own sees itself under it. -/
def functionValue (f : Func) (env : Env) (given : Str) : Proc Value := do
  match f.info.name with
  | none => return .object (← makeFunction f env given none)
  | some name =>
    let scope ← allocScope { parent := some env.scope }
    let r ← makeFunction f { env with scope } (Str.ofString name) none
    declare scope [{ name, value := some (.object r), isConst := true, isQuiet := true }]
    return .object r

/-- The name that a declared function shows. -/
def declaredName (name : String) : Str :=
  Str.ofString (if name == "*default*" then "default" else name)

/-- Makes the functions that statements declare. -/
def hoistFunctions (env : Env) : List Stmt → Proc Unit
  | [] => pure ()
  | s :: rest => do
    match s.unlabeled with
    | .func f _ =>
      if let some name := f.info.name then
        let r ← makeFunction f env (declaredName name) none
        declare env.scope [{ name, value := some (.object r) }]
    | _ => pure ()
    hoistFunctions env rest

/-- Declares what the body of a function declares.  A variable `arguments` is the one that every
call has. -/
def declareBody (info : FuncInfo) (body : List Stmt) (env : Env) : Proc Unit := do
  let known := (← scope env.scope).vars.map (·.name)
  let fresh := info.vars.filter fun n =>
    !known.contains n && (info.kind = .arrow || n != "arguments")
  declare env.scope (fresh.map fun name => { name, value := some .undefined })
  declare env.scope (lexicalBindings (lexicalNames body))
  hoistFunctions env body

/-- The scope of a block that declares something of its own; the same scope if it does not. -/
def enterBlock (body : List Stmt) (env : Env) : Proc Env := do
  let names := lexicalNames body
  if names.isEmpty then return env
  let scope ← allocScope { vars := lexicalBindings names, parent := some env.scope }
  let env := { env with scope }
  hoistFunctions env body
  return env

/-! ### Calls -/

/-- Binds patterns to arguments. -/
def bindParams (env : Env) : List Pattern → List Value → Proc Unit
  | [], _ => pure ()
  | p :: rest, args => do
    bindPattern p (args.headD .undefined) .create env
    bindParams env rest args.tail

/-- Binds the parameters of a function. -/
def bindArguments (params : List Pattern) (rest : Option Pattern) (args : List Value)
    (env : Env) : Proc Unit := do
  match simpleNames? params, rest with
  | some names, none =>
    declare env.scope (names.zipIdx.map fun (name, i) =>
      { name, value := some (args.getD i .undefined) })
  | _, _ =>
    let names := params.flatMap Pattern.names ++ rest.elim [] Pattern.names
    declare env.scope (names.map fun name => { name, value := none })
    bindParams env params args
    if let some p := rest then
      let items ← allocArray (args.drop params.length)
      bindPattern p (.object items) .create env

/-- What `this` is in a function that was called with the given value. -/
def calledThis (isStrict : Bool) (this : Value) : Proc Value := do
  if isStrict then return this
  if this.isNullish then return .object Intrinsic.global
  return .object (← toObject this)

/-- Binds the parameters of a function where values are computed among them: in a scope of their
own.  The result is the scope of the body, which starts with copies of them. -/
def bindOwnParams (params : List Pattern) (rest : Option Pattern) (args : List Value)
    (env : Env) : Proc Env := do
  let own ← allocScope { parent := some env.scope }
  bindArguments params rest args { env with scope := own }
  let vars := (← scope own).vars
  return { env with scope := ← allocScope { vars, parent := some env.scope, holdsVars := true } }

/-- Makes the scopes of a call and fills them: the scope of the body. -/
def enterFunction (r : Ref) (c : Closure) (this : Option Value) (args : List Value)
    (newTarget : Value) : Proc Env := do
  match c.func with
  | .mk info params rest body =>
    let activation := if info.kind = .arrow then none
      else some { this, func := some r, newTarget, home := c.home, args }
    let scope ← allocScope {
      parent := some c.env.scope, activation, holdsVars := !info.ownParams }
    let env := { c.env with scope, isStrict := info.isStrict }
    let env ← if info.ownParams then bindOwnParams params rest args env
      else do
        bindArguments params rest args env
        pure env
    declareBody info body env
    return env

/-- The statements of a function. -/
def bodyOf : Func → List Stmt
  | .mk _ _ _ body => body

/-- Makes the generator that a call of the function `f` yields. -/
def makeGenerator (f : Ref) (isAsync : Bool) (body : List Stmt) (env : Env) : Proc Value := do
  let above := if isAsync then Intrinsic.asyncGeneratorProto else Intrinsic.generatorProto
  let proto ← match ← getOf f (Key.ofString "prototype") with
    | .object p => pure p
    | _ => pure above
  let state := GeneratorState.fresh body env
  let r ← if isAsync then alloc { kind := .asyncGenerator state [], proto := some proto }
    else alloc { kind := .generator state, proto := some proto }
  if let some (s, _) ← activation env then
    modifyScope s fun t =>
      { t with activation := t.activation.map fun a => { a with generator := some r } }
  return .object r

/-- Calls a function that a program made. -/
def callClosure (r : Ref) (c : Closure) (this : Value) (args : List Value) : Proc Value := do
  if c.isClass then throwType "class constructors must be invoked with 'new'"
  let info := c.func.info
  let enter : Proc Env := do
    let this ← if info.kind = .arrow then pure this else calledThis info.isStrict this
    enterFunction r c (some this) args .undefined
  if info.isGenerator then
    let env ← enter
    makeGenerator r info.isAsync (bodyOf c.func) env
  else if info.isAsync then
    let cap ← ownCapability
    match ← attempt enter with
    | .ok env => discard (ask (.asyncBody cap (bodyOf c.func) env))
    | .error e => discard (call cap.reject .undefined [e])
    return cap.promise
  else
    let env ← enter
    return returned (← statements (bodyOf c.func) env)

/-- Makes a field of a new object. -/
def makeField (r : Ref) (k : Key) (v : Value) : Proc Unit := do
  match k with
  | .hidden id => addHidden r id v
  | k =>
    match ← defineOwn r k ⟨some v, none, none, some true, some true, some true⟩ with
    | none => pure ()
    | some fault => throwType (fault.message (k.label (← world)))

/-- Makes the fields of a new object. -/
def makeFields (target : Value) : List ClassField → Proc Unit
  | [] => pure ()
  | f :: rest => do
    let v ← match f.init with
      | .undefined => pure .undefined
      | init => call init target []
    match target with
    | .object r => makeField r f.key v
    | _ => pure ()
    makeFields target rest

/-- Adds to a new object what its class adds. -/
def addOwn (target : Value) (a : Additions) : Proc Unit := do
  match target, a.brand with
  | .object r, some brand => addBrand r brand
  | _, _ => pure ()
  makeFields target a.fields

/-- What a constructor adds to the objects that it makes. -/
def additionsOf (r : Ref) : Proc Additions := do
  match (← object r).kind with
  | .function c => return c.additions
  | _ => return {}

/-- Calls a constructor that a program made. -/
def constructClosure (r : Ref) (c : Closure) (args : List Value) (newTarget : Value) :
    Proc Value := do
  match c.func.info.kind with
  | .derivedConstructor =>
    let env ← enterFunction r c none args newTarget
    match ← statements (bodyOf c.func) env with
    | .ret (.object o) => return .object o
    | .ret .undefined => thisValue env
    | .ret _ => throwType "derived class constructor must return an object or undefined"
    | _ => thisValue env
  | _ =>
    let proto ← protoFor newTarget Intrinsic.objectProto
    let this := Value.object (← alloc { kind := .plain, proto := some proto })
    addOwn this c.additions
    let env ← enterFunction r c (some this) args newTarget
    match ← statements (bodyOf c.func) env with
    | .ret (.object o) => return .object o
    | _ => return this

/-- Calls the constructor of the class above, and gives `this` its value. -/
def superCall (args : List Value) (env : Env) : Proc Value := do
  match ← activation env with
  | some (s, { func := some f, newTarget, .. }) =>
    let parent := ((← object f).proto).elim Value.null Value.object
    let this ← construct parent args newTarget
    match (← scope s).activation with
    | some { this := some _, .. } =>
      throwNew .referenceError "'this' can be initialized only once"
    | _ => pure ()
    modifyScope s fun t =>
      { t with activation := t.activation.map fun a => { a with this := some this } }
    addOwn this (← additionsOf f)
    return this
  | _ => throwType "super is not available"

end Proc

end ScriptBridge.Script
