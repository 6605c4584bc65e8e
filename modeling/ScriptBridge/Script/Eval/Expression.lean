import ScriptBridge.Script.Builtin.Function
import ScriptBridge.Script.Eval.Closure

/-!
# Expressions

`Proc.evalExpr` takes one expression apart and asks for the values of its parts.  What can be
assigned to is a `Place`; it is read and written through the same value, so that its parts are
evaluated once.
-/

namespace ScriptBridge.Script

/-- What can be assigned to. -/
inductive Place
  | variable (name : String)
  | member (base : Value) (key : Key)
  /-- A property under a key that was not converted, because the value has no properties. -/
  | nowhere (base key : Value)
  /-- A private member. -/
  | hidden (base : Value) (name : String)
  /-- A property that is looked up in `proto` for `this`. -/
  | above (proto this : Value) (key : Key)

namespace Proc

/-! ### Parts -/

/-- The value of an expression; a function without a name gets this one. -/
def evalNamed (e : Expr) (name : Str) (env : Env) : Proc Value := do
  return valueOf (← ask (.named e name env))

/-- The values of the items of a list. -/
def evalItems (env : Env) : List Item → Proc (List (Option Value))
  | [] => pure []
  | .hole :: rest => do return none :: (← evalItems env rest)
  | .one e :: rest => do
    let v ← eval e env
    return some v :: (← evalItems env rest)
  | .spread e :: rest => do
    let vs ← collect (← eval e env)
    return vs.map some ++ (← evalItems env rest)

/-- The values of arguments. -/
def evalArgs (env : Env) (items : List Item) : Proc (List Value) := do
  return (← evalItems env items).map fun v => v.getD .undefined

/-- The key of a property. -/
def evalKey (env : Env) : PropName → Proc Key
  | .static s => pure (.ofStr s)
  | .computed e => do toKey (← eval e env)
  | .hidden name => do
    match ← hiddenMember name env with
    | .field id | .method id _ | .accessor id _ _ => return .hidden id

/-- The value that a literal writes. -/
def literalValue : Literal → Value
  | .null => .null
  | .bool b => .bool b
  | .number x => .ofFloat x
  | .bigint n => .bigint n
  | .string s => .string s

/-- The values in a template, with the pieces of text between them that are not empty. -/
def templateValues (env : Env) : List (Expr × Str) → Proc (List Value)
  | [] => pure []
  | (e, s) :: rest => do
    let v ← eval e env
    let more ← templateValues env rest
    return v :: (if s.units.isEmpty then more else .string s :: more)

/-- The text of a template: its first piece joins all others to itself. -/
def evalTemplate (env : Env) (head : Str) (parts : List (Expr × Str)) : Proc Value := do
  if parts.isEmpty then return .string head
  let join ← get (.string head) (Key.ofString "concat")
  call join (.string head) (← templateValues env parts)

/-- The object that a function behind which a template stands gets for its pieces: the same each
time. -/
def templateObject (site : Nat) (pieces : List (Option Str × Str)) (env : Env) : Proc Value := do
  match (← world).templates.lookup (env.program, site) with
  | some r => return .object r
  | none =>
    let raw ← allocFrozen (pieces.map fun p => .string p.2) []
    let r ← allocFrozen (pieces.map fun p => p.1.elim .undefined Value.string)
      [(Key.ofString "raw", .fixed (.object raw))]
    change fun w => { w with templates := ((env.program, site), r) :: w.templates }
    return .object r
where
  /-- Makes an array that refuses all changes. -/
  allocFrozen (items : List Value) (more : List (Key × Property)) : Proc Ref :=
    let props := items.zipIdx.map fun (v, i) =>
      (Key.index i, (⟨.data v, false, true, false⟩ : Property))
    alloc { kind := .array items.length true, proto := some Intrinsic.arrayProto
            extensible := false, props := (props ++ more).toArray }

/-! ### Places -/

/-- What an expression that can be assigned to stands for. -/
def evalPlace (env : Env) : Expr → Proc Place
  | .ident name => pure (.variable name)
  | .group e => evalPlace env e
  | .dot e name _ => do return .member (← eval e env) (.ofString name)
  | .hiddenDot e name _ => do return .hidden (← eval e env) name
  | .index e key _ => do
    let base ← eval e env
    let k ← eval key env
    if base.isNullish then return .nowhere base k
    return .member base (← toKey k)
  | .superDot name => do return .above (← superObject env) (← thisValue env) (.ofString name)
  | .superIndex key => do
    let k ← toKey (← eval key env)
    return .above (← superObject env) (← thisValue env) k
  | _ => throwNew .referenceError "invalid assignment left-hand side"

/-- Reads a property above an object, for `this`. -/
def getAbove (proto this : Value) (k : Key) : Proc Value := do
  match proto with
  | .object p => getFrom p k this
  | v => get v k

/-- The value at a place. -/
def readPlace (env : Env) : Place → Proc Value
  | .variable name => readVar name env
  | .member base k => get base k
  | .nowhere .. => throwType "value has no property"
  | .hidden base name => getHidden base name env
  | .above proto this k => getAbove proto this k

/-- Assigns to a place. -/
def writePlace (env : Env) (v : Value) : Place → Proc Unit
  | .variable name => assignVar name v env
  | .member base k => set base k v env.isStrict
  | .nowhere base k => do set base (← toKey k) v env.isStrict
  | .hidden base name => setHidden base name v env
  | .above proto this k => do
    let fault ← match proto with
      | .object p => setFor p k v this
      | _ => pure none
    match fault with
    | some f => if env.isStrict then throwType (f.message (k.label (← world)))
    | none => pure ()

/-- Removes the property at a place. -/
def deletePlace (env : Env) : Place → Proc Value
  | .variable name => do
    match ← resolve name env with
    | .global => return .bool (← deleteOwn Intrinsic.global (.ofString name))
    | _ => return .bool false
  | .member base k => do
    let gone ← deleteOwn (← toObject base) k
    if !gone && env.isStrict then throwType "could not delete property"
    return .bool gone
  | .nowhere base k => do
    let k ← toKey k
    let gone ← deleteOwn (← toObject base) k
    if !gone && env.isStrict then throwType "could not delete property"
    return .bool gone
  | .hidden .. => return .bool false
  | .above .. => throwNew .referenceError "unsupported reference to 'super'"

/-! ### Members of objects -/

/-- Makes a method of an object; its name says whether it is half of an accessor. -/
def makeMethod (home : Ref) (kind : MethodKind) (name : Str) (f : Func) (env : Env) :
    Proc Value := do
  let shown := match kind with
    | .method => name
    | .getter => Str.ofString "get " ++ name
    | .setter => Str.ofString "set " ++ name
  return .object (← makeFunction f env shown (some home))

/-- Makes a method of an object and puts it into its place. -/
def defineMethod (target : Ref) (enumerable : Bool) (kind : MethodKind) (k : Key) (f : Func)
    (env : Env) : Proc Unit := do
  let v ← makeMethod target kind (← nameOfKey k) f env
  let d : Descriptor := match kind with
    | .method => ⟨some v, none, none, some true, some enumerable, some true⟩
    | .getter => ⟨none, some v, none, none, some enumerable, some true⟩
    | .setter => ⟨none, none, some v, none, some enumerable, some true⟩
  defineOrThrow target k d

/-- Whether an expression makes a function or class without a name. -/
def isNameless : Expr → Bool
  | .func f => f.info.name.isNone
  | .klass (.mk name _ _ _ _) => name.isNone
  | _ => false

/-- The value of an expression, where a function without a name gets one that has to be found. -/
def evalNameless (e : Expr) (name : Proc Str) (env : Env) : Proc Value := do
  if isNameless e then evalNamed e (← name) env else eval e env

/-- Puts a value into an object literal.  A computed key is converted behind the value. -/
def evalMember (r : Ref) (key : PropName) (e : Expr) (env : Env) : Proc Unit := do
  match key with
  | .computed key =>
    let k ← eval key env
    let v ← evalNameless e (do nameOfKey (← toKey k)) env
    defineValue r (← toKey k) v
  | key =>
    let k ← evalKey env key
    defineValue r k (← evalNameless e (nameOfKey k) env)

/-- Puts the members of an object literal into an object. -/
def evalMembers (r : Ref) (env : Env) : List Member → Proc Unit
  | [] => pure ()
  | .value key e :: rest => do
    evalMember r key e env
    evalMembers r env rest
  | .proto e :: rest => do
    match ← eval e env with
    | .object p => modifyObject r fun o => { o with proto := some p }
    | .null => modifyObject r fun o => { o with proto := none }
    | _ => pure ()
    evalMembers r env rest
  | .method kind key f :: rest => do
    let k ← evalKey env key
    defineMethod r true kind k f env
    evalMembers r env rest
  | .spread e :: rest => do
    let v ← eval e env
    if isObject v then copyProperties r v []
    evalMembers r env rest

/-- Makes an array of items and holes. -/
def arrayLiteral (items : List (Option Value)) : Proc Value := do
  let props := items.zipIdx.filterMap fun (v, i) => v.map fun v => (Key.index i, Property.plain v)
  return .object (← alloc { kind := .array items.length false, proto := some Intrinsic.arrayProto,
                            props := props.toArray })

/-! ### Classes -/

/-- The constructor of a class that has none written. -/
def defaultConstructor (derived : Bool) (text : String) : Func :=
  let info : FuncInfo := { name := none, kind := if derived then .derivedConstructor
                             else .baseConstructor
                           isAsync := false, isGenerator := false, isStrict := true, text
                           length := 0, ownParams := false, vars := [] }
  if derived then
    .mk info [] (some (.target (.ident "args"))) [.expr (.superCall [.spread (.ident "args")])]
  else .mk info [] none []

/-- A function with another source text. -/
def withText (text : String) : Func → Func
  | .mk info params rest body => .mk { info with text } params rest body

/-- What the parent of a class gives it: the prototype of its prototype and of itself. -/
def classParent (env : Env) : Option Expr → Proc (Option Ref × Ref)
  | none => pure (some Intrinsic.objectProto, Intrinsic.functionProto)
  | some e => do
    match ← eval e env with
    | .null => return (none, Intrinsic.functionProto)
    | .object p =>
      unless ← isConstructor (.object p) do throwType "parent class must be constructor"
      match ← getOf p (Key.ofString "prototype") with
      | .object q => return (some q, p)
      | .null => return (none, p)
      | _ => throwType "parent prototype must be an object or null"
    | _ => throwType "parent class must be constructor"

/-- What is left to do for a class when its methods are made. -/
structure ClassRest where
  fields : List ClassField := []
  /-- The static fields and blocks: a block has no key. -/
  statics : List (Option Key × Value) := []

/-- A method that computes the value of a field; a function without a name gets that of the
field. -/
def fieldFunc (name : Str) : Func → Func
  | .mk info params rest [.ret (some e)] => .mk info params rest [.ret (some (.named name e))]
  | f => f

/-- The private members that a class declares, before its methods are made; `own` and `static` are
the marks of the objects that have its methods, and of the class itself. -/
def declareHidden (own static : Nat) : List ClassMember → Proc (List (String × HiddenMember))
  | [] => pure []
  | .field _ (.hidden name) _ :: rest => do
    let id ← allocSymbol (some (Str.ofString name))
    return (name, .field id) :: (← declareHidden own static rest)
  | .method isStatic kind (.hidden name) _ :: rest => do
    let brand := if isStatic then static else own
    let m := if kind = .method then HiddenMember.method brand .undefined
      else .accessor brand none none
    return (name, m) :: (← declareHidden own static rest)
  | _ :: rest => declareHidden own static rest

/-- A private member with one of its functions. -/
def HiddenMember.withFunction (kind : MethodKind) (f : Value) : HiddenMember → HiddenMember
  | .field id => .field id
  | .method brand g => if kind = .method then .method brand f else .method brand g
  | .accessor brand get set =>
    match kind with
    | .getter => .accessor brand (some f) set
    | .setter => .accessor brand get (some f)
    | .method => .accessor brand get set

/-- Makes the members of a class. -/
def evalClassMembers (ctor proto : Ref) (env : Env) : List ClassMember → ClassRest →
    Proc ClassRest
  | [], acc => pure acc
  | .method isStatic kind (.hidden name) f :: rest, acc => do
    let home := if isStatic then ctor else proto
    let v ← makeMethod home kind (Str.ofString name) f env
    modifyScope env.scope fun s =>
      { s with hidden := s.hidden.map fun (n, m) =>
          (n, if n == name then HiddenMember.withFunction kind v m else m) }
    evalClassMembers ctor proto env rest acc
  | .method isStatic kind key f :: rest, acc => do
    let k ← evalKey env key
    defineMethod (if isStatic then ctor else proto) false kind k f env
    evalClassMembers ctor proto env rest acc
  | .field isStatic key init :: rest, acc => do
    let k ← evalKey env key
    let f ← match init with
      | some f => do
        let f := fieldFunc (← nameOfKey k) f
        pure (Value.object
          (← makeFunction f env Str.empty (some (if isStatic then ctor else proto))))
      | none => pure .undefined
    evalClassMembers ctor proto env rest
      (if isStatic then { acc with statics := acc.statics ++ [(some k, f)] }
       else { acc with fields := acc.fields ++ [⟨k, f⟩] })
  | .block f :: rest, acc => do
    let f ← makeFunction f env Str.empty (some ctor)
    evalClassMembers ctor proto env rest
      { acc with statics := acc.statics ++ [(none, .object f)] }

/-- Runs the static fields and blocks of a class. -/
def runStatics (ctor : Ref) : List (Option Key × Value) → Proc Unit
  | [] => pure ()
  | (k, f) :: rest => do
    match k with
    | some k => makeFields (.object ctor) [⟨k, f⟩]
    | none => discard (call f (.object ctor) [])
    runStatics ctor rest

/-- Whether a class has private methods, of its objects or its own. -/
def hasHiddenMethods (ofClass : Bool) (members : List ClassMember) : Bool :=
  members.any fun m => match m with
    | .method isStatic _ (.hidden _) _ => isStatic == ofClass
    | _ => false

/-- Makes a class. -/
def evalClass (given : Str) (env : Env) : Class → Proc Value
  | .mk name text parent ctor members => do
    let scope ← allocScope {
      vars := (name.map fun n => { name := n, value := none, isConst := true }).toList
      parent := some env.scope }
    let env : Env := { env with scope, isStrict := true }
    let (protoParent, ctorParent) ← classParent env parent
    let ownBrand ← allocSymbol none
    let classBrand ← allocSymbol none
    let hidden ← declareHidden ownBrand classBrand members
    modifyScope scope fun s => { s with hidden }
    let proto ← alloc { kind := .plain, proto := protoParent }
    let f := match ctor with
      | some f => withText text f
      | none => defaultConstructor parent.isSome text
    let shown := name.elim given declaredName
    let r ← alloc {
      kind := .function ⟨f, env, some proto, {}, true⟩
      proto := some ctorParent
      props := (functionProps f.info.length shown).push
        (Key.ofString "prototype", .fixed (.object proto)) }
    define proto (Key.ofString "constructor") (.hidden (.object r))
    let rest ← evalClassMembers r proto env members {}
    let brand := if hasHiddenMethods false members then some ownBrand else none
    setKind r (.function ⟨f, env, some proto, { brand, fields := rest.fields }, true⟩)
    if let some n := name then initializeVar n (.object r) env
    if hasHiddenMethods true members then addBrand r classBrand
    runStatics r rest.statics
    return .object r

/-! ### Operators -/

/-- The value of an operator on one value. -/
def unaryOp (op : UnaryOp) (v : Value) : Proc Value := do
  match op with
  | .minus => return (← toNumeric v).negate
  | .plus =>
    match ← toPrimitive v .number with
    | .bigint _ => throwType "BigInt argument with unary +"
    | p => primitiveNumber p
  | .not => return .bool !v.truthy
  | .complement =>
    match ← toNumeric v with
    | .bigint n => return .bigint (-n - 1)
    | v => return .ofInt (-(Value.toInt32 v) - 1)
  | .typeof => return .ofString (← typeName v)
  | .void => return .undefined

/-- Whether a logical operator needs its second operand, given the first. -/
def goesOn (op : LogicalOp) (v : Value) : Bool :=
  match op with
  | .and => v.truthy
  | .or => !v.truthy
  | .coalesce => v.isNullish

/-- The value of an expression that is assigned to a target: a variable gives its name to a
function. -/
def evalAssigned (target e : Expr) (env : Env) : Proc Value :=
  match target with
  | .ident name => evalNamed e (Str.ofString name) env
  | _ => eval e env

/-- The promise that an import settles. -/
def startImport (specifier : Value) (env : Env) : Proc Value := do
  let cap ← ownCapability
  enqueue (.importModule env.file specifier cap)
  return cap.promise

/-- The object `import.meta` of the module that runs. -/
def metaObject (env : Env) : Proc Value := do
  match (← moduleTable).records.findIdx? fun m => m.name == env.file with
  | some id =>
    match (← moduleState id).metaObject with
    | some r => return .object r
    | none =>
      let r ← alloc { kind := .plain, proto := none }
      modifyModule id fun m => { m with metaObject := some r }
      return .object r
  | none => return .undefined

/-! ### Chains -/

/-- Goes on with the value of the base of a link, unless the chain has ended. -/
def withBase (e : Expr) (optional : Bool) (env : Env) (k : Value → Proc Reply) : Proc Reply := do
  match ← ask (.eval e env) with
  | .short => return .short
  | r =>
    let v := valueOf r
    if optional && v.isNullish then return .short else k v

/-- The value of a property whose key is computed. -/
def getIndexed (base k : Value) : Proc Value := do
  match base with
  | .undefined => throwType "cannot read property of undefined"
  | .null => throwType "cannot read property of null"
  | base => get base (← toKey k)

/-- The function that a call calls, and its `this`. -/
def evalCallee (env : Env) : Expr → Proc Reply
  | .dot e name optional => withBase e optional env fun base => do
      return .callee (← get base (.ofString name)) base
  | .hiddenDot e name optional => withBase e optional env fun base => do
      return .callee (← getHidden base name env) base
  | .index e key optional => withBase e optional env fun base => do
      let k ← eval key env
      return .callee (← getIndexed base k) base
  | .superDot name => do
    let this ← thisValue env
    return .callee (← getAbove (← superObject env) this (.ofString name)) this
  | .superIndex key => do
    let this ← thisValue env
    let k ← toKey (← eval key env)
    return .callee (← getAbove (← superObject env) this k) this
  | .chain e => do
    match ← ask (.callee e env) with
    | .callee f this => return .callee f this
    | _ => return .callee .undefined .undefined
  | e => do
    match ← ask (.eval e env) with
    | .short => return .short
    | r => return .callee (valueOf r) .undefined

/-- Runs a value as a program in the place of a call of `eval` by its name; a value that is no text
is the result itself. -/
def evalInPlace (args : List Value) (env : Env) : Proc Value := do
  match args.headD .undefined with
  | .string s =>
    let inFunction := match ← activation env with
      | some (_, a) => a.func.isSome
      | none => false
    evalText s { env with file := outermost.file } inFunction
  | v => return v

/-! ### Expressions -/

/-- Evaluates an expression whose value may be the end of a chain. -/
def evalExpr (env : Env) : Expr → Proc Reply
  | .lit l => pure (.value (literalValue l))
  | .ident name => do return .value (← readVar name env)
  | .this => do return .value (← thisValue env)
  | .newTarget => do
    match ← activation env with
    | some (_, a) => return .value a.newTarget
    | none => return .value .undefined
  | .importMeta => do return .value (← metaObject env)
  | .template head parts => do return .value (← evalTemplate env head parts)
  | .tagged tag site pieces args => do
    match ← ask (.callee tag env) with
    | .callee f this =>
      let strings ← templateObject site pieces env
      let args ← evalArgs env (args.map Item.one)
      return .value (← call f this (strings :: args))
    | _ => return .short
  | .array items => do return .value (← arrayLiteral (← evalItems env items))
  | .object members => do
    let r ← allocPlain
    evalMembers r env members
    return .value (.object r)
  | .func f => do return .value (← functionValue f env Str.empty)
  | .klass c => do return .value (← evalClass Str.empty env c)
  | .unary .typeof (.ident name) => do
    let v := (← readVar? name env).getD .undefined
    return .value (.ofString (← typeName v))
  | .unary op e => do return .value (← unaryOp op (← eval e env))
  | .delete e =>
    match e with
    | .chain (.dot e name optional) => do
      match ← withBase e optional env fun base => do
          return .value (← deletePlace env (.member base (.ofString name))) with
      | .short => return .value (.bool true)
      | r => return r
    | .chain (.index e key optional) => do
      match ← withBase e optional env fun base => do
          return .value (← deletePlace env (.nowhere base (← eval key env))) with
      | .short => return .value (.bool true)
      | r => return r
    | .ident _ | .dot .. | .index .. | .superDot _ | .superIndex _ => do
      return .value (← deletePlace env (← evalPlace env e))
    | e => do
      discard (eval e env)
      return .value (.bool true)
  | .update up isBefore target => do
    let place ← evalPlace env target
    let old ← toNumeric (← readPlace env place)
    let new := Value.stepBy up old
    writePlace env new place
    return .value (if isBefore then new else old)
  | .binary op l r => do
    let a ← eval l env
    let b ← eval r env
    return .value (← binaryOp op a b)
  | .logical op l r => do
    let a ← eval l env
    if goesOn op a then return .value (← eval r env) else return .value a
  | .cond test yes no => do
    if (← eval test env).truthy then return .value (← eval yes env)
    else return .value (← eval no env)
  | .assign (.target t) e => do
    let place ← evalPlace env t
    let v ← evalAssigned t e env
    writePlace env v place
    return .value v
  | .assign p e => do
    let v ← eval e env
    bindPattern p v .assign env
    return .value v
  | .assignOp op target e => do
    let place ← evalPlace env target
    let old ← readPlace env place
    let v ← binaryOp op old (← eval e env)
    writePlace env v place
    return .value v
  | .assignLogical op target e => do
    let place ← evalPlace env target
    let old ← readPlace env place
    if goesOn op old then
      let v ← evalAssigned target e env
      writePlace env v place
      return .value v
    else return .value old
  | .comma l r => do
    discard (eval l env)
    return .value (← eval r env)
  | .dot e name optional => withBase e optional env fun base => do
      return .value (← get base (.ofString name))
  | .hiddenDot e name optional => withBase e optional env fun base => do
      return .value (← getHidden base name env)
  | .hiddenIn name e => do return .value (.bool (← hasHidden (← eval e env) name env))
  | .index e key optional => withBase e optional env fun base => do
      let k ← eval key env
      return .value (← getIndexed base k)
  | .call callee args optional => do
    match ← ask (.callee callee env) with
    | .callee f this =>
      if optional && f.isNullish then return .short
      let args ← evalArgs env args
      match callee, f with
      | .ident "eval", .object r =>
        if r = Intrinsic.eval && !optional then return .value (← evalInPlace args env)
        return .value (← call f this args)
      | _, _ => return .value (← call f this args)
    | _ => return .short
  | .chain e => do
    match ← ask (.eval e env) with
    | .short => return .value .undefined
    | r => return r
  | .superDot name => do
    let this ← thisValue env
    return .value (← getAbove (← superObject env) this (.ofString name))
  | .superIndex key => do
    let this ← thisValue env
    let k ← toKey (← eval key env)
    return .value (← getAbove (← superObject env) this k)
  | .superCall args => do return .value (← superCall (← evalArgs env args) env)
  | .new callee args => do
    let f ← eval callee env
    let args ← evalArgs env args
    return .value (← construct f args f)
  | .await e => do
    return .value (← awaitValue (← eval e env))
  | .importCall e => do return .value (← startImport (← eval e env) env)
  | .named name e => do return .value (← evalNamed e name env)
  | .group e => do return .value (← eval e env)
  | .yield e => do
    let v ← match e with
      | some e => eval e env
      | none => pure .undefined
    match ← activation env with
    | some (_, { generator := some r, .. }) => return .value (← yieldValue r v)
    | _ => return .value .undefined
  | .yieldAll e => do
    let v ← eval e env
    match ← activation env with
    | some (_, { generator := some r, .. }) => return .value (← yieldAllOf r v)
    | _ => return .value .undefined

/-- The value of an expression, where a function without a name gets one. -/
def evalNamedExpr (name : Str) (env : Env) : Expr → Proc Reply
  | .func f => do return .value (← functionValue f env name)
  | .klass c => do return .value (← evalClass name env c)
  | e => ask (.eval e env)

end Proc

end ScriptBridge.Script
