import ScriptBridge.Script.Builtin.Basic

/-!
# Functions of objects in general
-/

namespace ScriptBridge.Script

namespace Proc

/-- The object that a descriptor of a property is written as. -/
def ofProperty (p : Property) : Proc Value := do
  let r ← allocPlain
  let put (name : String) (v : Value) : Proc Unit := defineValue r (Key.ofString name) v
  match p.holding with
  | .data v =>
    put "value" v
    put "writable" (.bool p.writable)
  | .accessor g s =>
    put "get" g
    put "set" s
  | .unset name => throwNew .referenceError s!"{name} is not initialized"
  | .parameter .. => pure ()
  put "enumerable" (.bool p.enumerable)
  put "configurable" (.bool p.configurable)
  return .object r

/-- The descriptor that an object writes. -/
def toDescriptor (v : Value) : Proc Descriptor := do
  match v with
  | .object r =>
    let field (name : String) : Proc (Option Value) := do
      if ← hasProperty r (Key.ofString name) then return some (← getOf r (Key.ofString name))
      else return none
    let flag (name : String) : Proc (Option Bool) := do return (← field name).map Value.truthy
    let accessor (name : String) (message : String) : Proc (Option Value) := do
      match ← field name with
      | none => return none
      | some .undefined => return some .undefined
      | some f => if ← isCallable f then return some f else throwType message
    let enumerable ← flag "enumerable"
    let configurable ← flag "configurable"
    let value ← field "value"
    let writable ← flag "writable"
    let getter ← accessor "get" "invalid getter"
    let setter ← accessor "set" "invalid setter"
    if (getter.isSome || setter.isSome) && (value.isSome || writable.isSome) then
      throwType "cannot have setter/getter and value or writable"
    return { value, getter, setter, writable, enumerable, configurable }
  | _ => throwType "not an object"

/-- Defines properties as the own enumerable properties of `source` say. -/
def defineAll (r : Ref) (source : Value) : Proc Unit := do
  let s ← toObject source
  for k in ← enumerableKeys s do
    defineOrThrow r k (← toDescriptor (← getOf s k))

/-- Makes an object refuse changes: new properties, and with `sealing` also the removal of
properties, and with `freezing` also new values. -/
def restrict (r : Ref) (sealing freezing : Bool) : Proc Unit := do
  let w ← world
  modifyObject r fun o =>
    let kind := match o.kind with
      | .array n fixed => .array n (fixed || freezing)
      | k => k
    let restricted (k : Key) (p : Property) : Property :=
      let p := if freezing then (ownIn w o k).getD p else p
      { p with configurable := false, writable := p.writable && !(freezing && p.isData) }
    let props := if sealing || freezing then
        o.props.map fun (k, p) => (k, if k.isHidden then p else restricted k p)
      else o.props
    { o with kind, props, extensible := false }

/-- Whether an object refuses changes as far as that. -/
def isRestricted (v : Value) (freezing : Bool) : Proc Bool := do
  match v with
  | .object r =>
    let w ← world
    let o := w.objects.getD r default
    return !o.extensible && (ownKeysOf o).all fun k =>
      match ownIn w o k with
      | some p => !p.configurable && !(freezing && p.isData && p.writable)
      | none => true
  | _ => return true

/-- Replaces the prototype of an object: whether that was allowed. -/
def replaceProto (r : Ref) (proto : Option Ref) : Proc Bool := do
  let w ← world
  let o := w.objects.getD r default
  if o.proto == proto then return true
  if r == Intrinsic.objectProto then
    throwType "'Immutable prototype object 'Object.prototype' cannot have their prototype set'"
  if !o.extensible then return false
  match proto with
  | some p =>
    if p == r || onChain w r (w.objects.size + 1) p then throwType "circular prototype chain"
  | none => pure ()
  match o.kind with
  | .namespace .. => return false
  | _ =>
    modifyObject r fun o => { o with proto }
    return true

/-- The own keys of a value, texts or symbols. -/
def keysWhere (v : Value) (symbols : Bool) : Proc Value := do
  let keys ← ownKeys (← toObject v)
  arrayOf ((keys.filter fun k => k.str?.isNone == symbols).map keyValue)

/-- What a function makes of each own enumerable key of a value: of those that are there when it
comes to them. -/
def listEntries (v : Value) (item : Ref → Key → Proc Value) : Proc Value := do
  let r ← toObject v
  let mut items : List Value := []
  for k in (← ownKeys r).filter fun k => k.str?.isSome do
    match ← ownProperty r k with
    | some { holding := .unset name, .. } =>
      throwNew .referenceError s!"{name} is not initialized"
    | some { enumerable := true, .. } => items := (← item r k) :: items
    | _ => pure ()
  arrayOf items.reverse

/-- One of the functions that read or write the property under a key, of the object or of a
prototype of it. -/
def lookupAccessor (this : Value) (k : Value) (isGetter : Bool) : Proc Value := do
  let r ← toObject this
  match ← lookup r (← toKey k) with
  | some (_, { holding := .accessor g s, .. }) => return if isGetter then g else s
  | _ => return .undefined

/-- Defines one of the functions that read or write a property. -/
def defineAccessor (this k f : Value) (isGetter : Bool) : Proc Value := do
  let r ← toObject this
  callback f
  let k ← toKey k
  let d : Descriptor := { enumerable := some true, configurable := some true }
  defineOrThrow r k (if isGetter then { d with getter := some f } else { d with setter := some f })
  return .undefined

/-- The prototype that a value gives to another. -/
def toPrototype (v : Value) (message : String) : Proc (Option Ref) :=
  match v with
  | .object p => return some p
  | .null => return none
  | _ => throwType message

/-- Runs a function of objects in general. -/
def runObject (f : ObjectFn) (c : NativeCall) : Proc Value := do
  let v := c.arg 0
  match f with
  | .make =>
    if c.newTarget.isNullish || c.newTarget.sameValue (← get (.object Intrinsic.objectProto)
        (Key.ofString "constructor")) then
      if v.isNullish then return .object (← allocPlain) else return .object (← toObject v)
    else
      let proto ← protoFor c.newTarget Intrinsic.objectProto
      return .object (← alloc { kind := .plain, proto := some proto })
  | .keys => listEntries v fun _ k => pure (keyValue k)
  | .values => listEntries v fun r k => getOf r k
  | .entries => listEntries v fun r k => do pairOf (keyValue k) (← getOf r k)
  | .assign =>
    let r ← toObject v
    for source in c.args.drop 1 do
      unless source.isNullish do
        let s ← toObject source
        for k in ← enumerableKeys s do
          set (.object r) k (← getOf s k) true
    return .object r
  | .create =>
    let proto ← toPrototype v "object prototype may only be an Object or null"
    let r ← alloc { kind := .plain, proto }
    match c.arg 1 with
    | .undefined => pure ()
    | props => defineAll r props
    return .object r
  | .freeze =>
    if let .object r := v then restrict r true true
    return v
  | .seal =>
    if let .object r := v then restrict r true false
    return v
  | .preventExtensions =>
    if let .object r := v then restrict r false false
    return v
  | .isFrozen => return .bool (← isRestricted v true)
  | .isSealed => return .bool (← isRestricted v false)
  | .isExtensible =>
    match v with
    | .object r => return .bool (← object r).extensible
    | _ => return .bool false
  | .defineProperty =>
    match v with
    | .object r =>
      let k ← toKey (c.arg 1)
      defineOrThrow r k (← toDescriptor (c.arg 2))
      return v
    | _ => throwType "not an object"
  | .defineProperties =>
    match v with
    | .object r =>
      defineAll r (c.arg 1)
      return v
    | _ => throwType "not an object"
  | .getPrototypeOf =>
    match (← object (← toObject v)).proto with
    | some p => return .object p
    | none => return .null
  | .setPrototypeOf =>
    if v.isNullish then throwType "not an object"
    let proto ← toPrototype (c.arg 1) "not an object"
    if let .object r := v then
      unless ← replaceProto r proto do throwType "object is not extensible"
    return v
  | .getOwnPropertyNames => keysWhere v false
  | .getOwnPropertySymbols => keysWhere v true
  | .getOwnPropertyDescriptor =>
    let r ← toObject v
    match ← ownProperty r (← toKey (c.arg 1)) with
    | some p => ofProperty p
    | none => return .undefined
  | .getOwnPropertyDescriptors =>
    let r ← toObject v
    let result ← allocPlain
    for k in ← ownKeys r do
      if let some p ← ownProperty r k then defineValue result k (← ofProperty p)
    return .object result
  | .fromEntries =>
    let r ← allocPlain
    consume v (.fields r)
  | .groupBy =>
    callback (c.arg 1)
    consume v (.grouped (c.arg 1) false [])
  | .is => return .bool (v.sameValue (c.arg 1))
  | .hasOwn =>
    let r ← toObject v
    return .bool (← ownProperty r (← toKey (c.arg 1))).isSome
  | .hasOwnProperty =>
    let k ← toKey v
    return .bool (← ownProperty (← toObject c.this) k).isSome
  | .isPrototypeOf =>
    match v with
    | .object r =>
      let p ← toObject c.this
      let w ← world
      return .bool (onChain w p (w.objects.size + 1) r)
    | _ => return .bool false
  | .propertyIsEnumerable =>
    let k ← toKey v
    match ← ownProperty (← toObject c.this) k with
    | some p => return .bool p.enumerable
    | none => return .bool false
  | .toString => tagText c.this
  | .toLocaleString => invoke c.this (Key.ofString "toString") []
  | .valueOf => return .object (← toObject c.this)
  | .getProto =>
    match (← object (← toObject c.this)).proto with
    | some p => return .object p
    | none => return .null
  | .setProto =>
    if c.this.isNullish then throwType "not an object"
    let proto? := match v with
      | .object p => some (some p)
      | .null => some none
      | _ => none
    match c.this, proto? with
    | .object r, some proto =>
      unless ← replaceProto r proto do throwType "object is not extensible"
    | _, _ => pure ()
    return .undefined
  | .defineGetter => defineAccessor c.this v (c.arg 1) true
  | .defineSetter => defineAccessor c.this v (c.arg 1) false
  | .lookupGetter => lookupAccessor c.this v true
  | .lookupSetter => lookupAccessor c.this v false

end Proc

namespace ObjectFn

/-- The functions found in the constructor. -/
def statics : List Builtin := [
  .method "create" (.object .create) 2, .method "getPrototypeOf" (.object .getPrototypeOf) 1,
  .method "setPrototypeOf" (.object .setPrototypeOf) 2,
  .method "defineProperty" (.object .defineProperty) 3,
  .method "defineProperties" (.object .defineProperties) 2,
  .method "getOwnPropertyNames" (.object .getOwnPropertyNames) 1,
  .method "getOwnPropertySymbols" (.object .getOwnPropertySymbols) 1,
  .method "groupBy" (.object .groupBy) 2,
  .method "keys" (.object .keys) 1, .method "values" (.object .values) 1,
  .method "entries" (.object .entries) 1, .method "isExtensible" (.object .isExtensible) 1,
  .method "preventExtensions" (.object .preventExtensions) 1,
  .method "getOwnPropertyDescriptor" (.object .getOwnPropertyDescriptor) 2,
  .method "getOwnPropertyDescriptors" (.object .getOwnPropertyDescriptors) 1,
  .method "is" (.object .is) 2, .method "assign" (.object .assign) 2,
  .method "seal" (.object .seal) 1, .method "freeze" (.object .freeze) 1,
  .method "isSealed" (.object .isSealed) 1, .method "isFrozen" (.object .isFrozen) 1,
  .method "fromEntries" (.object .fromEntries) 1, .method "hasOwn" (.object .hasOwn) 2]

/-- The functions found in every object. -/
def methods : List Builtin := [
  .method "toString" (.object .toString) 0, .method "toLocaleString" (.object .toLocaleString) 0,
  .method "valueOf" (.object .valueOf) 0, .method "hasOwnProperty" (.object .hasOwnProperty) 1,
  .method "isPrototypeOf" (.object .isPrototypeOf) 1,
  .method "propertyIsEnumerable" (.object .propertyIsEnumerable) 1,
  .accessor (Key.ofString "__proto__") "__proto__" (.object .getProto) (some (.object .setProto)),
  .method "__defineGetter__" (.object .defineGetter) 2,
  .method "__defineSetter__" (.object .defineSetter) 2,
  .method "__lookupGetter__" (.object .lookupGetter) 1,
  .method "__lookupSetter__" (.object .lookupSetter) 1]

end ObjectFn

end ScriptBridge.Script
