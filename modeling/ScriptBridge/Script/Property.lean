import ScriptBridge.Script.Intrinsic
import ScriptBridge.Script.Proc

/-!
# Reading and writing properties

Properties are looked up along the chain of prototypes.  A property that holds a value is read
without running anything; one with a getter is read by calling it.
-/

namespace ScriptBridge.Script

namespace Key

/-- The key `length`. -/
def length : Key := .text (Str.ofString "length")

/-- A name as messages show it: at most sixty-three bytes of one that is not all ASCII. -/
def shown (name : String) : String :=
  if name.toList.all fun c => c.toNat < 0x80 then name else String.ofList (cut 63 name.toList)
where
  cut : Nat → List Char → List Char
    | _, [] => []
    | room, c :: rest => if c.utf8Size ≤ room then c :: cut (room - c.utf8Size) rest else []

/-- The name of a key as messages show it. -/
def label (w : World) (k : Key) : String :=
  let s := match k with
    | .symbol id | .hidden id => (w.symbols.getD id none).getD Str.empty
    | k => k.str?.getD Str.empty
  shown s.toStringLossy

end Key

/-- A message as errors of the engine keep it: at most 255 bytes. -/
def cutMessage (s : String) : String :=
  if s.utf8ByteSize ≤ 255 then s else String.ofList (Key.shown.cut 255 s.toList)

namespace Proc

variable {α : Type}

/-! ### Errors -/

/-- What an error remembers of the place where it was made: something exactly when anything runs
that shows up in stack traces.

It stands in for the trace of the engine, which has a line for each call, down to the outermost one.
Here all traces that are not empty are one text, so what a script reads off the lines of a trace is
not what it reads here. -/
def stackText (traced : Bool) : Str := Str.ofString (if traced then "    at <anonymous>\n" else "")

/-- Makes an error with a prototype; `fields` are its other properties. -/
def allocError (proto : Ref) (message : Option Str) (fields : List (String × Value)) :
    Proc Ref := do
  let traced ← isTraced
  let message := message.map fun m => ("message", Value.string m)
  let stack := ("stack", Value.string (stackText traced))
  let props := (message.toList ++ fields ++ [stack]).map fun (name, v) =>
    (Key.ofString name, Property.hidden v)
  alloc { kind := .error, proto := some proto, props := props.toArray }

/-- Makes an error of the engine. -/
def makeError (type : ErrorType) (message : String) : Proc Value := do
  let r ← allocError (Intrinsic.errorProto type) (some (Str.ofString (cutMessage message))) []
  return .object r

/-- Throws an error of the engine. -/
def throwNew (type : ErrorType) (message : String) : Proc α := do
  throwValue (← makeError type message)

/-- Throws a type error. -/
def throwType (message : String) : Proc α := throwNew .typeError message

/-! ### Own properties -/

/-- The variable that a binding stands for, through the modules in between; `fuel` bounds them. -/
def resolveLink (w : World) : Nat → ScopeRef → String → Option Binding
  | 0, _, _ => none
  | fuel + 1, s, name =>
    match (w.scopes.getD s default).find? name with
    | some b =>
      match b.link with
      | some (t, other) => resolveLink w fuel t other
      | none => some b
    | none => none

/-- The property of an object's own under a key. -/
def ownIn (w : World) (o : Object) (k : Key) : Option Property :=
  match o.kind with
  | .array n fixed =>
    if k == Key.length then some ⟨.data (Value.ofNat n), !fixed, false, false⟩ else o.find? k
  | .boxed (.string s) =>
    match k with
    | .index i =>
      if i < s.length then some ⟨.data (.string (s.slice i (i + 1))), false, true, false⟩
      else o.find? k
    | k =>
      if k == Key.length then some (.fixed (Value.ofNat s.length)) else o.find? k
  | .namespace _ names =>
    match k.str? with
    | some s =>
      match names.lookup s with
      | some (scope, name) =>
        let holding := match resolveLink w (w.scopes.size + 1) scope name with
          | some { value := some v, .. } => .data v
          | _ => .unset s.toStringLossy
        some ⟨holding, true, true, false⟩
      | none => none
    | none => o.find? k
  | .arguments =>
    (o.find? k).map fun p =>
      match p.holding with
      | .parameter s name => { p with holding := .data (((resolveLink w 1 s name).bind
          Binding.value).getD .undefined) }
      | _ => p
  | _ => o.find? k

/-- The property of an object's own under a key. -/
def ownProperty (r : Ref) (k : Key) : Proc (Option Property) := do
  let w ← world
  return ownIn w (w.objects.getD r default) k

/-- The keys of an object's own properties: indices in order, then texts and then symbols, both in
the order in which they were made. -/
def ownKeysOf (o : Object) : List Key :=
  let keys := o.props.toList.map (·.1)
  let indices := keys.filterMap fun k => match k with
    | .index i => some i
    | _ => none
  let texts := keys.filter fun k => match k with
    | .text _ => true
    | _ => false
  let symbols := keys.filter fun k => match k with
    | .symbol _ => true
    | _ => false
  let sorted := (if isSorted indices then indices else indices.mergeSort (· ≤ ·)).map Key.index
  match o.kind with
  | .array .. => sorted ++ Key.length :: texts ++ symbols
  | .boxed (.string s) =>
    (List.range s.length).map Key.index ++ sorted ++ Key.length :: texts ++ symbols
  | .namespace _ names => names.map (fun e => Key.ofStr e.1) ++ symbols
  | _ => sorted ++ texts ++ symbols
where
  isSorted : List Nat → Bool
    | a :: b :: rest => a ≤ b && isSorted (b :: rest)
    | _ => true

/-- The keys of an object's own properties. -/
def ownKeys (r : Ref) : Proc (List Key) := do return ownKeysOf (← object r)

/-! ### Looking up -/

/-- The property under a key, of the object or of a prototype of it. -/
def lookupIn (w : World) (k : Key) : Nat → Ref → Option (Ref × Property)
  | 0, _ => none
  | fuel + 1, r =>
    let o := w.objects.getD r default
    match ownIn w o k with
    | some p => some (r, p)
    | none =>
      match o.proto with
      | some q => lookupIn w k fuel q
      | none => none

/-- The property under a key, of the object or of a prototype of it.  A chain of prototypes is
never longer than the heap. -/
def lookup (r : Ref) (k : Key) : Proc (Option (Ref × Property)) := do
  let w ← world
  return lookupIn w k (w.objects.size + 1) r

/-- What a property holds, read for `receiver`. -/
def readHolding (h : Holding) (receiver : Value) : Proc Value :=
  match h with
  | .data v => pure v
  | .accessor .undefined _ => pure .undefined
  | .accessor getter _ => call getter receiver []
  | .unset name => throwNew .referenceError s!"{name} is not initialized"
  | .parameter .. => pure .undefined

/-- The keys of an object's own enumerable properties.  Fails if one of them is an export without a
value. -/
def enumerableKeys (r : Ref) : Proc (List Key) := do
  let w ← world
  let o := w.objects.getD r default
  let found := (ownKeysOf o).filterMap fun k =>
    match ownIn w o k with
    | some p => if p.enumerable then some (k, p.holding) else none
    | none => none
  match found.findSome? fun f => match f.2 with
      | .unset name => some name
      | _ => none with
  | some name => throwNew .referenceError s!"{name} is not initialized"
  | none => return found.map (·.1)

/-- The value of a property of an object, read for `receiver`. -/
def getFrom (r : Ref) (k : Key) (receiver : Value) : Proc Value := do
  match ← lookup r k with
  | some (_, p) => readHolding p.holding receiver
  | none => return .undefined

/-- The value of a property of an object. -/
def getOf (r : Ref) (k : Key) : Proc Value := getFrom r k (.object r)

/-- The prototype that a value's properties are looked up in. -/
def protoOf? : Value → Option Ref
  | .undefined | .null => none
  | .bool _ => some Intrinsic.booleanProto
  | .int _ | .float _ => some Intrinsic.numberProto
  | .string _ => some Intrinsic.stringProto
  | .symbol _ => some Intrinsic.symbolProto
  | .bigint _ => some Intrinsic.bigintProto
  | .object r => some r

/-- The value of a property of any value. -/
def get (v : Value) (k : Key) : Proc Value := do
  match v with
  | .object r => getOf r k
  | .string s =>
    match k with
    | .index i =>
      if i < s.length then return .string (s.slice i (i + 1))
      else getFrom Intrinsic.stringProto k v
    | k =>
      if k == Key.length then return Value.ofNat s.length
      else getFrom Intrinsic.stringProto k v
  | _ =>
    match protoOf? v with
    | some r => getFrom r k v
    | none =>
      let base := match v with
        | .null => "null"
        | _ => "undefined"
      throwType s!"cannot read property '{k.label (← world)}' of {base}"

/-- Whether an object or a prototype of it has a property. -/
def hasProperty (r : Ref) (k : Key) : Proc Bool := do return (← lookup r k).isSome

/-- The method under a key: `undefined` if there is none. -/
def getMethod (v : Value) (k : Key) : Proc Value := do
  let f ← get v k
  if f.isNullish then return .undefined
  if ← isCallable f then return f
  throwType "not a function"

/-- Calls the method under a key. -/
def invoke (v : Value) (k : Key) (args : List Value) : Proc Value := do
  let f ← get v k
  unless ← isCallable f do throwType "not a function"
  call f v args

/-! ### Changing -/

/-- Why a property is not changed. -/
inductive WriteFault
  | readOnly
  | noSetter
  | notExtensible
  | notConfigurable
  | badLength
  /-- An array would get longer, and its length cannot change. -/
  | fixedLength
  | notObject
deriving DecidableEq, Repr

/-- The wording of a fault. -/
def WriteFault.message (label : String) : WriteFault → String
  | .readOnly => s!"'{label}' is read-only"
  | .noSetter => "no setter for property"
  | .notExtensible => "object is not extensible"
  | .notConfigurable => "property is not configurable"
  | .badLength => "invalid array length"
  | .fixedLength => "'length' is read-only"
  | .notObject => "not an object"

/-- The array length that a primitive value stands for. -/
def lengthOf? (v : Value) : Option Nat :=
  match v with
  | .int n => if 0 ≤ n.toInt then some n.toInt.toNat else none
  | .float x => ofFloat x
  | .bool b => some (if b then 1 else 0)
  | .null => some 0
  | .string s => ofFloat (Value.floatOfStr s)
  | _ => none
where
  ofFloat (x : Float) : Option Nat :=
    let n := Value.truncate x
    if 0 ≤ n ∧ n < 2 ^ 32 ∧ floatOfInt n == x then some n.toNat else none

/-- The object with a new property, or with a property replaced that may be. -/
def place (o : Object) (k : Key) (p : Property) : Object :=
  match o.kind, k with
  | .array n fixed, .index i =>
    let o := o.put k p
    if n ≤ i then { o with kind := .array (i + 1) fixed } else o
  | _, _ => o.put k p

/-- The array with another length; items that cannot be removed stop it from shrinking. -/
def resize (o : Object) (n : Nat) : Object × Bool :=
  match o.kind with
  | .array old fixed =>
    if old ≤ n then ({ o with kind := .array n fixed }, true)
    else
      let stuck := o.props.foldl (fun m p => match p.1 with
        | .index i => if n ≤ i && !p.2.configurable then max m (i + 1) else m
        | _ => m) n
      let props := o.props.filter fun p => match p.1 with
        | .index i => i < stuck
        | _ => true
      ({ o with kind := .array stuck fixed, props }, stuck == n)
  | _ => (o, false)

/-- Why an object does not get a new property, if it does not. -/
def growthFault? (o : Object) (k : Key) : Option WriteFault :=
  match o.kind, k with
  | .array n true, .index i =>
    if n ≤ i then some .fixedLength else if o.extensible then none else some .notExtensible
  | .namespace .., _ => some .notExtensible
  | _, _ => if o.extensible then none else some .notExtensible

/-- The parameter that an object of arguments shows under a key. -/
def parameter? (o : Object) (k : Key) : Option (ScopeRef × String) :=
  match o.kind, (o.find? k).map Property.holding with
  | .arguments, some (.parameter s name) => some (s, name)
  | _, _ => none

/-- Makes or replaces a property of an object, whatever was there. -/
def define (r : Ref) (k : Key) (p : Property) : Proc Unit := do
  match parameter? (← object r) k, p.holding with
  | some (s, name), .data v =>
    modifyScope s fun t => t.put { name, value := some v }
    let holding := if p.writable then .parameter s name else p.holding
    modifyObject r fun o => o.put k { p with holding }
  | _, _ => modifyObject r fun o => place o k p

/-- Makes an ordinary property of an object. -/
def defineValue (r : Ref) (k : Key) (v : Value) : Proc Unit := define r k (.plain v)

/-- Gives a property of an object's own a new value, or makes it. -/
def writeOwn (r : Ref) (k : Key) (v : Value) : Proc (Option WriteFault) := do
  let w ← world
  let o := w.objects.getD r default
  match ownIn w o k with
  | some p =>
    match o.kind with
    | .namespace .. => return some .readOnly
    | _ => pure ()
    if !p.isData then return some .noSetter
    if !p.writable then return some .readOnly
    match o.kind with
    | .array .. =>
      if k == Key.length then
        match lengthOf? v with
        | some n =>
          let (o, whole) := resize o n
          setObject r o
          return if whole then none else some .notConfigurable
        | none => return some .badLength
      else
        modifyObject r fun o => o.put k { p with holding := .data v }
        return none
    | _ =>
      define r k { p with holding := .data v }
      return none
  | none =>
    if !o.extensible then return some .notExtensible
    match growthFault? o k with
    | none =>
      modifyObject r fun o => place o k (.plain v)
      return none
    | fault => return fault

/-- Assigns to a property of `r`, for `receiver`. -/
def setFor (r : Ref) (k : Key) (v receiver : Value) : Proc (Option WriteFault) := do
  let write : Proc (Option WriteFault) :=
    match receiver with
    | .object q => writeOwn q k v
    | _ => return some .notObject
  match ← lookup r k with
  | some (_, p) =>
    match p.holding with
    | .accessor _ .undefined => return some .noSetter
    | .accessor _ setter =>
      discard (call setter receiver [v])
      return none
    | _ => if p.writable then write else return some .readOnly
  | none => write

/-- Assigns to a property of an object. -/
def setOf (r : Ref) (k : Key) (v : Value) : Proc (Option WriteFault) := setFor r k v (.object r)

/-- Assigns to a property of any value; in strict code a refusal is thrown. -/
def set (target : Value) (k : Key) (v : Value) (isStrict : Bool) : Proc Unit := do
  let fault ←
    match target with
    | .object r => setOf r k v
    | _ =>
      match protoOf? target with
      | some r => setFor r k v target
      | none =>
        let base := match target with
          | .null => "null"
          | _ => "undefined"
        throwType s!"cannot set property '{k.label (← world)}' of {base}"
  match fault with
  | none => pure ()
  | some .badLength => throwNew .rangeError "invalid array length"
  | some f => if isStrict then throwType (f.message (k.label (← world)))

/-- What a program says of a property that it defines. -/
structure Descriptor where
  value : Option Value := none
  getter : Option Value := none
  setter : Option Value := none
  writable : Option Bool := none
  enumerable : Option Bool := none
  configurable : Option Bool := none

namespace Descriptor

/-- Whether the property will have functions. -/
def isAccessor (d : Descriptor) : Bool := d.getter.isSome || d.setter.isSome

/-- The property that a descriptor makes where there is none. -/
def fresh (d : Descriptor) : Property :=
  let holding := if d.isAccessor then
      .accessor (d.getter.getD .undefined) (d.setter.getD .undefined)
    else .data (d.value.getD .undefined)
  ⟨holding, d.writable.getD false, d.enumerable.getD false, d.configurable.getD false⟩

/-- The property that a descriptor makes of `p`. -/
def revise (d : Descriptor) (p : Property) : Property :=
  let holding :=
    if d.isAccessor then
      match p.holding with
      | .accessor g s => .accessor (d.getter.getD g) (d.setter.getD s)
      | _ => .accessor (d.getter.getD .undefined) (d.setter.getD .undefined)
    else if d.value.isSome || d.writable.isSome then
      match p.holding with
      | .accessor .. => .data (d.value.getD .undefined)
      | .data v => .data (d.value.getD v)
      | h => h
    else p.holding
  let writable := if !p.isData && !d.isAccessor then d.writable.getD false
    else d.writable.getD p.writable
  ⟨holding, writable, d.enumerable.getD p.enumerable, d.configurable.getD p.configurable⟩

/-- Whether a property that cannot be configured may be changed as a descriptor says. -/
def fits (d : Descriptor) (p : Property) : Bool :=
  d.configurable != some true
    && (match d.enumerable with | some e => e == p.enumerable | none => true)
    && match p.holding with
      | .accessor g s =>
        d.value.isNone && d.writable.isNone
          && (match d.getter with | some f => f.sameValue g | none => true)
          && (match d.setter with | some f => f.sameValue s | none => true)
      | .data v =>
        !d.isAccessor && (p.writable
          || (d.writable != some true
            && match d.value with | some x => x.sameValue v | none => true))
      | .unset _ | .parameter .. => false

end Descriptor

/-- Defines a property as a descriptor says. -/
def defineOwn (r : Ref) (k : Key) (d : Descriptor) : Proc (Option WriteFault) := do
  let w ← world
  let o := w.objects.getD r default
  match ownIn w o k with
  | none =>
    match growthFault? o k with
    | none =>
      define r k d.fresh
      return none
    | fault => return fault
  | some p =>
    if !p.configurable && !d.fits p then return some .notConfigurable
    match o.kind with
    | .namespace .. => return none
    | .array n fixed =>
      if k == Key.length then
        let wanted := match d.value with
          | some v => lengthOf? v
          | none => some n
        match wanted with
        | none => return some .badLength
        | some m =>
          let (o, whole) := resize o m
          let o := match o.kind with
            | .array m _ => { o with kind := .array m (fixed || d.writable == some false) }
            | _ => o
          setObject r o
          return if whole then none else some .notConfigurable
      else
        define r k (d.revise p)
        return none
    | _ =>
      define r k (d.revise p)
      return none

/-- Removes a property: whether it is gone. -/
def deleteOwn (r : Ref) (k : Key) : Proc Bool := do
  match ← ownProperty r k with
  | none => return true
  | some p =>
    if p.configurable then
      modifyObject r fun o => o.erase k
      return true
    else return false

/-- Throws a value out of running code.  An error that remembers no place remembers this one. -/
def rethrow (v : Value) : Proc α := do
  if let .object r := v then
    let o ← object r
    let k := Key.ofString "stack"
    if o.isError && o.extensible then
      if (← ownProperty r k).isNone then define r k (.hidden (.string (stackText true)))
  throwValue v

/-! ### Making objects -/

/-- Makes an object without properties. -/
def allocPlain : Proc Ref := alloc { kind := .plain, proto := some Intrinsic.objectProto }

/-- An array with the given items. -/
def arrayObject (items : List Value) : Object :=
  { kind := .array items.length false, proto := some Intrinsic.arrayProto,
    props := (items.zipIdx.map fun (v, i) => (Key.index i, Property.plain v)).toArray }

/-- Makes an array. -/
def allocArray (items : List Value) : Proc Ref := alloc (arrayObject items)

/-- Makes a built-in function with the values it captures. -/
def allocNative (code : Native) (captured : List Value) (name : String) (length : Nat) :
    Proc Ref :=
  alloc { kind := .native code captured, proto := some Intrinsic.functionProto,
          props := #[
            (Key.length, ⟨.data (Value.ofNat length), false, false, true⟩),
            (Key.ofString "name", ⟨.data (Value.ofString name), false, false, true⟩)] }

end Proc

end ScriptBridge.Script
