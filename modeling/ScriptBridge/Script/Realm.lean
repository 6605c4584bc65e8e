import ScriptBridge.Script.Builtin.Arithmetic
import ScriptBridge.Script.Builtin.Array
import ScriptBridge.Script.Builtin.Collection
import ScriptBridge.Script.Builtin.Failure
import ScriptBridge.Script.Builtin.Function
import ScriptBridge.Script.Builtin.Iteration
import ScriptBridge.Script.Builtin.JsonText
import ScriptBridge.Script.Builtin.Number
import ScriptBridge.Script.Builtin.Object
import ScriptBridge.Script.Builtin.Primitive
import ScriptBridge.Script.Builtin.Promise
import ScriptBridge.Script.Builtin.Reflect
import ScriptBridge.Script.Builtin.Text
import ScriptBridge.Script.Builtin.Uri

/-!
# The first world

The world before any script has run: the prototypes at their fixed places, the constructors and
the global object.

Regular expressions, dates, proxies, array buffers with their views, and weak references are not
there.  A script that names one of their constructors finds no such variable.
-/

namespace ScriptBridge.Script

namespace Realm

/-! ### The objects at the fixed places -/

/-- A built-in function. -/
def function (code : Native) (name : String) (length : Nat) : Object :=
  { kind := .native code [], proto := some Intrinsic.functionProto,
    props := #[(Key.length, ⟨.data (Value.ofNat length), false, false, true⟩),
      (Key.ofString "name", ⟨.data (.ofString name), false, false, true⟩)] }

/-- An object with a prototype. -/
def under (kind : ObjectKind) (proto : Ref) : Object := { kind, proto := some proto }

/-- The objects at the fixed places, in their order. -/
def fixedObjects : List Object :=
  let plain := under .plain Intrinsic.objectProto
  let iterator := under .plain Intrinsic.iteratorProto
  [{ kind := .plain, proto := none },
    { function (.function .prototype) "" 0 with proto := some Intrinsic.objectProto },
    under (.array 0 false) Intrinsic.objectProto,
    under (.boxed (.string Str.empty)) Intrinsic.objectProto,
    under (.boxed (.int 0)) Intrinsic.objectProto,
    under (.boxed (.bool false)) Intrinsic.objectProto,
    plain, plain, plain, plain, plain, plain, plain, plain, plain,
    function (.promise .make) "Promise" 1,
    under .plain Intrinsic.functionProto,
    plain] ++ List.replicate 8 (under .plain (Intrinsic.errorProto .error)) ++
  [function (.function .thrower) "" 0,
    function (.array .make) "Array" 1,
    function .eval "eval" 1,
    iterator, iterator, iterator, iterator,
    under .plain Intrinsic.functionProto,
    iterator,
    under .plain Intrinsic.functionProto,
    under .plain Intrinsic.asyncIteratorProto,
    plain,
    under .plain Intrinsic.asyncIteratorProto,
    iterator, iterator]

/-- How many these are. -/
def fixedCount : Nat := fixedObjects.length

/-! ### Objects in the making -/

/-- The objects that have been made: those at the fixed places, and the later ones, the last one
first.  What is made is put together at once, so it is never far from an end. -/
structure Draft where
  fixed : List Object := fixedObjects
  later : List Object := []
  /-- The number of the later ones. -/
  count : Nat := 0

namespace Draft

/-- How many objects were made after one of the later ones. -/
def behind (d : Draft) (r : Ref) : Nat := d.count - 1 - (r - fixedCount)

/-- The object at a place. -/
def object (d : Draft) (r : Ref) : Object :=
  if r < fixedCount then d.fixed.getD r default else d.later.getD (d.behind r) default

/-- The objects after one more was made. -/
def push (d : Draft) (o : Object) : Draft :=
  { d with later := o :: d.later, count := d.count + 1 }

/-- The objects after a change of one of them. -/
def modify (d : Draft) (r : Ref) (f : Object → Object) : Draft :=
  if r < fixedCount then { d with fixed := d.fixed.modify r f }
  else { d with later := d.later.modify (d.behind r) f }

/-- The objects in order. -/
def objects (d : Draft) : Array Object := (d.fixed ++ d.later.reverse).toArray

end Draft

/-- A step of building the first world. -/
abbrev Build := StateM Draft

/-- Makes an object. -/
def make (o : Object) : Build Ref := modifyGet fun d => (fixedCount + d.count, d.push o)

/-- Puts a property into an object. -/
def put (r : Ref) (k : Key) (p : Property) : Build Unit :=
  modify fun d => d.modify r fun o => o.put k p

/-- Makes what an object is made with under a key. -/
def install (r : Ref) (b : Builtin) : Build Unit := do
  let copy (source : Ref) (original key : Key) : Build Unit := do
    if let some p := ((← get).object source).find? original then put r key p
  match b with
  | .function key name code length =>
    put r key (.hidden (.object (← make (function code name length))))
  | .accessor key name read write =>
    let f := Value.object (← make (function read s!"get {name}" 0))
    let g ← match write with
      | some code => pure (Value.object (← make (function code s!"set {name}" 1)))
      | none => pure .undefined
    put r key ⟨.accessor f g, true, false, true⟩
  | .alias key original => copy r original key
  | .shared key => copy Intrinsic.global key key
  | .value key p => put r key p

/-- Makes what an object is made with. -/
def installAll (r : Ref) (bs : List Builtin) : Build Unit := bs.forM (install r)

/-- Gives the objects with a prototype a name for their kind. -/
def tag (r : Ref) (name : String) : Build Unit := install r (.tag name)

/-- Puts a value into the global object. -/
def publish (name : String) (v : Value) : Build Unit :=
  put Intrinsic.global (Key.ofString name) (.hidden v)

/-- Connects a constructor with a prototype. -/
def connect (ctor proto : Ref) : Build Unit := do
  put ctor (Key.ofString "prototype") (.fixed (.object proto))
  put proto (Key.ofString "constructor") (.hidden (.object ctor))

/-- Makes a constructor for a prototype, and puts it into the global object. -/
def complete (name : String) (ctor proto : Ref) (statics methods : List Builtin) :
    Build Unit := do
  installAll proto methods
  connect ctor proto
  installAll ctor statics
  publish name (.object ctor)

/-- Makes a constructor for a prototype, and puts it into the global object. -/
def constructor (name : String) (code : Native) (length : Nat) (proto : Ref)
    (statics methods : List Builtin) : Build Unit := do
  complete name (← make (function code name length)) proto statics methods

/-- Makes an object of functions, and puts it into the global object. -/
def toolbox (name : String) (functions : List Builtin) : Build Unit := do
  let r ← make (under .plain Intrinsic.objectProto)
  installAll r functions
  publish name (.object r)

/-! ### Constructors -/

/-- The kinds of errors other than the plain one. -/
def errorTypes : List ErrorType := [
  .evalError, .rangeError, .referenceError, .syntaxError, .typeError, .uriError, .internalError,
  .aggregateError]

/-- Makes the constructor of a kind of errors. -/
def errorConstructor (type : ErrorType) (above : Ref) : Build Ref := do
  let ctor ← make { function (.error (.make type)) type.name
      (if type = .aggregateError then 2 else 1) with proto := some above }
  complete type.name ctor (Intrinsic.errorProto type)
    (if type = .error then ErrorFn.statics else []) (ErrorFn.shared type)
  return ctor

/-- Makes the constructors of errors. -/
def errors : Build Unit := do
  let error ← errorConstructor .error Intrinsic.functionProto
  for type in errorTypes do
    discard <| errorConstructor type error

/-- Makes the constructor of objects, the prototype of which shows it first. -/
def objects : Build Unit := do
  let ctor ← make (function (.object .make) "Object" 1)
  connect ctor Intrinsic.objectProto
  complete "Object" ctor Intrinsic.objectProto ObjectFn.statics ObjectFn.methods

/-- Makes the constructor of iterators, which their prototype shows but does not hold. -/
def iterators : Build Unit := do
  let ctor ← make (function (.iterator .make) "Iterator" 0)
  put ctor (Key.ofString "prototype") (.fixed (.object Intrinsic.iteratorProto))
  installAll ctor IteratorFn.statics
  installAll Intrinsic.iteratorProto IteratorFn.methods
  install Intrinsic.iteratorProto (.accessor (Key.ofString "constructor") "constructor"
    (.iterator .getConstructor) (some (.iterator .setConstructor)))
  publish "Iterator" (.object ctor)
  for (r, word) in [(Intrinsic.arrayIteratorProto, "Array Iterator"),
      (Intrinsic.mapIteratorProto, "Map Iterator"), (Intrinsic.setIteratorProto, "Set Iterator"),
      (Intrinsic.stringIteratorProto, "String Iterator")] do
    installAll r (IteratorFn.own word)
  installAll Intrinsic.iteratorHelperProto IteratorFn.helper
  installAll Intrinsic.iteratorWrapProto IteratorFn.wrap
  install Intrinsic.asyncIteratorProto
    (.atSymbol Symbols.asyncIterator "[Symbol.asyncIterator]" (.iterator .self) 0)
  installAll Intrinsic.asyncFromSyncProto GeneratorFn.fromSyncMethods

/-- Makes the constructors of collections. -/
def collections : Build Unit := do
  for (type, proto) in [(CollectionKind.map, Intrinsic.mapProto), (.set, Intrinsic.setProto),
      (.weakMap, Intrinsic.weakMapProto), (.weakSet, Intrinsic.weakSetProto)] do
    constructor type.name (.collection (.make type)) 0 proto type.statics type.methods

/-- Makes a constructor of functions of another kind, which only their prototype shows. -/
def functionConstructor (name : String) (isAsync isGenerator : Bool) (proto : Ref) :
    Build Unit := do
  let ctor ← make (function (.function (.make isAsync isGenerator)) name 1)
  put ctor (Key.ofString "prototype") (.fixed (.object proto))
  tag proto name
  put proto (Key.ofString "constructor") ⟨.data (.object ctor), false, false, true⟩

/-- Connects functions that make generators with the generators that they make. -/
def generatorKind (functions generators : Ref) (methods : List Builtin) : Build Unit := do
  installAll generators methods
  put functions (Key.ofString "prototype") ⟨.data (.object generators), false, false, true⟩
  put generators (Key.ofString "constructor") ⟨.data (.object functions), false, false, true⟩

/-- Makes the constructors of functions that wait or yield. -/
def functions : Build Unit := do
  functionConstructor "AsyncFunction" true false Intrinsic.asyncFunctionProto
  functionConstructor "GeneratorFunction" false true Intrinsic.generatorFunctionProto
  functionConstructor "AsyncGeneratorFunction" true true Intrinsic.asyncGeneratorFunctionProto
  generatorKind Intrinsic.generatorFunctionProto Intrinsic.generatorProto GeneratorFn.methods
  generatorKind Intrinsic.asyncGeneratorFunctionProto Intrinsic.asyncGeneratorProto
    GeneratorFn.asyncMethods

/-- Makes the constructors. -/
def constructors : Build Unit := do
  objects
  constructor "Function" (.function (.make false false)) 1 Intrinsic.functionProto []
    FunctionFn.methods
  errors
  iterators
  complete "Array" Intrinsic.array Intrinsic.arrayProto ArrayFn.statics ArrayFn.methods
  installAll Intrinsic.global NumberFn.globals
  constructor "Number" (.number .make) 1 Intrinsic.numberProto NumberFn.statics NumberFn.methods
  constructor "Boolean" (.primitive .makeBoolean) 1 Intrinsic.booleanProto []
    PrimitiveFn.booleanMethods
  constructor "String" (.string .make) 1 Intrinsic.stringProto StringFn.statics StringFn.methods
  toolbox "Math" MathFn.statics
  toolbox "Reflect" ReflectFn.statics
  constructor "Symbol" (.primitive .makeSymbol) 0 Intrinsic.symbolProto PrimitiveFn.symbolStatics
    PrimitiveFn.symbolMethods
  functions
  toolbox "JSON" jsonStatics
  collections
  complete "Promise" Intrinsic.promise Intrinsic.promiseProto PromiseFn.statics PromiseFn.methods
  constructor "BigInt" (.primitive .makeBigInt) 1 Intrinsic.bigintProto PrimitiveFn.bigintStatics
    PrimitiveFn.bigintMethods

/-! ### The global object -/

/-- Makes the object that tells the time, which starts with the engine. -/
def clock : Build Unit := do
  let r ← make (under .plain Intrinsic.objectProto)
  put r (Key.ofString "now") (.plain (.object (← make (function .now "now" 0))))
  put r (Key.ofString "timeOrigin") ⟨.data (.float 0.0), false, true, false⟩
  put Intrinsic.global (Key.ofString "performance") (.plain (.object r))

/-- Fills the global object with what is no constructor. -/
def globals : Build Unit := do
  let r := Intrinsic.global
  installAll r UriFn.globals
  for (name, v) in [("Infinity", Value.float Value.infinity), ("NaN", .float Value.nan),
      ("undefined", .undefined)] do
    put r (Key.ofString name) (.fixed v)
  tag r "global"
  publish "eval" (.object Intrinsic.eval)
  publish "globalThis" (.object r)
  install r (.method "queueMicrotask" .queueMicrotask 1)
  clock

/-- The scope of the global declarations. -/
def globalScope : Scope :=
  { parent := none
    activation := some { this := some (.object Intrinsic.global), func := none
                         newTarget := .undefined, home := none, args := [] }
    holdsVars := true }

/-- The objects that there are before any script has run. -/
def draft : Draft :=
  let build : Build Unit := do
    constructors
    globals
  (build.run {}).2

/-- The world before any script has run. -/
def world : World :=
  { objects := draft.objects, scopes := #[globalScope], symbols := Symbols.descriptions }

end Realm

end ScriptBridge.Script
