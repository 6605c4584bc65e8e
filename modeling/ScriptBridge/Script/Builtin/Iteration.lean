import ScriptBridge.Script.Builtin.Basic
import ScriptBridge.Script.Generator

/-!
# Iterators

The language's own iterators step through arrays, collections and texts.  A helper is an iterator
that is made of another: one turn of it takes at most one item from there, and may come to nothing
yet, so that even a helper that passes over all items has finite turns.
-/

namespace ScriptBridge.Script

namespace Proc

/-! ### The language's own iterators -/

/-- What an iteration yields for a key and a value. -/
def yielded (kind : IterationKind) (k v : Value) : Proc Value :=
  match kind with
  | .keys => pure k
  | .values => pure v
  | .entries => pairOf k v

/-- The first entry from a place on, with its place. -/
def entryFrom (entries : Array (Option (Value × Value))) (i : Nat) :
    Option (Nat × Value × Value) :=
  go (entries.size - i) i
where
  go : Nat → Nat → Option (Nat × Value × Value)
    | 0, _ => none
    | fuel + 1, i =>
      match (entries[i]?).join with
      | some (k, v) => some (i, k, v)
      | none => go fuel (i + 1)

/-- The state of the iterator that a value is. -/
def iterationOf (v : Value) (word : String) : Proc (Ref × Iteration) := do
  match v with
  | .object r =>
    match (← object r).kind with
    | .iterator state => return (r, state)
    | _ => throwType s!"{word} object expected"
  | _ => throwType s!"{word} object expected"

/-- One step of an iterator of the language's own kind. -/
def ownStep (this : Value) (word : String) : Proc Value := do
  let (it, state) ← iterationOf this word
  let finish : Proc Value := do
    setKind it (.iterator .done)
    iterationResult .undefined true
  match state with
  | .done => iterationResult .undefined true
  | .items source i kind =>
    let r ← toObject source
    if i < (← lengthOf r) then
      setKind it (.iterator (.items source (i + 1) kind))
      let v ← if kind = .keys then pure .undefined else getOf r (.ofNat i)
      iterationResult (← yielded kind (Value.ofNat i) v) false
    else finish
  | .entries r i kind =>
    let entries := match (← object r).kind with
      | .collection _ entries => entries
      | _ => #[]
    match entryFrom entries i with
    | some (j, k, v) =>
      setKind it (.iterator (.entries r (j + 1) kind))
      iterationResult (← yielded kind k v) false
    | none => finish
  | .characters [] => finish
  | .characters (s :: rest) =>
    setKind it (.iterator (.characters rest))
    iterationResult (.string s) false
  | .helped .. | .wrapped .. => throwType s!"{word} object expected"

/-! ### Helpers -/

/-- The iterator for what a function made of an item. -/
def innerIterator (v : Value) : Proc Value := do
  unless isObject v do throwType "not an object"
  let method ← get v (.symbol Symbols.iterator)
  if method.isNullish then return v
  let iterator ← call method v []
  unless isObject iterator do throwType "not an object"
  return iterator

/-- One turn of a helper: nothing yet, or its next item, or that there is none. -/
def helperTurn (r : Ref) : Proc (Option (Option Value)) := do
  match (← object r).kind with
  | .iterator (.helped how source next f count inner) =>
    let put (count : Nat) (inner : Option Value) : Proc Unit :=
      setKind r (.iterator (.helped how source next f count inner))
    let finish : Proc (Option (Option Value)) := do
      setKind r (.iterator .done)
      return some none
    let guarded {α : Type} (p : Proc α) : Proc α :=
      onThrow p fun e => do
        abandonIterator source e
        throwValue e
    let item : Proc (Option Value) := iterate source next
    let apply (v : Value) : Proc Value := do
      put (count + 1) none
      guarded (call f .undefined [v, Value.ofNat count])
    onThrow (do
      match how, inner with
      | .flatMap, some it =>
        match ← guarded (do iterate it (← get it (Key.ofString "next"))) with
        | some v => return some (some v)
        | none =>
          put count none
          return none
      | .take, _ =>
        if count = 0 then
          setKind r (.iterator .done)
          closeIterator source
          return some none
        put (count - 1) none
        match ← item with
        | some v => return some (some v)
        | none => finish
      | .drop, _ =>
        match ← item with
        | none => finish
        | some v =>
          if count = 0 then return some (some v)
          put (count - 1) none
          return none
      | _, _ =>
        match ← item with
        | none => finish
        | some v =>
          let made ← apply v
          match how with
          | .map => return some (some made)
          | .filter => return if made.truthy then some (some v) else none
          | _ =>
            put (count + 1) (some (← guarded (innerIterator made)))
            return none) fun e => do
      setKind r (.iterator .done)
      throwValue e
  | _ => return some none

/-- The next item of a helper. -/
def helperNext (this : Value) : Proc Value := do
  let (r, _) ← iterationOf this "Iterator Helper"
  match ← ask (.helperStep r) with
  | .values [v] => iterationResult v false
  | _ => iterationResult .undefined true

/-- Ends a helper early. -/
def helperReturn (this : Value) : Proc Value := do
  let (r, state) ← iterationOf this "Iterator Helper"
  if let .helped _ source _ _ _ inner := state then
    setKind r (.iterator .done)
    if let some it := inner then
      onThrow (closeIterator it) fun e => do
        abandonIterator source e
        throwValue e
    closeIterator source
  iterationResult .undefined true

/-- The number of items that a helper takes or passes over. -/
def itemCount (v : Value) : Proc Nat := do
  let x ← toFloat v
  if x.isNaN || x ≤ -1 then throwNew .rangeError "must be positive"
  return (clamp (2 ^ 53 - 1) x).toNat

/-- Makes a helper. -/
def makeHelper (how : IteratorFn) (c : NativeCall) : Proc Value := do
  unless isObject c.this do throwType "not an object"
  let isCount := how = .take || how = .drop
  unless isCount do callback (c.arg 0)
  let count ← if isCount then itemCount (c.arg 0) else pure 0
  let next ← get c.this (Key.ofString "next")
  makeIterator Intrinsic.iteratorHelperProto (.helped how c.this next (c.arg 0) count none)

/-! ### Other iterators -/

/-- Makes an iterator of a value. -/
def iteratorFrom (v : Value) : Proc Value := do
  match v with
  | .string _ => call (← get v (.symbol Symbols.iterator)) v []
  | .object r =>
    let w ← world
    if onChain w Intrinsic.iteratorProto (w.objects.size + 1) r then return v
    let method ← getOf r (.symbol Symbols.iterator)
    if method.isNullish then
      let next ← getOf r (Key.ofString "next")
      makeIterator Intrinsic.iteratorWrapProto (.wrapped v next)
    else
      let iterator ← call method v []
      unless isObject iterator do throwType "not an object"
      return iterator
  | _ => throwType "Iterator.from called on non-object"

/-- The next item of an iterator around another. -/
def wrapNext (this : Value) : Proc Value := do
  match ← iterationOf this "Iterator Wrap" with
  | (_, .wrapped source next) =>
    match ← iterate source next with
    | some v => iterationResult v false
    | none => iterationResult .undefined true
  | _ => throwType "Iterator Wrap object expected"

/-- Ends an iterator around another. -/
def wrapReturn (this : Value) : Proc Value := do
  match ← iterationOf this "Iterator Wrap" with
  | (_, .wrapped source _) =>
    match ← getMethod source (Key.ofString "return") with
    | .undefined => iterationResult .undefined true
    | f => call f source []
  | _ => throwType "Iterator Wrap object expected"

/-- Reads the rest of an iterator for a purpose. -/
def consumeRest (this f : Value) (c : Consumer) : Proc Value := do
  unless isObject this do throwType "not an object"
  callback f
  let next ← get this (Key.ofString "next")
  return valueOf (← ask (.consume this next c 0))

/-- Makes an iterator of a class below the one of all iterators. -/
def makeAbstract (c : NativeCall) : Proc Value := do
  match c.newTarget with
  | .object r =>
    match (← object r).kind with
    | .native (.iterator .make) _ => throwType "abstract class not constructable"
    | _ =>
      let proto ← protoFor c.newTarget Intrinsic.iteratorProto
      return .object (← alloc { kind := .plain, proto := some proto })
  | _ => throwType "constructor requires 'new'"

/-- Gives an object below the prototype of iterators a property of its own. -/
def overrideOnIterator (c : NativeCall) (k : Key) : Proc Value := do
  match c.this with
  | .object r =>
    if r == Intrinsic.iteratorProto then throwType "Cannot assign to read only property"
    if (← ownProperty r k).isSome then set c.this k (c.arg 0) true
    else createValue r k (c.arg 0)
    return .undefined
  | _ => throwType "not an object"

/-- Runs a function of iterators. -/
def runIterator (f : IteratorFn) (c : NativeCall) : Proc Value := do
  let g := c.arg 0
  match f with
  | .make => makeAbstract c
  | .ownNext word => ownStep c.this word
  | .self => return c.this
  | .from => iteratorFrom g
  | .wrapNext => wrapNext c.this
  | .wrapReturn => wrapReturn c.this
  | .map | .filter | .take | .drop | .flatMap => makeHelper f c
  | .helperNext => helperNext c.this
  | .helperReturn => helperReturn c.this
  | .reduce =>
    consumeRest c.this g (.reduced g (if c.args.length < 2 then none else some (c.arg 1)))
  | .toArray =>
    unless isObject c.this do throwType "not an object"
    let next ← get c.this (Key.ofString "next")
    match ← ask (.collect c.this next []) with
    | .values vs => arrayOf vs
    | _ => arrayOf []
  | .forEach => consumeRest c.this g (.each g)
  | .some => consumeRest c.this g (.sought g true (some (.bool true)) (.bool false))
  | .every => consumeRest c.this g (.sought g false (some (.bool false)) (.bool true))
  | .find => consumeRest c.this g (.sought g true none .undefined)
  | .getTag => return .ofString "Iterator"
  | .setTag => overrideOnIterator c (.symbol Symbols.toStringTag)
  | .getConstructor => get (.object Intrinsic.global) (Key.ofString "Iterator")
  | .setConstructor => overrideOnIterator c (Key.ofString "constructor")

/-! ### Generators -/

/-- A step of an async iterator over what another yields: the promise for its result. -/
def fromSyncStep (c : NativeCall) (how : Resumption) : Proc Value := do
  let cap ← ownCapability
  let outcome ← attempt (do
    let (iterator, next) ← match c.this with
      | .object r =>
        match (← object r).kind with
        | .asyncFromSync iterator next => pure (iterator, next)
        | _ => throwType "not an Async-from-Sync Iterator"
      | _ => throwType "not an Async-from-Sync Iterator"
    let method ← match how with
      | .next => pure next
      | .finish => get iterator (Key.ofString "return")
      | .fail => get iterator (Key.ofString "throw")
    if method.isNullish && how = .finish then
      discard (call cap.resolve .undefined [← iterationResult (c.arg 0) true])
    else
      if method.isNullish && how = .fail then
        closeIterator iterator
        throwType "throw is not a method"
      let result ← call method iterator (c.args.take 1)
      unless isObject result do throwType "iterator must return an object"
      let done := (← get result (Key.ofString "done")).truthy
      let v ← get result (Key.ofString "value")
      match ← promiseResolve (.object Intrinsic.promise) v with
      | .object p =>
        let unwrap ← allocNative (.generator (.unwrap done)) [] "" 1
        performThen p (.object unwrap) .undefined (some cap)
      | _ => pure ())
  match outcome with
  | .ok _ => pure ()
  | .error e => discard (call cap.reject .undefined [e])
  return cap.promise

/-- Runs a function of generators. -/
def runGenerator (f : GeneratorFn) (c : NativeCall) : Proc Value := do
  let v := c.arg 0
  let endOf (failed : Bool) : Proc Value := do
    if let .object r := c.capture 0 then endReturn r failed v
    return .undefined
  match f with
  | .next => stepGenerator c.this .next v
  | .fail => stepGenerator c.this .fail v
  | .finish => stepGenerator c.this .finish v
  | .asyncNext => demandStep c.this .next v
  | .asyncFail => demandStep c.this .fail v
  | .asyncFinish => demandStep c.this .finish v
  | .returnMet => endOf false
  | .returnFailed => endOf true
  | .fromSyncNext => fromSyncStep c .next
  | .fromSyncFail => fromSyncStep c .fail
  | .fromSyncFinish => fromSyncStep c .finish
  | .unwrap done => iterationResult v done

end Proc

namespace IteratorFn

/-- The functions found in the constructor. -/
def statics : List Builtin := [.method "from" (.iterator .from) 1]

/-- What all iterators have. -/
def methods : List Builtin := [
  .method "drop" (.iterator .drop) 1, .method "filter" (.iterator .filter) 1,
  .method "flatMap" (.iterator .flatMap) 1, .method "map" (.iterator .map) 1,
  .method "take" (.iterator .take) 1, .method "every" (.iterator .every) 1,
  .method "find" (.iterator .find) 1, .method "forEach" (.iterator .forEach) 1,
  .method "some" (.iterator .some) 1, .method "reduce" (.iterator .reduce) 1,
  .method "toArray" (.iterator .toArray) 0,
  .atSymbol Symbols.iterator "[Symbol.iterator]" (.iterator .self) 0,
  .accessor (.symbol Symbols.toStringTag) "[Symbol.toStringTag]" (.iterator .getTag)
    (Option.some (.iterator .setTag))]

/-- What the language's own iterators of a kind have. -/
def own (word : String) : List Builtin :=
  [.method "next" (.iterator (.ownNext word)) 0, .tag word]

/-- What helpers have. -/
def helper : List Builtin := [
  .method "next" (.iterator .helperNext) 0, .method "return" (.iterator .helperReturn) 0,
  .tag "Iterator Helper"]

/-- What iterators around others have. -/
def wrap : List Builtin := [
  .method "next" (.iterator .wrapNext) 0, .method "return" (.iterator .wrapReturn) 0]

end IteratorFn

namespace GeneratorFn

/-- The three steps under their names. -/
def steps (toNext toFinish toFail : GeneratorFn) : List Builtin := [
  .method "next" (.generator toNext) 1, .method "return" (.generator toFinish) 1,
  .method "throw" (.generator toFail) 1]

/-- What generators have. -/
def methods : List Builtin := steps .next .finish .fail ++ [.tag "Generator"]

/-- What async generators have. -/
def asyncMethods : List Builtin :=
  steps .asyncNext .asyncFinish .asyncFail ++ [.tag "AsyncGenerator"]

/-- What async iterators over what others yield have. -/
def fromSyncMethods : List Builtin := steps .fromSyncNext .fromSyncFinish .fromSyncFail

end GeneratorFn

end ScriptBridge.Script
