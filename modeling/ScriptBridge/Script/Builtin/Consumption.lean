import ScriptBridge.Script.Builtin.Collection
import ScriptBridge.Script.Builtin.Promise

/-!
# What iterations are for

A `Consumer` says what the items of an iteration are for.  `take` is what becomes of one item: the
consumer for the others, or the value that ends the iteration early.  `finish` is what comes of the
whole at the end.
-/

namespace ScriptBridge.Script

namespace Consumer

open Proc

/-- The groups with an item put into the one of a key. -/
def putInto (k v : Value) : List (Value × List Value) → List (Value × List Value)
  | [] => [(k, [v])]
  | (key, items) :: rest =>
    if key.sameValueZero k then (key, v :: items) :: rest else (key, items) :: putInto k v rest

/-- The key and the value of an entry. -/
def entryOf (item : Value) : Proc (Value × Value) := do
  unless isObject item do throwType "not an object"
  let k ← get item (.index 0)
  return (k, ← get item (.index 1))

/-- What becomes of an item, of which `count` others came before. -/
def take (c : Consumer) (count : Nat) (item : Value) : Proc (Consumer ⊕ Value) := do
  let place := Value.ofNat count
  match c with
  | .mapped target f this =>
    let v ← match f with
      | .undefined => pure item
      | f => call f this [item, place]
    createValue target (.ofNat count) v
    return .inl c
  | .fields r =>
    let (k, v) ← entryOf item
    createValue r (← toKey k) v
    return .inl c
  | .added target adder isMap =>
    if isMap then
      let (k, v) ← entryOf item
      discard (call adder target [k, v])
    else discard (call adder target [item])
    return .inl c
  | .joined f ctor resolve cap results counter =>
    subscribe f ctor resolve cap results counter count item
    return .inl c
  | .grouped f isMap groups =>
    let k ← call f .undefined [item, place]
    let k ← if isMap then pure (entryKey k) else do pure (keyValue (← toKey k))
    return .inl (.grouped f isMap (putInto k item groups))
  | .each f =>
    discard (call f .undefined [item, place])
    return .inl c
  | .sought f wanted found _ =>
    if (← call f .undefined [item, place]).truthy == wanted then return .inr (found.getD item)
    return .inl c
  | .reduced f acc =>
    match acc with
    | none => return .inl (.reduced f (some item))
    | some a => return .inl (.reduced f (some (← call f .undefined [a, item, place])))

/-- What comes of an iteration of `count` items. -/
def finish (c : Consumer) (count : Nat) : Proc Value := do
  match c with
  | .mapped target _ _ =>
    set (.object target) Key.length (Value.ofNat count) true
    return .object target
  | .fields r => return .object r
  | .added target _ _ => return target
  | .joined f _ _ cap results counter =>
    endSubscriptions f cap results counter
    return .undefined
  | .grouped _ isMap groups =>
    let groups ← groups.mapM fun (k, items) => do return (k, ← arrayOf items.reverse)
    if isMap then
      return .object (← alloc {
        kind := .collection .map (groups.map some).toArray, proto := some Intrinsic.mapProto })
    let r ← alloc { kind := .plain, proto := none }
    for (k, items) in groups do defineValue r (← toKey k) items
    return .object r
  | .each _ => return .undefined
  | .sought _ _ _ missing => return missing
  | .reduced _ acc =>
    match acc with
    | some v => return v
    | none => throwType "empty iterator"

/-- Whether an iteration is ended also when its own step has failed. -/
def closesOnFailure : Consumer → Bool
  | .mapped .. | .fields _ | .added .. => true
  | _ => false

/-- One step of an iteration: the consumer for the other items, or what has come of all. -/
def step (c : Consumer) (iterator next : Value) (count : Nat) : Proc (Consumer ⊕ Value) := do
  let abandon {α : Type} (e : Value) : Proc α := do
    abandonIterator iterator e
    throwValue e
  let item? ← onThrow (iterate iterator next) fun e =>
    if c.closesOnFailure then abandon e else throwValue e
  match item? with
  | none => return .inr (← c.finish count)
  | some item =>
    match ← onThrow (c.take count item) abandon with
    | .inl c => return .inl c
    | .inr v =>
      closeIterator iterator
      return .inr v

end Consumer

end ScriptBridge.Script
