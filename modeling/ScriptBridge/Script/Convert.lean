import ScriptBridge.Script.Number
import ScriptBridge.Script.Property

/-!
# Conversions and operators

How values become texts, numbers, objects and property keys, and what the operators do with them.
Objects are converted by their own methods, which are called.
-/

namespace ScriptBridge.Script

namespace Proc

/-! ### Primitive values -/

/-- What a conversion prefers. -/
inductive Hint
  | string | number | none
deriving DecidableEq, Repr

/-- The word for a preference. -/
def Hint.text : Hint → String
  | .string => "string"
  | .number => "number"
  | .none => "default"

/-- Whether a value is an object. -/
def isObject : Value → Bool
  | .object _ => true
  | _ => false

/-- Calls the first of some methods that yields a primitive value. -/
def firstPrimitive (v : Value) : List String → Proc Value
  | [] => throwType "toPrimitive"
  | name :: rest => do
    let f ← get v (Key.ofString name)
    if ← isCallable f then
      let result ← call f v []
      if isObject result then firstPrimitive v rest else return result
    else firstPrimitive v rest

/-- The primitive value of a value. -/
def toPrimitive (v : Value) (hint : Hint) : Proc Value := do
  if !isObject v then return v
  let method ← getMethod v (.symbol Symbols.toPrimitive)
  match method with
  | .undefined =>
    firstPrimitive v (if hint = .string then ["toString", "valueOf"] else ["valueOf", "toString"])
  | f =>
    let result ← call f v [Value.ofString hint.text]
    if isObject result then throwType "toPrimitive" else return result

/-- The text of a primitive value. -/
def primitiveText (v : Value) : Proc Str :=
  match v.plainText? with
  | some s => pure s
  | none => throwType "cannot convert symbol to string"

/-- The text of a value. -/
def toStr (v : Value) : Proc Str := do primitiveText (← toPrimitive v .string)

/-- The number of a primitive value. -/
def primitiveNumber (v : Value) : Proc Value :=
  match v with
  | .undefined => pure (.float Value.nan)
  | .null => pure (.int 0)
  | .bool b => pure (.int (if b then 1 else 0))
  | .string s => pure (Value.numberOfStr s)
  | .symbol _ => throwType "cannot convert symbol to number"
  | .bigint _ => throwType "cannot convert BigInt to number"
  | v => pure v

/-- The number of a value. -/
def toNumber (v : Value) : Proc Value := do primitiveNumber (← toPrimitive v .number)

/-- The number or large integer of a value. -/
def toNumeric (v : Value) : Proc Value := do
  match ← toPrimitive v .number with
  | .bigint n => return .bigint n
  | p => primitiveNumber p

/-- The float of a value. -/
def toFloat (v : Value) : Proc Float := do return (← toNumber v).number?.getD Value.nan

/-- The integer that a number is when its fraction is dropped, within `bound` of zero. -/
def clamp (bound : Nat) (x : Float) : Int :=
  if x.isNaN then 0
  else if x.isInf then (if x < 0 then -bound else bound)
  else max (-bound) (min bound (Value.truncate x))

/-- The integer of a value, within 2^53 of zero. -/
def toInteger (v : Value) : Proc Int := do return clamp (2 ^ 53) (← toFloat v)

/-- The place that a relative position names in something of the given length: positions below
zero count from the end, and `undefined` stands for `dflt`. -/
def toPosition (v : Value) (length dflt : Nat) : Proc Nat := do
  match v with
  | .undefined => return dflt
  | v =>
    let n ← toInteger v
    return if n < 0 then (length + n).toNat else min n.toNat length

/-- The key of a value. -/
def toKey (v : Value) : Proc Key := do
  match v with
  | .string s => return .ofStr s
  | .int n => return if 0 ≤ n.toInt then .index n.toInt.toNat else .ofString (toString n.toInt)
  | v =>
    match ← toPrimitive v .string with
    | .symbol id => return .symbol id
    | p => return .ofStr (← primitiveText p)

/-- The object of a value. -/
def toObject (v : Value) : Proc Ref := do
  match v with
  | .object r => return r
  | v =>
    match protoOf? v with
    | some proto => alloc { kind := .boxed v, proto := some proto }
    | none => throwType "Cannot convert undefined or null to object"

/-- The word for the type of a value. -/
def typeName (v : Value) : Proc String := do
  match v with
  | .undefined => return "undefined"
  | .null => return "object"
  | .bool _ => return "boolean"
  | .int _ | .float _ => return "number"
  | .string _ => return "string"
  | .symbol _ => return "symbol"
  | .bigint _ => return "bigint"
  | .object _ => return if ← isCallable v then "function" else "object"

/-- The text of a symbol. -/
def symbolText (id : Nat) : Proc Str := do
  let d := ((← world).symbols.getD id none).getD Str.empty
  return Str.ofString "Symbol(" ++ d ++ Str.ofString ")"

/-! ### Operators -/

/-- Equality with conversions of primitive values. -/
def primitiveEquals (a b : Value) : Bool :=
  match a, b with
  | .string s, .bigint n | .bigint n, .string s => Value.bigintOfStr? s == some n
  | .bool x, b => numeric (.int (if x then 1 else 0)) b
  | a, .bool y => numeric a (.int (if y then 1 else 0))
  | a, b => if a.isNullish || b.isNullish then a.isNullish && b.isNullish else numeric a b
where
  number : Value → Option Value
    | .bool x => some (.int (if x then 1 else 0))
    | .int n => some (.int n)
    | .float x => some (.float x)
    | .bigint n => some (.bigint n)
    | .string s => some (Value.numberOfStr s)
    | _ => none
  numeric (a b : Value) : Bool :=
    match a, b with
    | .string s, .string t => s == t
    | .symbol i, .symbol j => i == j
    | a, b =>
      match number a, number b with
      | some x, some y => Value.compareNumeric x y == some .eq
      | _, _ => false

/-- Equality with conversions. -/
def looseEquals (a b : Value) : Proc Bool := do
  match a, b with
  | .object r, .object q => return r == q
  | .object _, b => if b.isNullish then return false else
      return primitiveEquals (← toPrimitive a .none) b
  | a, .object _ => if a.isNullish then return false else
      return primitiveEquals a (← toPrimitive b .none)
  | a, b => return primitiveEquals a b

/-- The order of two values: nothing if they have none. -/
def compareValues (a b : Value) : Proc (Option Ordering) := do
  let a ← toPrimitive a .number
  let b ← toPrimitive b .number
  match a, b with
  | .string s, .string t =>
    return some (if s == t then .eq else if s.less t then .lt else .gt)
  | .string s, .bigint n =>
    return (Value.bigintOfStr? s).map fun m => compare m n
  | .bigint m, .string s =>
    return (Value.bigintOfStr? s).map fun n => compare m n
  | a, b =>
    let x ← bigOr a
    let y ← bigOr b
    return Value.compareNumeric x y
where
  bigOr (v : Value) : Proc Value :=
    match v with
    | .bigint n => pure (.bigint n)
    | v => primitiveNumber v

/-- An operator on two numbers or two large integers. -/
def numericOp (op : BinaryOp) (a b : Value) : Proc Value :=
  match a, b with
  | .bigint m, .bigint n =>
    match Value.bigintOp op m n with
    | some k => pure (.bigint k)
    | none =>
      if op = .shiftRightZero then throwType "BigInt operands are forbidden for >>>"
      else throwNew .rangeError "invalid operation"
  | .bigint _, _ | _, .bigint _ =>
    if op = .shiftRightZero then throwType "BigInt operands are forbidden for >>>"
    else throwType "cannot convert to BigInt"
  | a, b =>
    match op with
    | .add | .sub | .mul | .div | .rem | .pow => pure (Value.arith op a b)
    | _ => pure (Value.bitwise op a b)

/-- The sum of two values: their texts together, if one of them is a text. -/
def add (a b : Value) : Proc Value := do
  let a ← toPrimitive a .none
  let b ← toPrimitive b .none
  match a, b with
  | .string s, b => return .string (s ++ (← primitiveText b))
  | a, .string t => return .string ((← primitiveText a) ++ t)
  | a, b => numericOp .add (← compareValues.bigOr a) (← compareValues.bigOr b)

/-- Whether `proto` is on the chain of prototypes of `r`; `fuel` bounds the chain. -/
def onChain (w : World) (proto : Ref) : Nat → Ref → Bool
  | 0, _ => false
  | fuel + 1, r =>
    match (w.objects.getD r default).proto with
    | some q => q == proto || onChain w proto fuel q
    | none => false

/-- Whether a value was made by a constructor, going by its `prototype`. -/
def ordinaryInstance (v f : Value) : Proc Bool := do
  match v, f with
  | .object r, .object c =>
    let c ← match (← object c).kind with
      | .bound (.object t) _ _ => pure t
      | _ => pure c
    match ← getOf c (Key.ofString "prototype") with
    | .object p =>
      let w ← world
      return onChain w p (w.objects.size + 1) r
    | _ => throwType "operand 'prototype' property is not an object"
  | _, _ => return false

/-- `v instanceof f`. -/
def instanceOf (v f : Value) : Proc Bool := do
  if !isObject f then throwType "invalid 'instanceof' right operand"
  match ← getMethod f (.symbol Symbols.hasInstance) with
  | .undefined =>
    unless ← isCallable f do throwType "invalid 'instanceof' right operand"
    ordinaryInstance v f
  | method => return (← call method f [v]).truthy

/-- An operator on two values. -/
def binaryOp (op : BinaryOp) (a b : Value) : Proc Value := do
  match op with
  | .add => add a b
  | .looseEq => return .bool (← looseEquals a b)
  | .looseNe => return .bool !(← looseEquals a b)
  | .strictEq => return .bool (a.strictEquals b)
  | .strictNe => return .bool !(a.strictEquals b)
  | .lt => return .bool ((← compareValues a b) == some .lt)
  | .gt => return .bool ((← compareValues a b) == some .gt)
  | .le =>
    let o ← compareValues a b
    return .bool (o == some .lt || o == some .eq)
  | .ge =>
    let o ← compareValues a b
    return .bool (o == some .gt || o == some .eq)
  | .isIn =>
    match b with
    | .object r => return .bool (← hasProperty r (← toKey a))
    | _ => throwType "invalid 'in' operand"
  | .instanceOf => return .bool (← instanceOf a b)
  | op =>
    let x ← toNumeric a
    numericOp op x (← toNumeric b)

/-! ### Lists and iteration -/

/-- The length of an array or a similar object. -/
def lengthOf (r : Ref) : Proc Nat := do
  match (← object r).kind with
  | .array n _ => return n
  | _ => return (← toInteger (← getOf r Key.length)).toNat

/-- The items `start`, `start + 1`, … of an object, `count` of them. -/
def itemsFrom (r : Ref) (start : Nat) : Nat → Proc (List Value)
  | 0 => pure []
  | count + 1 => do
    let v ← getOf r (.index start)
    return v :: (← itemsFrom r (start + 1) count)

/-- The items of an array or a similar object. -/
def listOf (r : Ref) : Proc (List Value) := do itemsFrom r 0 (← lengthOf r)

/-- An iterator and its method `next`. -/
def iteratorOf (v : Value) : Proc (Value × Value) := do
  let method ← get v (.symbol Symbols.iterator)
  unless ← isCallable method do throwType "value is not iterable"
  let iterator ← call method v []
  unless isObject iterator do throwType "not an object"
  return (iterator, ← get iterator (Key.ofString "next"))

/-- An async iterator and its method `next`; items of an ordinary iterator are waited for. -/
def asyncIteratorOf (v : Value) : Proc (Value × Value) := do
  let method ← get v (.symbol Symbols.asyncIterator)
  let iterator ←
    if method.isNullish then do
      let iterator ← call (← get v (.symbol Symbols.iterator)) v []
      unless isObject iterator do throwType "not an object"
      let next ← get iterator (Key.ofString "next")
      pure (.object (← alloc {
        kind := .asyncFromSync iterator next, proto := some Intrinsic.asyncFromSyncProto }))
    else do
      unless ← isCallable method do throwType "value is not iterable"
      call method v []
  unless isObject iterator do throwType "not an object"
  return (iterator, ← get iterator (Key.ofString "next"))

/-- What the result of a step of an iteration says: its value, unless the iteration is done. -/
def itemOf (result : Value) : Proc (Option Value) := do
  unless isObject result do throwType "iterator must return an object"
  if (← get result (Key.ofString "done")).truthy then return none
  return some (← get result (Key.ofString "value"))

/-- One step of an iteration: nothing when it is done. -/
def iterate (iterator next : Value) : Proc (Option Value) := do
  itemOf (← call next iterator [])

/-- Ends an iteration early. -/
def closeIterator (iterator : Value) : Proc Unit := do
  match ← getMethod iterator (Key.ofString "return") with
  | .undefined => pure ()
  | f =>
    let result ← call f iterator []
    unless isObject result do throwType "not an object"

/-- The value that code is to return, if that is what was thrown. -/
def returning? (e : Value) : Proc (Option Value) := do
  match e with
  | .object r =>
    match (← object r).kind with
    | .returning v => return some v
    | _ => return none
  | _ => return none

/-- Makes code return a value through all that catches. -/
def throwReturn {α : Type} (v : Value) : Proc α := do
  throwValue (.object (← alloc { kind := .returning v, proto := none }))

/-- Ends an iteration early because something was thrown; what ending it throws is dropped. -/
def abandonIterator (iterator e : Value) : Proc Unit := do
  match ← returning? e with
  | some _ => closeIterator iterator
  | none => discard (attempt (closeIterator iterator))

/-- All values of an iteration. -/
def collect (v : Value) : Proc (List Value) := do
  let (iterator, next) ← iteratorOf v
  match ← ask (.collect iterator next []) with
  | .values vs => return vs
  | _ => return []

/-- What becomes of the items of an iteration. -/
def consume (v : Value) (c : Consumer) : Proc Value := do
  let (iterator, next) ← iteratorOf v
  return valueOf (← ask (.consume iterator next c 0))

/-- The result of a step of an iteration, as an object. -/
def iterationResult (v : Value) (done : Bool) : Proc Value := do
  let r ← allocPlain
  defineValue r (Key.ofString "value") v
  defineValue r (Key.ofString "done") (.bool done)
  return .object r

/-- The prototype for an object that `newTarget` makes. -/
def protoFor (newTarget : Value) (dflt : Ref) : Proc Ref := do
  match newTarget with
  | .object r =>
    match ← getOf r (Key.ofString "prototype") with
    | .object p => return p
    | _ => return dflt
  | _ => return dflt

/-- The constructor for what is made from an object: what its own constructor says, or `dflt`. -/
def speciesOf (r : Ref) (dflt : Value) : Proc Value := do
  match ← getOf r (Key.ofString "constructor") with
  | .undefined => return dflt
  | .object c =>
    let s ← getOf c (.symbol Symbols.species)
    if s.isNullish then return dflt
    unless ← isConstructor s do throwType "not a constructor"
    return s
  | _ => throwType "not an object"

end Proc

end ScriptBridge.Script
