import ScriptBridge.Script.Builtin.Number

/-!
# Functions of truth values, symbols and large integers
-/

namespace ScriptBridge.Script

namespace Proc

/-- The primitive value that `this` is, or holds. -/
def heldValue (this : Value) : Proc Value := do
  match this with
  | .object r =>
    match (← object r).kind with
    | .boxed v => return v
    | _ => return .undefined
  | v => return v

/-- The truth value of `this`. -/
def heldBool (this : Value) : Proc Bool := do
  match ← heldValue this with
  | .bool b => return b
  | _ => throwType "not a boolean"

/-- The symbol of `this`. -/
def heldSymbol (this : Value) : Proc Nat := do
  match ← heldValue this with
  | .symbol id => return id
  | _ => throwType "not a symbol"

/-- The large integer of `this`. -/
def heldBigint (this : Value) : Proc Int := do
  match ← heldValue this with
  | .bigint n => return n
  | _ => throwType "not a BigInt"

/-- The large integer of a text or a truth value. -/
def primitiveBigint (v : Value) : Proc Int := do
  match v with
  | .bigint n => return n
  | .bool b => return if b then 1 else 0
  | .string s =>
    match Value.bigintOfStr? s with
    | some n => return n
    | none => throwNew .syntaxError "invalid BigInt literal"
  | _ => throwType "cannot convert to BigInt"

/-- The large integer of a value; numbers have none. -/
def toBigint (v : Value) : Proc Int := do primitiveBigint (← toPrimitive v .number)

/-- The large integer that is made of a value. -/
def makeBigint (v : Value) : Proc Int := do
  match ← toPrimitive v .number with
  | .int n => return n.toInt
  | .float x =>
    if !x.isFinite then throwNew .rangeError "cannot convert NaN or Infinity to BigInt"
    if x.floor == x then return Value.truncate x
    throwNew .rangeError "cannot convert to BigInt: not an integer"
  | v => primitiveBigint v

/-- A number of bits. -/
def toBitCount (v : Value) : Proc Nat := do
  let n ← toInteger v
  if n < 0 || 2 ^ 53 - 1 < n then throwNew .rangeError "invalid array index"
  return n.toNat

/-- The last bits of an integer, as an integer that has a sign or has none.  An integer that fits is
the same as before, however many bits there are. -/
def lastBits (signed : Bool) (bits : Nat) (n : Int) : Int :=
  if bits = 0 then 0
  else if Nat.log2 n.natAbs + 1 < bits && (signed || 0 ≤ n) then n
  else if signed then
    let m := n % 2 ^ bits
    if m < 2 ^ (bits - 1) then m else m - 2 ^ bits
  else n % 2 ^ bits

/-- The symbol that a text stands for everywhere. -/
def sharedSymbol (s : Str) : Proc Nat := do
  match (← world).sharedSymbols.lookup s with
  | some id => return id
  | none =>
    let id ← allocSymbol (some s)
    change fun w => { w with sharedSymbols := (s, id) :: w.sharedSymbols }
    return id

/-- Runs a function of truth values, symbols or large integers. -/
def runPrimitive (f : PrimitiveFn) (c : NativeCall) : Proc Value := do
  match f with
  | .makeBoolean =>
    let v := Value.bool (c.arg 0).truthy
    if c.isPlain then return v
    let proto ← protoFor c.newTarget Intrinsic.booleanProto
    return .object (← alloc { kind := .boxed v, proto := some proto })
  | .booleanToString => return .ofString (if ← heldBool c.this then "true" else "false")
  | .booleanValueOf => return .bool (← heldBool c.this)
  | .makeSymbol =>
    unless c.isPlain do throwType "not a constructor"
    match c.arg 0 with
    | .undefined => return .symbol (← allocSymbol none)
    | v => return .symbol (← allocSymbol (some (← toStr v)))
  | .symbolFor => return .symbol (← sharedSymbol (← toStr (c.arg 0)))
  | .symbolKeyFor =>
    match c.arg 0 with
    | .symbol id =>
      match (← world).sharedSymbols.find? fun e => e.2 == id with
      | some (s, _) => return .string s
      | none => return .undefined
    | _ => throwType "not a symbol"
  | .symbolToString => return .string (← symbolText (← heldSymbol c.this))
  | .symbolValueOf => return .symbol (← heldSymbol c.this)
  | .symbolDescription =>
    let id ← heldSymbol c.this
    return ((← world).symbols.getD id none).elim .undefined Value.string
  | .makeBigInt =>
    unless c.isPlain do throwType "not a constructor"
    return .bigint (← makeBigint (c.arg 0))
  | .bigintToString =>
    let n ← heldBigint c.this
    let radix ← toRadix (c.arg 0)
    let digits := String.ofList (Value.digitsIn radix n.natAbs)
    return .ofString (if n < 0 then "-" ++ digits else digits)
  | .bigintValueOf => return .bigint (← heldBigint c.this)
  | .bigintAsUnsigned | .bigintAsSigned =>
    let bits ← toBitCount (c.arg 0)
    return .bigint (lastBits (f = .bigintAsSigned) bits (← toBigint (c.arg 1)))

end Proc

namespace PrimitiveFn

/-- The functions found in every truth value. -/
def booleanMethods : List Builtin := [
  .method "toString" (.primitive .booleanToString) 0,
  .method "valueOf" (.primitive .booleanValueOf) 0]

/-- What the constructor of symbols is made with. -/
def symbolStatics : List Builtin :=
  [.method "for" (.primitive .symbolFor) 1, .method "keyFor" (.primitive .symbolKeyFor) 1]
    ++ Symbols.names.zipIdx.map fun (name, id) =>
      .value (Key.ofString name) (.fixed (.symbol id))

/-- The functions found in every symbol. -/
def symbolMethods : List Builtin := [
  .method "toString" (.primitive .symbolToString) 0,
  .method "valueOf" (.primitive .symbolValueOf) 0,
  .atSymbol Symbols.toPrimitive "[Symbol.toPrimitive]" (.primitive .symbolValueOf) 1,
  .tag "Symbol", .getter "description" (.primitive .symbolDescription)]

/-- The functions found in the constructor of large integers. -/
def bigintStatics : List Builtin := [
  .method "asUintN" (.primitive .bigintAsUnsigned) 2,
  .method "asIntN" (.primitive .bigintAsSigned) 2]

/-- The functions found in every large integer. -/
def bigintMethods : List Builtin := [
  .method "toString" (.primitive .bigintToString) 0,
  .method "valueOf" (.primitive .bigintValueOf) 0, .tag "BigInt"]

end PrimitiveFn

end ScriptBridge.Script
