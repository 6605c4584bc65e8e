import ScriptBridge.Script.Tree
import ScriptBridge.Script.Value

/-!
# Operations on numbers

Two integers yield an integer where the result is one that thirty-two bits hold; a float and
another number yield a float.
-/

namespace ScriptBridge.Script

namespace Value

/-- The float `m · 2^q`, for an `m` that a float holds when its final zeros are dropped. -/
def scaled (m : Nat) (q : Int) : Float := (floatOfInt m).scaleB q

/-- The remainder of a division that rounds toward zero, with the sign of `x`. -/
def floatRem (x y : Float) : Float :=
  match Decimal.parts? x, Decimal.parts? y with
  | none, _ => nan
  | some _, none => if y.isNaN then nan else x
  | some a, some b =>
    if b.m = 0 then nan
    else
      let q := min a.q b.q
      let r := (a.m * 2 ^ (a.q - q).toNat) % (b.m * 2 ^ (b.q - q).toNat)
      let x := scaled r q
      if a.negative then -x else x

/-- The power of two floats. -/
def floatPow (x y : Float) : Float :=
  if y.isNaN then nan
  else if (x == 1 || x == -1) && y.isInf then nan
  else x.pow y

/-- The sum, difference, product, quotient, remainder or power of two numbers. -/
def arith (op : BinaryOp) (a b : Value) : Value :=
  match a, b with
  | .int m, .int n =>
    let m := m.toInt
    let n := n.toInt
    let x := floatOfInt m
    let y := floatOfInt n
    match op with
    | .add => ofInt (m + n)
    | .sub => ofInt (m - n)
    | .mul => if m * n = 0 ∧ (m < 0 ∨ n < 0) then .float (-0.0) else ofInt (m * n)
    | .div => ofFloat (x / y)
    | .rem => if m < 0 ∨ n ≤ 0 then ofFloat (floatRem x y) else ofInt (m % n)
    | .pow => ofFloat (floatPow x y)
    | _ => .undefined
  | a, b =>
    let x := a.number?.getD nan
    let y := b.number?.getD nan
    match op with
    | .add => .float (x + y)
    | .sub => .float (x - y)
    | .mul => .float (x * y)
    | .div => .float (x / y)
    | .rem => .float (floatRem x y)
    | .pow => .float (floatPow x y)
    | _ => .undefined

/-- A number as an integer of thirty-two bits, with wrapping. -/
def toInt32 : Value → Int
  | .int n => n.toInt
  | .float x => wrap (truncate x)
  | _ => 0

/-- An integer of thirty-two bits as its bits. -/
def bits (n : Int) : Nat := (n % 2 ^ 32).toNat

/-- An operation on the bits of two numbers. -/
def bitwise (op : BinaryOp) (a b : Value) : Value :=
  let x := toInt32 a
  let y := toInt32 b
  let count := bits y % 32
  match op with
  | .bitAnd => ofInt (wrap (bits x &&& bits y))
  | .bitOr => ofInt (wrap (bits x ||| bits y))
  | .bitXor => ofInt (wrap (bits x ^^^ bits y))
  | .shiftLeft => ofInt (wrap (x * 2 ^ count))
  | .shiftRight => ofInt (Int.fdiv x (2 ^ count))
  | .shiftRightZero => ofInt (bits x / 2 ^ count : Nat)
  | _ => .undefined

/-- The negative of a number. -/
def negate : Value → Value
  | .int n => if n = 0 then .float (-0.0) else ofInt (-n.toInt)
  | .float x => .float (-x)
  | .bigint n => .bigint (-n)
  | _ => .undefined

/-- The number above or below a number. -/
def stepBy (up : Bool) (v : Value) : Value :=
  match v with
  | .bigint n => .bigint (if up then n + 1 else n - 1)
  | v => arith (if up then .add else .sub) v (.int 1)

/-- An integer above, below or at a float that is no NaN. -/
def compareIntFloat (n : Int) (x : Float) : Ordering :=
  match Decimal.parts? x with
  | none => if x < 0 then .gt else .lt
  | some p =>
    let m : Int := if p.negative then -p.m else p.m
    match p.q with
    | .ofNat q => compare n (m * 2 ^ q)
    | .negSucc q => compare (n * 2 ^ (q + 1)) m

/-- Two numbers of any kind in order; nothing with a NaN. -/
def compareNumeric (a b : Value) : Option Ordering :=
  match a, b with
  | .bigint m, .bigint n => some (compare m n)
  | .bigint m, b =>
    let y := b.number?.getD nan
    if y.isNaN then none else some (compareIntFloat m y)
  | a, .bigint n =>
    let x := a.number?.getD nan
    if x.isNaN then none else some (compareIntFloat n x).swap
  | a, b =>
    let x := a.number?.getD nan
    let y := b.number?.getD nan
    if x < y then some .lt else if x == y then some .eq else if x > y then some .gt else none

/-- An operation on two large integers; nothing where it is not defined. -/
def bigintOp (op : BinaryOp) (m n : Int) : Option Int :=
  match op with
  | .add => some (m + n)
  | .sub => some (m - n)
  | .mul => some (m * n)
  | .div => if n = 0 then none else some (m.tdiv n)
  | .rem => if n = 0 then none else some (m.tmod n)
  | .pow => if n < 0 ∨ 100000 < n then none else some (m ^ n.toNat)
  | .shiftLeft => some (if n < 0 then Int.fdiv m (2 ^ (min (-n).toNat 100000))
      else m * 2 ^ (min n.toNat 100000))
  | .shiftRight => some (if n < 0 then m * 2 ^ (min (-n).toNat 100000)
      else Int.fdiv m (2 ^ (min n.toNat 100000)))
  | .bitAnd => some (both (fun a b => a && b) m n)
  | .bitOr => some (both (fun a b => a || b) m n)
  | .bitXor => some (both (fun a b => a != b) m n)
  | _ => none
where
  /-- Combines the bits of two integers in two's complement. -/
  both (f : Bool → Bool → Bool) (m n : Int) : Int :=
    let width := Nat.log2 m.natAbs + Nat.log2 n.natAbs + 3
    let bit (k : Int) (i : Nat) := Int.fdiv k (2 ^ i) % 2 == 1
    let total : Int := (List.range width).foldl
      (fun acc i => if f (bit m i) (bit n i) then acc + 2 ^ i else acc) 0
    Int.bmod total (2 ^ width)

end Value

end ScriptBridge.Script
