import ScriptBridge.Decimal.Exponential
import ScriptBridge.Script.Builtin.Basic

/-!
# Functions of numbers as such

What they yield is an integer wherever it is one.
-/

namespace ScriptBridge.Script

namespace Value

/-- Rounds to the nearest integer, a half upwards. -/
def roundHalfUp (x : Float) : Float :=
  if x.isFinite && x.floor != x then
    let down := x.floor
    let r := if x - down < 0.5 then down else down + 1
    if r == 0 && x < 0 then -0.0 else r
  else x

/-- A function of one number. -/
def realFunction (f : MathFn) (x : Float) : Float :=
  match f with
  | .abs => x.abs
  | .floor => x.floor
  | .ceil => x.ceil
  | .round => roundHalfUp x
  | .trunc => if x < 0 then x.ceil else x.floor
  | .sign => if x.isNaN || x == 0 then x else if x < 0 then -1 else 1
  | .sqrt => x.sqrt
  | .acos => x.acos
  | .asin => x.asin
  | .atan => x.atan
  | .cos => x.cos
  | .exp => x.exp
  | .log => x.log
  | .sin => x.sin
  | .tan => x.tan
  | .cosh => x.cosh
  | .sinh => x.sinh
  | .tanh => x.tanh
  | .acosh => x.acosh
  | .asinh => x.asinh
  | .atanh => x.atanh
  | .expm1 => Decimal.expMinusOne x
  | .log1p => Decimal.logOnePlus x
  | .log2 => x.log2
  | .log10 => x.log10
  | .cbrt => x.cbrt
  | .fround => x.toFloat32.toFloat
  | _ => nan

/-- The number of zeros in front of the bits of an integer of thirty-two bits. -/
def leadingZeros (n : Nat) : Nat := if n = 0 then 32 else 31 - Nat.log2 n

end Value

namespace Proc

/-- The largest or smallest of some numbers. -/
def extreme (isMax : Bool) : List Value → Proc Float
  | [] => pure (if isMax then -Value.infinity else Value.infinity)
  | v :: rest => do
    let x ← toFloat v
    let y ← extreme isMax rest
    if x.isNaN || y.isNaN then return Value.nan
    if x == 0 && y == 0 then
      let negative := x.toBits != 0
      return if isMax == negative then y else x
    return if isMax then (if y < x then x else y) else (if x < y then x else y)

/-- The root of the sum of the squares of some numbers, taken two at a time. -/
def hypotenuse : List Value → Proc Float
  | [] => pure 0
  | [v] => do return (← toFloat v).abs
  | v :: rest => do
    let mut x ← toFloat v
    for w in rest do
      x := Decimal.hypotenuse x (← toFloat w)
    return x

/-- What the next random number is made of, after that of the last one. -/
def nextSeed (seed : Nat) : Nat := (seed * 6364136223846793005 + 1442695040888963407) % 2 ^ 64

/-- A number from zero up to one. -/
def randomNumber : Proc Float := do
  change fun w => { w with seed := nextSeed w.seed }
  return (floatOfInt ((← world).seed / 2 ^ 11)) / floatOfInt (2 ^ 53)

/-- Runs a function of numbers as such. -/
def runMath (f : MathFn) (c : NativeCall) : Proc Value := do
  match f with
  | .max | .min => return .ofFloat (← extreme (f = .max) c.args)
  | .pow =>
    let x ← toFloat (c.arg 0)
    return .ofFloat (Value.floatPow x (← toFloat (c.arg 1)))
  | .atan2 =>
    let y ← toFloat (c.arg 0)
    return .ofFloat (Float.atan2 y (← toFloat (c.arg 1)))
  | .hypot => return .ofFloat (← hypotenuse c.args)
  | .random => return .float (← randomNumber)
  | .imul =>
    let m := Value.toInt32 (← toNumber (c.arg 0))
    return .ofInt (Value.wrap (m * Value.toInt32 (← toNumber (c.arg 1))))
  | .clz32 =>
    return Value.ofNat (Value.leadingZeros (Value.bits (Value.toInt32 (← toNumber (c.arg 0)))))
  | f => return .ofFloat (Value.realFunction f (← toFloat (c.arg 0)))

end Proc

namespace MathFn

/-- What `Math` is made with. -/
def statics : List Builtin := [
  .method "min" (.math .min) 2, .method "max" (.math .max) 2, .method "abs" (.math .abs) 1,
  .method "floor" (.math .floor) 1, .method "ceil" (.math .ceil) 1,
  .method "round" (.math .round) 1, .method "sqrt" (.math .sqrt) 1,
  .method "acos" (.math .acos) 1, .method "asin" (.math .asin) 1, .method "atan" (.math .atan) 1,
  .method "atan2" (.math .atan2) 2, .method "cos" (.math .cos) 1, .method "exp" (.math .exp) 1,
  .method "log" (.math .log) 1, .method "pow" (.math .pow) 2, .method "sin" (.math .sin) 1,
  .method "tan" (.math .tan) 1, .method "trunc" (.math .trunc) 1, .method "sign" (.math .sign) 1,
  .method "cosh" (.math .cosh) 1, .method "sinh" (.math .sinh) 1, .method "tanh" (.math .tanh) 1,
  .method "acosh" (.math .acosh) 1, .method "asinh" (.math .asinh) 1,
  .method "atanh" (.math .atanh) 1, .method "expm1" (.math .expm1) 1,
  .method "log1p" (.math .log1p) 1, .method "log2" (.math .log2) 1,
  .method "log10" (.math .log10) 1, .method "cbrt" (.math .cbrt) 1,
  .method "hypot" (.math .hypot) 2, .method "random" (.math .random) 0,
  .method "fround" (.math .fround) 1, .method "imul" (.math .imul) 2,
  .method "clz32" (.math .clz32) 1, .tag "Math", .constant "E" 2.718281828459045,
  .constant "LN10" 2.302585092994046, .constant "LN2" 0.6931471805599453,
  .constant "LOG2E" 1.4426950408889634, .constant "LOG10E" 0.4342944819032518,
  .constant "PI" 3.141592653589793, .constant "SQRT1_2" 0.7071067811865476,
  .constant "SQRT2" 1.4142135623730951]

end MathFn

end ScriptBridge.Script
