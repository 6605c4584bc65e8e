import ScriptBridge.Decimal.Rounded
import ScriptBridge.Script.Builtin.Basic

/-!
# Functions of numbers
-/

namespace ScriptBridge.Script

namespace Value

/-- The digit that stands for a number below thirty-six. -/
def digitChar (n : Nat) : Char :=
  if n < 10 then Char.ofNat (0x30 + n) else Char.ofNat (0x61 + (n - 10))

/-- The largest integer below which a float holds every integer. -/
def maxSafe : Float := 9007199254740991.0

/-- The digits of a natural number in a base from two to thirty-six. -/
def digitsIn (base n : Nat) : List Char :=
  go n []
where
  go (n : Nat) (later : List Char) : List Char :=
    if n < base ∨ base < 2 then digitChar n :: later
    else go (n / base) (digitChar (n % base) :: later)
  termination_by n
  decreasing_by exact Nat.div_lt_self (by omega) (by omega)

/-- Moves digits of a fraction, at most `count` of them, to the end of `digits`, as long as these
stay exact.  The result holds the digits, their number and what is left of the fraction. -/
def shiftDigits (base : Nat) : Nat → Nat → Float → Nat × Nat × Float
  | 0, digits, fraction => (digits, 0, fraction)
  | count + 1, digits, fraction =>
    if fraction == 0 || 2 ^ 52 ≤ digits then (digits, 0, fraction)
    else
      let x := fraction * base.toFloat
      let (digits, shifted, left) :=
        shiftDigits base count (digits * base + x.floor.toUInt64.toNat) (x - x.floor)
      (digits, shifted + 1, left)

/-- The digits of a large whole float: those that a float does not keep are zeros. -/
def largeDigits (base : Nat) : Nat → Float → List Char → List Char
  | 0, _, later => later
  | count + 1, x, later =>
    if x < base.toFloat then digitChar x.toUInt64.toNat :: later
    else
      let next := (x / base.toFloat).floor
      let digit := if maxSafe ≤ next then 0 else (floatRem x base.toFloat).toUInt64.toNat
      largeDigits base count next (digitChar digit :: later)

/-- A finite float in a base from two to thirty-six. -/
def inBase (base : Nat) (x : Float) : String :=
  if !x.isFinite then floatText x
  else
    let sign := if x < 0 then "-" else ""
    let whole := x.abs.floor
    if maxSafe < whole then sign ++ String.ofList (largeDigits base 1100 whole [])
    else
      let (digits, shifted, left) :=
        shiftDigits base 1100 whole.toUInt64.toNat (x.abs - whole)
      let digits := if base.toFloat / 2 ≤ left * base.toFloat then digits + 1 else digits
      let fraction := digitsIn base (digits % base ^ shifted)
      let fraction := List.replicate (shifted - fraction.length) '0' ++ fraction
      let fraction := if shifted = 0 then [] else
        (fraction.reverse.dropWhile (· == '0')).reverse
      let point := if fraction.isEmpty then [] else ['.']
      sign ++ String.ofList (digitsIn base (digits / base ^ shifted) ++ point ++ fraction)

/-- A float with a fixed number of places; a half goes away from zero. -/
def toPlaces (places : Nat) (x : Float) : String :=
  match Decimal.parts? x with
  | none => floatText x
  | some p => (if p.negative && p.m ≠ 0 then "-" else "") ++ Decimal.fixed places p.m p.q

/-- A float with a given number of digits, or with the fewest that read back, as a digit, a point,
the other digits and an exponent. -/
def toExponential (count? : Option Nat) (x : Float) : String :=
  match Decimal.parts? x with
  | none => floatText x
  | some p =>
    let zeros := "".pushn '0' (count?.getD 1 - 1)
    if p.m = 0 then (if zeros.isEmpty then "0" else "0." ++ zeros) ++ "e+0"
    else
      let digits := match count? with
        | some count => Decimal.rounded count p.m p.q
        | none => Decimal.shortest p.m p.q
      (if p.negative then "-" else "") ++ (⟨-1000, 1000, ""⟩ : Decimal.Layout).positive digits

/-- A float with a given number of digits, with an exponent where the digits do not reach the point
or begin far behind it. -/
def toPrecision (count : Nat) (x : Float) : String :=
  match Decimal.parts? x with
  | none => floatText x
  | some p =>
    if p.m = 0 then if count = 1 then "0" else "0." ++ "".pushn '0' (count - 1)
    else (if p.negative then "-" else "")
      ++ (⟨count, -6, ""⟩ : Decimal.Layout).positive (Decimal.rounded count p.m p.q)

/-- The value of a digit in any base up to thirty-six. -/
def digitValue? (c : Char) : Option Nat :=
  if '0' ≤ c && c ≤ '9' then some (c.toNat - 0x30)
  else if 'a' ≤ c && c ≤ 'z' then some (c.toNat - 0x61 + 10)
  else if 'A' ≤ c && c ≤ 'Z' then some (c.toNat - 0x41 + 10)
  else none

/-- The sign in front of a number, and the rest. -/
def signed (s : List Char) : Bool × List Char :=
  match s with
  | '-' :: rest => (true, rest)
  | '+' :: rest => (false, rest)
  | s => (false, s)

/-- The integer that a text starts with. -/
def leadingInteger (s : Str) (radix : Int) : Float :=
  let body := (s.toStringLossy.toList).dropWhile fun c => isSpace c || isLineEnd c
  let (negative, body) := signed body
  if radix != 0 && (radix < 2 || 36 < radix) then nan
  else
    let hex := (radix == 0 || radix == 16) && (match body with
      | '0' :: c :: _ => c == 'x' || c == 'X'
      | _ => false)
    let base := if hex then 16 else if radix == 0 then 10 else radix.toNat
    let body := if hex then body.drop 2 else body
    let digits := (body.map digitValue?).takeWhile fun d => match d with
      | some n => n < base
      | none => false
    if digits.isEmpty then nan
    else
      let n := digits.foldl (fun acc d => acc * base + d.getD 0) 0
      let x := floatOfInt n
      if negative then -x else x

/-- The number that a text starts with. -/
def leadingFloat (s : Str) : Float :=
  let body := (s.toStringLossy.toList).dropWhile fun c => isSpace c || isLineEnd c
  let (negative, body) := signed body
  let x :=
    if "Infinity".toList.isPrefixOf body then infinity
    else
      let whole := body.takeWhile Char.isDigit
      let rest := body.dropWhile Char.isDigit
      let fraction := match rest with
        | '.' :: r => r.takeWhile Char.isDigit
        | _ => []
      let behind := match rest with
        | '.' :: r => r.dropWhile Char.isDigit
        | r => r
      if whole.isEmpty && fraction.isEmpty then nan
      else
        let exponent : Int := match behind with
          | e :: r =>
            if e == 'e' || e == 'E' then
              let (negative, ds) := signed r
              let n : Nat := numberOf 10 (ds.takeWhile Char.isDigit)
              if negative then -n else n
            else 0
          | [] => 0
        let m := numberOf 10 (whole ++ fraction)
        let e := exponent - fraction.length
        if 0 ≤ e then Float.ofScientific m false e.toNat else Float.ofScientific m true (-e).toNat
  if negative then -x else x

end Value

namespace Proc

/-- The number that `this` holds. -/
def heldNumber (this : Value) : Proc Value := do
  match this with
  | .int n => return .int n
  | .float x => return .float x
  | .object r =>
    match (← object r).kind with
    | .boxed (.int n) => return .int n
    | .boxed (.float x) => return .float x
    | _ => throwType "not a number"
  | _ => throwType "not a number"

/-- Whether a value is a number without a fraction, within `bound` of zero. -/
def isWhole (v : Value) (bound : Float) : Bool :=
  match v with
  | .int _ => true
  | .float x => x.floor == x && x.abs ≤ bound
  | _ => false

/-- The base that an argument names; ten if it was left out. -/
def toRadix (v : Value) : Proc Nat := do
  let radix ← match v with
    | .undefined => pure 10
    | r => toInteger r
  if radix < 2 || 36 < radix then
    throwNew .rangeError "toString() radix argument must be between 2 and 36"
  return radix.toNat

/-- Writes the number of `this` with the number of digits that an argument asks for. -/
def writeNumber (f : NumberFn) (c : NativeCall) : Proc Value := do
  let v ← heldNumber c.this
  let x := v.number?.getD 0.0
  let shortest : Proc Value := do return .string (← toStr v)
  let isLeftOut := match c.arg 0 with
    | .undefined => true
    | _ => false
  match f with
  | .toFixed =>
    let count ← toInteger (c.arg 0)
    if count < 0 || 100 < count then
      throwNew .rangeError "toFixed() digits argument must be between 0 and 100"
    if x.isFinite && x.abs < 1e21 then return .ofString (Value.toPlaces count.toNat x)
    shortest
  | .toExponential =>
    let count ← toInteger (c.arg 0)
    if !x.isFinite then return ← shortest
    if isLeftOut then return .ofString (Value.toExponential none x)
    if count < 0 || 100 < count then
      throwNew .rangeError "toExponential() argument must be between 0 and 100"
    return .ofString (Value.toExponential (some (count.toNat + 1)) x)
  | _ =>
    if isLeftOut then return ← shortest
    let count ← toInteger (c.arg 0)
    if !x.isFinite then return ← shortest
    if count < 1 || 100 < count then
      throwNew .rangeError "toPrecision() argument must be between 1 and 100"
    return .ofString (Value.toPrecision count.toNat x)

/-- Runs a function of numbers. -/
def runNumber (f : NumberFn) (c : NativeCall) : Proc Value := do
  match f with
  | .make =>
    let v ← match c.args with
      | [] => pure (.int 0)
      | v :: _ =>
        match ← toNumeric v with
        | .bigint n => pure (.float (floatOfInt n))
        | v => pure v
    if c.isPlain then return v
    let proto ← protoFor c.newTarget Intrinsic.numberProto
    return .object (← alloc { kind := .boxed v, proto := some proto })
  | .isInteger => return .bool (isWhole (c.arg 0) (1.7976931348623157e308))
  | .isSafeInteger => return .bool (isWhole (c.arg 0) Value.maxSafe)
  | .isFinite => return .bool ((c.arg 0).number?.elim false Float.isFinite)
  | .isNaN => return .bool ((c.arg 0).number?.elim false Float.isNaN)
  | .globalIsNaN => return .bool (← toFloat (c.arg 0)).isNaN
  | .globalIsFinite => return .bool (← toFloat (c.arg 0)).isFinite
  | .parseInt =>
    let s ← toStr (c.arg 0)
    let radix := Value.toInt32 (← toNumber (c.arg 1))
    return .ofFloat (Value.leadingInteger s radix)
  | .parseFloat => return .ofFloat (Value.leadingFloat (← toStr (c.arg 0)))
  | .valueOf => heldNumber c.this
  | .toString =>
    let v ← heldNumber c.this
    let radix ← toRadix (c.arg 0)
    if radix = 10 then return .string (← toStr v)
    return .ofString (Value.inBase radix (v.number?.getD 0.0))
  | .toFixed | .toExponential | .toPrecision => writeNumber f c

end Proc

namespace NumberFn

/-- What the constructor is made with. -/
def statics : List Builtin := [
  .shared (Key.ofString "parseInt"), .shared (Key.ofString "parseFloat"),
  .method "isNaN" (.number .isNaN) 1, .method "isFinite" (.number .isFinite) 1,
  .method "isInteger" (.number .isInteger) 1, .method "isSafeInteger" (.number .isSafeInteger) 1,
  .constant "MAX_VALUE" 1.7976931348623157e308, .constant "MIN_VALUE" 5e-324,
  .constant "NaN" Value.nan, .constant "NEGATIVE_INFINITY" (-Value.infinity),
  .constant "POSITIVE_INFINITY" Value.infinity, .constant "EPSILON" 2.220446049250313e-16,
  .constant "MAX_SAFE_INTEGER" Value.maxSafe, .constant "MIN_SAFE_INTEGER" (-Value.maxSafe)]

/-- The functions found in every number. -/
def methods : List Builtin := [
  .method "toExponential" (.number .toExponential) 1, .method "toFixed" (.number .toFixed) 1,
  .method "toPrecision" (.number .toPrecision) 1, .method "toString" (.number .toString) 1,
  .method "toLocaleString" (.number .toString) 0, .method "valueOf" (.number .valueOf) 0]

/-- The functions found in the global object. -/
def globals : List Builtin := [
  .method "parseInt" (.number .parseInt) 2, .method "parseFloat" (.number .parseFloat) 1,
  .method "isNaN" (.number .globalIsNaN) 1, .method "isFinite" (.number .globalIsFinite) 1]

end NumberFn

end ScriptBridge.Script
