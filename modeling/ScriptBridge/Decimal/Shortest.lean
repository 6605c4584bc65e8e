import ScriptBridge.Text.Hex

/-!
# The fewest digits that read back

A finite float other than zero is `m · 2^q`.  The reals that round to it form an interval, which
holds its ends exactly when `m` is even.  `shortest` tries grids of decimals, each ten times finer
than the one before, and on each the two neighbours of the value; the first grid with a neighbour
inside the interval gives the digits.  All of this is arithmetic of natural numbers.
-/

namespace ScriptBridge

namespace Decimal

/-- The value `digits · 10^exponent`. -/
structure Digits where
  digits : Nat
  exponent : Int
deriving DecidableEq, Repr

/-- The sign, significand and exponent of a finite float: its value is `± m · 2^q`. -/
structure Parts where
  negative : Bool
  m : Nat
  q : Int

/-- The parts of a float, if it is finite. -/
def parts? (x : Float) : Option Parts :=
  let bits := x.toBits.toNat
  let negative := bits / 2 ^ 63 == 1
  let field := bits / 2 ^ 52 % 2 ^ 11
  let fraction := bits % 2 ^ 52
  if field == 2047 then none
  else if field == 0 then some ⟨negative, fraction, -1074⟩
  else some ⟨negative, fraction + 2 ^ 52, Int.ofNat field - 1075⟩

/-- The interval of reals that round to `m · 2^q`, in quarters of `2^q`, over a common
denominator: every bound `b` stands for `b · scale / divisor`. -/
structure Interval where
  value : Nat
  low : Nat
  high : Nat
  closed : Bool
  scale : Nat
  divisor : Nat

/-- The interval of a positive float. -/
def interval (m : Nat) (q : Int) : Interval where
  value := 4 * m
  low := if m = 2 ^ 52 ∧ q ≠ -1074 then 4 * m - 1 else 4 * m - 2
  high := 4 * m + 2
  closed := m % 2 == 0
  scale := if 2 ≤ q then 2 ^ (q - 2).toNat else 1
  divisor := if 2 ≤ q then 1 else 2 ^ (2 - q).toNat

/-- `digits · 10^exponent` over the denominators of an interval, as a fraction. -/
def Interval.fraction (i : Interval) (digits : Nat) (exponent : Int) : Nat × Nat :=
  if 0 ≤ exponent then (digits * 10 ^ exponent.toNat * i.divisor, 1)
  else (digits * i.divisor, 10 ^ (-exponent).toNat)

/-- Whether `digits · 10^exponent` rounds to the float. -/
def Interval.holds (i : Interval) (digits : Nat) (exponent : Int) : Bool :=
  let (num, den) := i.fraction digits exponent
  let low := i.low * i.scale * den
  let high := i.high * i.scale * den
  if i.closed then low <= num && num <= high else low < num && num < high

/-- The digits of the largest multiple of `10^exponent` that is not above the float. -/
def Interval.floor (i : Interval) (exponent : Int) : Nat :=
  if 0 ≤ exponent then i.value * i.scale / (i.divisor * 10 ^ exponent.toNat)
  else i.value * i.scale * 10 ^ (-exponent).toNat / i.divisor

/-- Whether the float is nearer to `(digits + 1) · 10^exponent` than to `digits · 10^exponent`,
or as near and `digits` is odd. -/
def Interval.roundsUp (i : Interval) (digits : Nat) (exponent : Int) : Bool :=
  let (num, den) := i.fraction (2 * digits + 1) exponent
  let twice := 2 * i.value * i.scale * den
  num < twice || (num == twice && digits % 2 == 1)

/-- The neighbour on the grid of multiples of `10^exponent` that rounds to the float, the nearer
one if both do. -/
def Interval.pick? (i : Interval) (exponent : Int) : Option Nat :=
  let d := i.floor exponent
  match d != 0 && i.holds d exponent, i.holds (d + 1) exponent with
  | true, true => some (if i.roundsUp d exponent then d + 1 else d)
  | true, false => some d
  | false, true => some (d + 1)
  | false, false => none

/-- Tries `count` grids, the coarsest first. -/
def Interval.search (i : Interval) : Nat → Int → Digits
  | 0, exponent => ⟨i.floor exponent, exponent⟩
  | count + 1, exponent =>
    match i.pick? exponent with
    | some d => ⟨d, exponent⟩
    | none => i.search count (exponent - 1)

/-- The same value without zeros at the end of its digits; at most `count` are removed. -/
def Digits.strip : Nat → Digits → Digits
  | 0, d => d
  | count + 1, d =>
    if d.digits ≠ 0 ∧ d.digits % 10 = 0 then Digits.strip count ⟨d.digits / 10, d.exponent + 1⟩
    else d

/-- The fewest digits that read back as `m · 2^q`, for `m` above zero. -/
def shortest (m : Nat) (q : Int) : Digits :=
  let top := (Int.ofNat (Nat.log2 m) + q + 1) * 30103 / 100000 + 1
  ((interval m q).search 20 top).strip 20

/-! ### Layout -/

/-- How a number is written around its digits. -/
structure Layout where
  /-- The most digits before the point that are written out. -/
  most : Int
  /-- The fewest: zeros after the point count below zero. -/
  fewest : Int
  /-- What follows a number with nothing after the point. -/
  whole : String

/-- The digits of a number. -/
def natDigits (n : Nat) : List Char := Nat.toDigits 10 n

/-- The text of `digits · 10^exponent`, where `digits` is not zero. -/
def Layout.positive (l : Layout) (d : Digits) : String :=
  let ds := natDigits d.digits
  let n : Int := ds.length
  let point := n + d.exponent
  if n ≤ point ∧ point ≤ l.most then
    String.ofList (ds ++ List.replicate (point - n).toNat '0') ++ l.whole
  else if 0 < point ∧ point ≤ l.most then
    String.ofList (ds.take point.toNat ++ '.' :: ds.drop point.toNat)
  else if l.fewest < point ∧ point ≤ 0 then
    String.ofList ('0' :: '.' :: List.replicate (-point).toNat '0' ++ ds)
  else
    let e := point - 1
    let mantissa := if ds.length = 1 then ds else ds.take 1 ++ '.' :: ds.drop 1
    let sign := if e < 0 then "e-" else "e+"
    String.ofList mantissa ++ sign ++ toString e.natAbs

/-- The text of a finite float; `zero` is written for either zero, after its sign if `signed`. -/
def Layout.finite (l : Layout) (signed : Bool) (p : Parts) : String :=
  if p.m = 0 then (if p.negative && signed then "-0" else "0") ++ l.whole
  else (if p.negative then "-" else "") ++ l.positive (shortest p.m p.q)

/-! ### Reading -/

/-- The float nearest to `digits · 10^exponent`. -/
def toFloat (digits : Nat) (exponent : Int) : Float :=
  let size := Int.ofNat (natDigits digits).length + exponent
  if digits = 0 || size < -400 then 0
  else if 400 < size then 1.0 / 0.0
  else
    match exponent with
    | .ofNat e => Float.ofScientific (digits * 10 ^ e) false 0
    | .negSucc e => Float.ofScientific digits true (e + 1)

end Decimal

end ScriptBridge
