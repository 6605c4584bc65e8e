import ScriptBridge.Decimal.Shortest

/-!
# Growth near zero

`expMinusOne x` is the float nearest to `e^x - 1` and `logOnePlus x` the one nearest to the
logarithm of `1 + x`; near zero they keep the digits that the plain functions lose.  Both are
computed with integers that count steps of `2^-320`.
-/

namespace ScriptBridge

namespace Decimal

/-- The number of binary places of a fixed-point number. -/
def places : Nat := 320

/-- One as a fixed-point number. -/
def one : Int := 2 ^ places

/-- A finite float as a fixed-point number. -/
def fixedPoint (x : Float) : Int :=
  match parts? x with
  | none => 0
  | some p =>
    let n : Int := match p.q + places with
      | .ofNat k => p.m * 2 ^ k
      | .negSucc k => p.m / 2 ^ (k + 1)
    if p.negative then -n else n

/-- The float nearest to a fixed-point number. -/
def ofFixedPoint (n : Int) : Float :=
  let x := Float.ofScientific (n.natAbs * 10 ^ 150 / 2 ^ places) true 150
  if n < 0 then -x else x

/-- The sum of the terms `x^k / k!` from the term for `k` on, which is `term`. -/
def expTerms (x : Int) : Nat → Int → Int → Int
  | 0, _, _ => 0
  | count + 1, k, term => term + expTerms x count (k + 1) (Int.fdiv (term * x) (one * (k + 1)))

/-- `e^x` for a fixed-point number that is not negative. -/
def expAbove (x : Int) : Int := expTerms x 600 0 one

/-- `e^x` for a fixed-point number. -/
def fixedExp (x : Int) : Int :=
  if 0 ≤ x then expAbove x else Int.fdiv (one * one) (expAbove (-x))

/-- The float nearest to `e^x - 1`. -/
def expMinusOne (x : Float) : Float :=
  if x.isNaN || x.abs < 1e-18 then x
  else if 45 < x then x.exp
  else if x < -45 then -1
  else ofFixedPoint (fixedExp (fixedPoint x) - one)

/-- The float nearest to the logarithm of `1 + x`. -/
def logOnePlus (x : Float) : Float :=
  if x.isNaN || x.abs < 1e-18 then x
  else if x ≤ -1 || 1e18 < x then (1 + x).log
  else
    let start := fixedPoint (1 + x).log
    let off := Int.fdiv ((one + fixedPoint x) * one) (fixedExp start) - one
    let square := Int.fdiv (off * off) one
    ofFixedPoint (start + off - square / 2 + Int.fdiv (square * off) one / 3)

/-- The float nearest to `n · 2^q`, or, if `above` is true, to a number a little above that. -/
def ofBinary (n : Nat) (above : Bool) (q : Int) : Float :=
  let last := max (q + Nat.log2 n - 52) (-1074)
  let cut := (last - q).toNat
  let half := 2 ^ cut
  let whole := n / half
  let rest := 2 * (n % half)
  let up := half < rest || rest == half && (above || whole % 2 == 1)
  ((if up then whole + 1 else whole).toFloat).scaleB (q + cut)

/-- The float nearest to the square root of the sum of two squares. -/
def hypotenuse (x y : Float) : Float :=
  if x.isInf || y.isInf then 1.0 / 0.0
  else
    match parts? x, parts? y with
    | some a, some b =>
      let q := min a.q b.q
      let m := a.m * 2 ^ (a.q - q).toNat
      let n := b.m * 2 ^ (b.q - q).toNat
      let squares := m * m + n * n
      if squares = 0 then 0
      else
        let room := 128 - min 128 (Nat.log2 squares)
        let shift := room + room % 2
        let root := Nat.sqrt (squares * 2 ^ shift)
        ofBinary root (root * root ≠ squares * 2 ^ shift) (q - Int.ofNat (shift / 2))
    | _, _ => 0.0 / 0.0

end Decimal

end ScriptBridge
