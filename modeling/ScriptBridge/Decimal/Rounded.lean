import ScriptBridge.Decimal.Shortest

/-!
# A given number of digits

A positive float `m · 2^q` is a fraction.  `rounded` has its first digits, the last of them rounded
to the nearest and a half upwards; `fixed` has all digits up to a place behind the point.
-/

namespace ScriptBridge

namespace Decimal

/-- `m · 2^q` as a fraction. -/
def ratio (m : Nat) (q : Int) : Nat × Nat :=
  match q with
  | .ofNat k => (m * 2 ^ k, 1)
  | .negSucc k => (m, 2 ^ (k + 1))

/-- The integer nearest to a fraction, a half upwards. -/
def nearest (num den : Nat) : Nat := (2 * num + den) / (2 * den)

/-- A fraction times `10^exponent`. -/
def shifted (r : Nat × Nat) (exponent : Int) : Nat × Nat :=
  match exponent with
  | .ofNat k => (r.1 * 10 ^ k, r.2)
  | .negSucc k => (r.1, r.2 * 10 ^ (k + 1))

/-- The first `count` digits of `m · 2^q`, for `m` above zero. -/
def rounded (count m : Nat) (q : Int) : Digits :=
  let r := ratio m q
  let estimate : Int := Int.ofNat (natDigits r.1).length - Int.ofNat (natDigits r.2).length
  let high := shifted r (-estimate)
  let top := if high.1 < high.2 then estimate - 1 else estimate
  let scaled := shifted r (Int.ofNat count - 1 - top)
  let n := nearest scaled.1 scaled.2
  if n = 10 ^ count then ⟨n / 10, top + 2 - count⟩ else ⟨n, top + 1 - count⟩

/-- The digits of `m · 2^q` with `places` places behind the point. -/
def fixed (places m : Nat) (q : Int) : String :=
  let r := ratio m q
  let digits := natDigits (nearest (r.1 * 10 ^ places) r.2)
  let digits := List.replicate (places + 1 - digits.length) '0' ++ digits
  let cut := digits.length - places
  String.ofList (digits.take cut ++ if places = 0 then [] else '.' :: digits.drop cut)

end Decimal

end ScriptBridge
