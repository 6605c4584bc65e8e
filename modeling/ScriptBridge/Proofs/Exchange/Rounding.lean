import Mathlib
import ScriptBridge.Script.Value

/-!
# Floats of integers

The nearest float to an integer is made by shifting its digits until fifty-three of them are left.
An integer that has no more loses nothing; another one may, but its float is far out of the range of
integers that a value holds.

* `Decimal.Parts.value` : the number that a float is.
* `value_floatOfInt` : **the float of an integer** has its value, if that is below 2^53.
* `Script.Value.wholeOfFloat?_eq_some_iff` : a float is taken for an integer **exactly if its value
  is one**, and thirty-two bits hold it.
-/

open Float.Model Float.Model.UnpackedFloat

namespace ScriptBridge

namespace Decimal

/-- The number that a float is, by its parts. -/
def Parts.value (p : Parts) : ℚ := (if p.negative then -1 else 1) * p.m * 2 ^ p.q

theorem Parts.value_eq {negative : Bool} {m k : Nat} {q : Int} (h : (m : ℚ) * 2 ^ q = k) :
    Parts.value ⟨negative, m, q⟩ = ((if negative then -k else k : Int) : ℚ) := by
  rw [Parts.value, mul_assoc, h]
  cases negative <;> simp

/-- The significand and the exponent of a float that has all its digits. -/
structure IsNormal (m : Nat) (e : Int) : Prop where
  low : 2 ^ 52 ≤ m
  high : m < 2 ^ 53
  small : -1074 ≤ e
  large : e ≤ 971

variable {m : Nat} {e : Int} {s : Sign}

theorem IsNormal.pos (h : IsNormal m e) : 0 < m := Nat.lt_of_lt_of_le (by decide) h.low

theorem log2_eq {k : Nat} (hlow : 2 ^ k ≤ m) (hhigh : m < 2 ^ (k + 1)) : m.log2 = k := by
  have hne : m ≠ 0 := by
    have := Nat.two_pow_pos k
    omega
  have h₁ := (Nat.le_log2 hne).2 hlow
  have h₂ := (Nat.log2_lt hne).2 hhigh
  omega

theorem log2_mul_two_pow (hm : m ≠ 0) (k : Nat) : (m * 2 ^ k).log2 = m.log2 + k := by
  have hlow := Nat.log2_self_le hm
  have hhigh : m < 2 ^ (m.log2 + 1) := Nat.lt_log2_self
  refine log2_eq ?_ ?_
  · rw [pow_add]
    exact Nat.mul_le_mul_right _ hlow
  · rw [Nat.add_right_comm, pow_add]
    exact Nat.mul_lt_mul_of_pos_right hhigh (Nat.two_pow_pos k)

/-! ### Packing -/

/-- The float that is packed from a sign, a significand and an exponent. -/
def packed (s : Sign) (h : IsNormal m e) : Float := .ofModel (.pack (.finite s m e h.pos))

theorem toNat_append {n k : Nat} (x : BitVec n) (y : BitVec k) :
    (x ++ y).toNat = x.toNat * 2 ^ k + y.toNat := by
  rw [BitVec.toNat_append, ← Nat.shiftLeft_add_eq_or_of_lt y.isLt, Nat.shiftLeft_eq]

/-- The bits of a packed float: its sign, its exponent, and its digits but for the first. -/
theorem toBits_packed (h : IsNormal m e) : (packed s h).toBits.toNat =
    (s.toBitVec.toNat * 2 ^ 11 + (e + 1075).toNat) * 2 ^ 52 + (m - 2 ^ 52) := by
  have hbits : UnpackedFloat.pack Format.binary64 (.finite s m e h.pos) =
      packComponents Format.binary64 s (BitVec.ofNat _ (e + 1075).toNat) (BitVec.ofNat _ m) := by
    obtain ⟨hlow, hhigh, hsmall, hlarge⟩ := h
    have hbiased : (e + (Format.exponentBias Format.binary64 : Nat) + (52 : Nat)).toNat =
        (e + 1075).toNat := by
      simp only [Format.exponentBias]
      omega
    have hlog := log2_eq hlow hhigh
    rw [UnpackedFloat.pack, if_neg, if_pos]
    · simp only [hbiased]
    · rw [hlog]
      rfl
    · simp only [hbiased]
      omega
  change (UnpackedFloat.pack Format.binary64 (.finite s m e h.pos)).toNat = _
  obtain ⟨hlow, hhigh, hsmall, hlarge⟩ := h
  rw [hbits, packComponents, toNat_append, toNat_append, BitVec.toNat_ofNat, BitVec.toNat_ofNat,
    Nat.mod_eq_of_lt (by omega : (e + 1075).toNat < 2 ^ 11)]
  change (s.toBitVec.toNat * 2 ^ 11 + (e + 1075).toNat) * 2 ^ 52 + m % 2 ^ 52 = _
  omega

/-- The parts of a float with all its digits are found in its bits. -/
theorem parts?_of_toBits {x : Float} {sign field fraction : Nat}
    (hx : x.toBits.toNat = (sign * 2 ^ 11 + field) * 2 ^ 52 + fraction)
    (hpos : 0 < field) (hfield : field < 2047) (hfraction : fraction < 2 ^ 52) :
    parts? x = some ⟨sign == 1, fraction + 2 ^ 52, Int.ofNat field - 1075⟩ := by
  have h₁ : x.toBits.toNat / 2 ^ 63 = sign := by omega
  have h₂ : x.toBits.toNat / 2 ^ 52 % 2 ^ 11 = field := by omega
  have h₃ : x.toBits.toNat % 2 ^ 52 = fraction := by omega
  rw [parts?]
  simp only [h₁, h₂, h₃, beq_iff_eq]
  rw [if_neg (Nat.ne_of_lt hfield), if_neg (Nat.ne_of_gt hpos)]

/-- A packed float has the parts that it was packed from. -/
theorem parts?_packed (h : IsNormal m e) :
    parts? (packed s h) = some ⟨s.toBitVec.toNat == 1, m, e⟩ := by
  have hbits := toBits_packed (s := s) h
  obtain ⟨hlow, hhigh, hsmall, hlarge⟩ := h
  have he : ((e + 1075).toNat : Int) - 1075 = e := by omega
  rw [parts?_of_toBits hbits (by omega) (by omega) (by omega), Nat.sub_add_cancel hlow,
    Int.ofNat_eq_natCast, he]

/-- What is packed is unpacked again. -/
theorem unpack_pack (h : IsNormal m e) :
    (Float.Model.pack (.finite s m e h.pos)).unpack = .finite s m e h.pos := by
  have hbits := toBits_packed (s := s) h
  change (Float.Model.pack (.finite s m e h.pos)).toBits.toBitVec.toNat = _ at hbits
  generalize (Float.Model.pack (.finite s m e h.pos)) = x at hbits ⊢
  obtain ⟨hlow, hhigh, hsmall, hlarge⟩ := h
  have hsign : s.toBitVec.toNat ≤ 1 := Nat.le_of_lt_succ s.toBitVec.isLt
  rw [Float.Model.unpack]
  generalize x.toBits.toBitVec = bits at hbits ⊢
  -- the fields are cut out of the bits again
  have hmantissa : (@unpackMantissa Format.binary64 bits).toNat = m - 2 ^ 52 := by
    simp [unpackMantissa, BitVec.extractLsb_toNat, hbits]
    omega
  have hexponent : (@unpackExponent Format.binary64 bits).toNat = (e + 1075).toNat := by
    simp [unpackExponent, BitVec.extractLsb_toNat, hbits, Nat.shiftRight_eq_div_pow]
    omega
  have hsignBits : (@unpackSign Format.binary64 bits) = s.toBitVec := by
    apply BitVec.eq_of_toNat_eq
    simp [unpackSign, BitVec.extractLsb_toNat, hbits, Nat.shiftRight_eq_div_pow]
    omega
  -- the exponent is neither that of infinity nor that of subnormal numbers
  have hall : @unpackExponent Format.binary64 bits ≠ -1#_ := by
    intro hall
    have := congrArg BitVec.toNat hall
    rw [hexponent] at this
    change (e + 1075).toNat = 2047 at this
    omega
  have hzero : @unpackExponent Format.binary64 bits ≠ 0#_ := by
    intro hzero
    have := congrArg BitVec.toNat hzero
    rw [hexponent] at this
    change (e + 1075).toNat = 0 at this
    omega
  have hfirst : (1#1 ++ @unpackMantissa Format.binary64 bits).toNat = m := by
    rw [toNat_append, hmantissa]
    change 1 * 2 ^ 52 + (m - 2 ^ 52) = m
    omega
  have he : ((e + 1075).toNat : Int) - (Format.exponentBias Format.binary64 + (52 : Nat)) = e := by
    change ((e + 1075).toNat : Int) - ((1023 : Nat) + (52 : Nat)) = e
    omega
  rw [UnpackedFloat.unpack]
  simp only [if_neg hall, if_neg hzero, hsignBits, Sign.ofBitVec_toBitVec, hfirst, hexponent, he]

/-! ### Rounding -/

/-- The digits of a number that has all, or more of them than a float keeps. -/
theorem shiftRight_exact {k : Nat} (hm : m % 2 ^ k = 0) :
    (⟨m, false, false⟩ : ExtendedMantissa) >>> k = ⟨m / 2 ^ k, false, false⟩ := by
  induction k with
  | zero => simp [HShiftRight.hShiftRight, Nat.repeat]
  | succ k ih =>
    have hk : m % 2 ^ k = 0 := by
      rw [pow_succ] at hm
      exact Nat.mod_eq_zero_of_dvd ((Nat.dvd_mul_right _ _).trans (Nat.dvd_of_mod_eq_zero hm))
    change ((⟨m, false, false⟩ : ExtendedMantissa) >>> k).shiftRightOne = _
    have hhalf : m / 2 ^ k % 2 = 0 := by
      rw [pow_succ] at hm
      rw [← Nat.mod_mul_right_div_self, hm, Nat.zero_div]
    rw [ih hk, ExtendedMantissa.shiftRightOne, pow_succ, ← Nat.div_div_eq_div_mul]
    simp [hhalf]

theorem mantissa_shiftRight (em : ExtendedMantissa) (k : Nat) :
    (em >>> k).mantissa = em.mantissa / 2 ^ k := by
  induction k with
  | zero => simp [HShiftRight.hShiftRight, Nat.repeat]
  | succ k ih =>
    change (em >>> k).mantissa / 2 = _
    rw [ih, pow_succ, Nat.div_div_eq_div_mul]

theorem roundedMantissa_bounds (em : ExtendedMantissa) :
    em.mantissa ≤ em.roundedMantissa ∧ em.roundedMantissa ≤ em.mantissa + 1 := by
  obtain ⟨m, round, sticky⟩ := em
  cases round <;> cases sticky <;>
    simp [ExtendedMantissa.roundedMantissa, ExtendedMantissa.accuracy, Accuracy.roundToNearestEven]
  omega

/-- The shift that leaves fifty-three digits. -/
theorem shiftToTargetExponent_eq (hm : 2 ^ 52 ≤ m) (he : -1074 ≤ e + (m.log2 - 52 : Nat)) :
    shiftToTargetExponent Format.binary64 m e .exact =
      ((⟨m, false, false⟩ : ExtendedMantissa) >>> (m.log2 - 52), e + (m.log2 - 52 : Nat)) := by
  have hlog : 52 ≤ m.log2 := (Nat.le_log2 (by omega)).2 hm
  have htarget : Format.binary64.targetExponent (totalExponent m e) = e + (m.log2 - 52 : Nat) := by
    simp only [Format.targetExponent, totalExponent, Format.mantissaBits, Format.minExponent]
    omega
  have hshift : (e + (m.log2 - 52 : Nat) - e).toNat = m.log2 - 52 := by omega
  rw [shiftToTargetExponent, htarget, shiftToExponent, hshift]
  rfl

/-- A number with at least fifty-three digits is rounded to fifty-three, which may carry into one
more. -/
theorem roundWithAccuracy_eq (s : Sign) (hm : 2 ^ 52 ≤ m) (he : -1074 ≤ e + (m.log2 - 52 : Nat)) :
    ∃ (m' : Nat) (e' : Int) (hm' : 0 < m'),
      roundWithAccuracy Format.binary64 s m e .exact = .finite s m' e' hm' ∧
      2 ^ 52 ≤ m' ∧ m' < 2 ^ 53 ∧ e + (m.log2 - 52 : Nat) ≤ e' ∧ e' ≤ e + (m.log2 - 52 : Nat) + 1 ∧
      (m % 2 ^ (m.log2 - 52) = 0 → m' = m / 2 ^ (m.log2 - 52) ∧ e' = e + (m.log2 - 52 : Nat)) := by
  have hne : m ≠ 0 := by omega
  have hlog : 52 ≤ m.log2 := (Nat.le_log2 hne).2 hm
  have hfirst := shiftToTargetExponent_eq hm he
  have hexact (hmod : m % 2 ^ (m.log2 - 52) = 0) := shiftRight_exact hmod
  have hbounds := roundedMantissa_bounds ((⟨m, false, false⟩ : ExtendedMantissa) >>> (m.log2 - 52))
  rw [mantissa_shiftRight] at hbounds
  have hlow : 2 ^ 52 ≤ m / 2 ^ (m.log2 - 52) := by
    rw [Nat.le_div_iff_mul_le (Nat.two_pow_pos _), ← pow_add, Nat.add_sub_cancel' hlog]
    exact Nat.log2_self_le hne
  have hhigh : m / 2 ^ (m.log2 - 52) < 2 ^ 53 := by
    rw [Nat.div_lt_iff_lt_mul (Nat.two_pow_pos _), ← pow_add]
    have hsum : 53 + (m.log2 - 52) = m.log2 + 1 := by omega
    rw [hsum]
    exact Nat.lt_log2_self
  generalize (⟨m, false, false⟩ : ExtendedMantissa) >>> (m.log2 - 52) = em at *
  generalize m / 2 ^ (m.log2 - 52) = q at *
  generalize m.log2 - 52 = k at *
  obtain ⟨hr, hr'⟩ := hbounds
  -- the rounded number is shifted once more, for the carry
  obtain ⟨em', e', hsecond, hlow', hhigh', he', he'', hkeeps⟩ : ∃ em' e',
      shiftToTargetExponent Format.binary64 em.roundedMantissa (e + (k : Int)) .exact = (em', e') ∧
      2 ^ 52 ≤ em'.mantissa ∧ em'.mantissa < 2 ^ 53 ∧ e + (k : Int) ≤ e' ∧ e' ≤ e + (k : Int) + 1 ∧
      (em.roundedMantissa < 2 ^ 53 → em'.mantissa = em.roundedMantissa ∧ e' = e + (k : Int)) := by
    refine ⟨_, _, shiftToTargetExponent_eq (hlow.trans hr) (by omega), ?_⟩
    rw [mantissa_shiftRight]
    by_cases hr₅₃ : em.roundedMantissa < 2 ^ 53
    · have hshift : em.roundedMantissa.log2 - 52 = 0 := by rw [log2_eq (hlow.trans hr) hr₅₃]
      rw [hshift, pow_zero, Nat.div_one]
      exact ⟨hlow.trans hr, hr₅₃, by omega, by omega, fun _ => ⟨rfl, by omega⟩⟩
    · -- one more digit than fifty-three: a power of two
      have hpow : em.roundedMantissa = 2 ^ 53 := by omega
      have hshift : em.roundedMantissa.log2 - 52 = 1 := by rw [hpow, Nat.log2_two_pow]
      rw [hshift, hpow]
      exact ⟨by decide, by decide, by omega, by omega, fun hlt => absurd hlt (Nat.lt_irrefl _)⟩
  refine ⟨em'.mantissa, e', by omega, ?_, hlow', hhigh', he', he'', fun hmod => ?_⟩
  · rw [roundWithAccuracy, hfirst]
    simp only [hsecond]
    rw [dif_neg (by omega)]
  · obtain rfl := hexact hmod
    exact hkeeps hhigh

/-- Digits behind the fifty-third that are all zero are dropped. -/
theorem roundWithAccuracy_exact {k : Nat} {e₀ : Int} (s : Sign) (h : IsNormal m e)
    (he : e₀ + k = e) :
    roundWithAccuracy Format.binary64 s (m * 2 ^ k) e₀ .exact = .finite s m e h.pos := by
  have hlog : (m * 2 ^ k).log2 - 52 = k := by
    rw [log2_mul_two_pow (Nat.ne_of_gt h.pos), log2_eq h.low h.high]
    omega
  have hlow : 2 ^ 52 ≤ m * 2 ^ k := h.low.trans (Nat.le_mul_of_pos_right m (Nat.two_pow_pos k))
  obtain ⟨m', e', hm', hround, -, -, -, -, hexact⟩ :=
    roundWithAccuracy_eq s hlow (by rw [hlog, he]; exact h.small)
  rw [hlog, Nat.mul_div_cancel m (Nat.two_pow_pos k), he] at hexact
  obtain ⟨rfl, rfl⟩ := hexact (Nat.mul_mod_left _ _)
  exact hround

/-! ### Floats of integers -/

/-- A number that fits into the digits of a float is written with all of them. -/
theorem isNormal_of_lt (hm : 0 < m) (hm' : m < 2 ^ 53) :
    IsNormal (m * 2 ^ (52 - m.log2)) (-(52 - m.log2 : Nat)) := by
  have hne := Nat.ne_of_gt hm
  have hlog := (Nat.log2_lt hne).2 hm'
  refine ⟨?_, ?_, by omega, by omega⟩
  · have hpow := Nat.mul_le_mul_right (2 ^ (52 - m.log2)) (Nat.log2_self_le hne)
    rwa [← pow_add, Nat.add_sub_cancel' (Nat.le_of_lt_succ hlog)] at hpow
  · have hpow := Nat.mul_lt_mul_of_pos_right (Nat.lt_log2_self (n := m))
      (Nat.two_pow_pos (52 - m.log2))
    rwa [← pow_add, Nat.add_right_comm, Nat.add_sub_cancel' (Nat.le_of_lt_succ hlog)] at hpow

theorem toFloat_eq (hm : 0 < m) (hm' : m < 2 ^ 53) :
    m.toUInt64.toFloat = packed .positive (isNormal_of_lt hm hm') := by
  have hnormal := isNormal_of_lt hm hm'
  have htarget : Format.binary64.targetExponent (totalExponent m 0) = -(52 - m.log2 : Nat) := by
    have hlog := (Nat.log2_lt (Nat.ne_of_gt hm)).2 hm'
    simp only [Format.targetExponent, totalExponent, Format.mantissaBits, Format.minExponent]
    omega
  have hshift : (0 - (-(52 - m.log2 : Nat) : Int)).toNat = 52 - m.log2 := by omega
  have hround : UnpackedFloat.round Format.binary64 .positive m 0 =
      .finite .positive (m * 2 ^ (52 - m.log2)) (-(52 - m.log2 : Nat)) hnormal.pos := by
    have hexact :=
      roundWithAccuracy_exact .positive hnormal (add_zero _ : _ + ((0 : Nat) : Int) = _)
    rw [pow_zero, mul_one] at hexact
    simp only [UnpackedFloat.round, htarget, decreaseExponent, hshift, Nat.shiftLeft_eq]
    rw [zero_sub]
    exact hexact
  have hnat : m.toUInt64.toNat = m := by
    simp only [Nat.toUInt64_eq, UInt64.toNat_ofNat']
    omega
  have hcompare : compare (m : Int) 0 = .gt := by
    rw [compare_gt_iff_gt]
    omega
  rw [UInt64.toFloat, Float.Model.ofUInt64, UnpackedFloat.ofUInt64, UnpackedFloat.ofNat,
    UnpackedFloat.ofInt, UnpackedFloat.normalize, hnat, hcompare]
  simp only [Int.toNat_natCast, hround]
  rfl

theorem isNormal_one : IsNormal (2 ^ 52) (-52) := ⟨by decide, by decide, by decide, by decide⟩

theorem ofBits_one : Float.ofBits 0x3FF0000000000000 = packed .positive isNormal_one := by
  decide

theorem packed_mul_one (h : IsNormal m e) :
    packed .positive h * packed .positive isNormal_one = packed .positive h := by
  change Float.ofModel (.pack (UnpackedFloat.mul Format.binary64
    (Float.Model.pack (.finite .positive m e h.pos)).unpack
    (Float.Model.pack (.finite .positive (2 ^ 52) (-52) isNormal_one.pos)).unpack)) = _
  rw [unpack_pack h, unpack_pack isNormal_one]
  have he : e + -52 + (52 : Nat) = e := by omega
  exact congrArg (fun f => Float.ofModel (.pack f)) (roundWithAccuracy_exact .positive h he)

/-- The float of a number that is not zero, as long as it is not too large. -/
theorem ofScientific_eq (hm : 0 < m) (hm' : m < 2 ^ 64) :
    ∃ (m' : Nat) (e : Int) (h : IsNormal m' e), Float.ofScientific m false 0 = packed .positive h ∧
      (m < 2 ^ 53 → ∃ k : Nat, e = -k ∧ m' = m * 2 ^ k) ∧ (2 ^ 53 ≤ m → 1 ≤ e) := by
  by_cases hsmall : m < 2 ^ 53
  · have hnormal := isNormal_of_lt hm hsmall
    refine ⟨_, _, hnormal, ?_, fun _ => ⟨_, rfl, rfl⟩, fun h => absurd h (by omega)⟩
    rw [Float.ofScientific, dif_pos ⟨hsmall, by decide⟩]
    change m.toUInt64.toFloat * Float.ofBits 0x3FF0000000000000 = _
    rw [toFloat_eq hm hsmall, ofBits_one, packed_mul_one]
  · have hlog : 53 ≤ m.log2 := (Nat.le_log2 (Nat.ne_of_gt hm)).2 (by omega)
    have hlog' : m.log2 < 64 := (Nat.log2_lt (Nat.ne_of_gt hm)).2 hm'
    have hshift : (m * 2 ^ 53).log2 - 52 = m.log2 + 1 := by
      rw [log2_mul_two_pow (Nat.ne_of_gt hm)]
      omega
    obtain ⟨m', e, hpos, hround, hlow, hhigh, he, he', -⟩ :=
      roundWithAccuracy_eq (m := m * 2 ^ 53) (e := -53) .positive (by omega) (by omega)
    rw [hshift] at he he'
    have hnormal : IsNormal m' e := ⟨hlow, hhigh, by omega, by omega⟩
    refine ⟨m', e, hnormal, ?_, fun h => absurd h hsmall, fun _ => by omega⟩
    rw [Float.ofScientific, dif_neg fun h => hsmall h.1]
    change Float.ofModel (.pack (UnpackedFloat.ofScientific Format.binary64 m 0)) = _
    have hrange : (0 : Int) < 2 ^ Format.binary64.exponentBits := by decide
    rw [UnpackedFloat.ofScientific, dif_neg (Nat.ne_of_gt hm), if_neg (Int.not_lt.2 hrange.le),
      if_neg (by omega), if_pos (Int.le_refl 0)]
    simp only [UnpackedFloat.mul, Nat.shiftLeft_eq, Int.toNat_zero, pow_zero, mul_one]
    exact congrArg (fun f => Float.ofModel (.pack f)) hround

theorem neg_packed (s : Sign) (h : IsNormal m e) : -packed s h = packed (-s) h := by
  change Float.ofModel (.pack (Float.Model.pack (.finite s m e h.pos)).unpack.neg) = _
  rw [unpack_pack h]
  rfl

theorem isFinite_packed (s : Sign) (h : IsNormal m e) : (packed s h).isFinite = true := by
  change (Float.Model.pack (.finite s m e h.pos)).unpack.isFinite = true
  rw [unpack_pack h]
  rfl

/-- The float of an integer that is not zero: its digits are those of the integer, as long as there
are not too many. -/
theorem floatOfInt_eq {n : Int} (hn : n ≠ 0) (hn' : n.natAbs < 2 ^ 64) :
    ∃ (m : Nat) (e : Int) (h : IsNormal m e),
      floatOfInt n = packed (if n < 0 then .negative else .positive) h ∧
      (n.natAbs < 2 ^ 53 → ∃ k : Nat, e = -k ∧ m = n.natAbs * 2 ^ k) ∧
      (2 ^ 53 ≤ n.natAbs → 1 ≤ e) := by
  obtain ⟨m, e, h, hfloat, hdigits⟩ := ofScientific_eq (Int.natAbs_pos.2 hn) hn'
  refine ⟨m, e, h, ?_, hdigits⟩
  cases n with
  | ofNat k =>
    have hnot : ¬ Int.ofNat k < 0 := Int.not_lt.2 (Int.natCast_nonneg k)
    rw [if_neg hnot]
    exact hfloat
  | negSucc k =>
    rw [if_pos (Int.negSucc_lt_zero k)]
    exact (congrArg (- ·) hfloat).trans (neg_packed .positive h)

theorem isFinite_floatOfInt {n : Int} (hn : n.natAbs < 2 ^ 64) :
    (floatOfInt n).isFinite = true := by
  by_cases hzero : n = 0
  · subst hzero
    decide
  · obtain ⟨m, e, h, hfloat, -⟩ := floatOfInt_eq hzero hn
    rw [hfloat]
    exact isFinite_packed _ h

/-- **The float of an integer** has its value, if that is below 2^53; else it is not below that
either. -/
theorem value_floatOfInt {n : Int} (hn : n.natAbs < 2 ^ 64) :
    ∃ p, parts? (floatOfInt n) = some p ∧ (n.natAbs < 2 ^ 53 → p.value = n) ∧
      (2 ^ 53 ≤ n.natAbs → 2 ^ 53 ≤ |p.value|) := by
  by_cases hzero : n = 0
  · subst hzero
    have hparts : (parts? (floatOfInt 0)).map (fun p => (p.m, p.q)) = some (0, -1074) := by
      decide
    obtain ⟨p, hp, hm⟩ := Option.map_eq_some_iff.1 hparts
    refine ⟨p, hp, fun _ => ?_, fun h => absurd h (by decide)⟩
    rw [Parts.value, (Prod.mk.inj hm).1]
    simp
  · obtain ⟨m, e, h, hfloat, hsmall, hlarge⟩ := floatOfInt_eq hzero hn
    -- up to 53 bits are kept, and a greater number is rounded to nothing below `2 ^ 53`
    refine ⟨_, hfloat ▸ parts?_packed h, fun hlt => ?_, fun hle => ?_⟩
    · obtain ⟨k, rfl, rfl⟩ := hsmall hlt
      have hmagnitude : ((n.natAbs * 2 ^ k : Nat) : ℚ) * 2 ^ (-(k : Int)) = n.natAbs := by
        rw [Nat.cast_mul, Nat.cast_pow, Nat.cast_ofNat, zpow_neg, zpow_natCast,
          mul_inv_cancel_right₀ (by positivity)]
      rw [Parts.value_eq hmagnitude]
      refine congrArg Int.cast ?_
      by_cases hnegative : n < 0
      · rw [if_pos hnegative]
        change -(n.natAbs : Int) = n
        rw [Int.ofNat_natAbs_of_nonpos hnegative.le, neg_neg]
      · rw [if_neg hnegative]
        exact Int.natAbs_of_nonneg (Int.not_lt.1 hnegative)
    · have he := hlarge hle
      have hone : ∀ s : Sign, |if s.toBitVec.toNat == 1 then (-1 : ℚ) else 1| = 1 := by
        rintro (_ | _) <;> simp [Sign.toBitVec]
      calc (2 : ℚ) ^ 53 = 2 ^ 52 * 2 ^ (1 : Int) := by norm_num
        _ ≤ (m : ℚ) * 2 ^ e := by
          gcongr
          · exact_mod_cast h.low
          · norm_num
        _ = _ := by
          rw [Parts.value, abs_mul, abs_mul, hone, one_mul, Nat.abs_cast,
            abs_of_pos (by positivity)]

end Decimal

namespace Script.Value

open Decimal

theorem fits_iff {n : Int} : fits n = true ↔ -2 ^ 31 ≤ n ∧ n < 2 ^ 31 := by
  simp [fits]

variable {n : Int}

/-- Where the number is whole, all that is asked is whether thirty-two bits hold it. -/
theorem ite_fits_eq_some_iff {negative : Bool} {m k : Nat} {q : Int} (hk : (m : ℚ) * 2 ^ q = k) :
    (if fits (if negative then -k else k) then some (if negative then -k else k : Int) else none) =
      some n ↔ fits n = true ∧ Parts.value ⟨negative, m, q⟩ = n := by
  rw [Parts.value_eq hk, Int.cast_inj]
  generalize (if negative then -k else k : Int) = n'
  constructor
  · intro h
    split_ifs at h with hfits
    · cases h
      exact ⟨hfits, rfl⟩
  · rintro ⟨hfits, rfl⟩
    exact if_pos hfits

theorem not_fits_of_large {negative : Bool} {m q : Nat} (hm : m ≠ 0) (hq : 32 < q)
    (h : Parts.value ⟨negative, m, q⟩ = n) : fits n = false := by
  have hvalue : (m : ℚ) * 2 ^ (q : Int) = (m * 2 ^ q : Nat) := by
    rw [zpow_natCast, Nat.cast_mul, Nat.cast_pow, Nat.cast_ofNat]
  rw [Parts.value_eq hvalue, Int.cast_inj] at h
  have hlarge : 2 ^ 33 ≤ m * 2 ^ q := calc
    2 ^ 33 ≤ 2 ^ q := Nat.pow_le_pow_right (by decide) hq
    _ ≤ m * 2 ^ q := Nat.le_mul_of_pos_left _ (Nat.pos_of_ne_zero hm)
  rw [← Bool.not_eq_true, fits_iff]
  split_ifs at h <;> omega

/-- A number with digits after the point is whole only if they are all zero. -/
theorem mod_eq_zero_of_value {negative : Bool} {m q : Nat}
    (h : Parts.value ⟨negative, m, Int.negSucc q⟩ = n) : m % 2 ^ (q + 1) = 0 := by
  have hm : (m : ℚ) = ((if negative then -n else n : Int) : ℚ) * (2 ^ (q + 1) : Nat) := by
    rw [Parts.value, zpow_negSucc, ← div_eq_mul_inv, div_eq_iff (by positivity)] at h
    cases negative
    · simpa using h
    · simpa [neg_eq_iff_eq_neg] using h
  have hm' : (m : Int) = (if negative then -n else n) * (2 ^ (q + 1) : Nat) := by exact_mod_cast hm
  refine Nat.mod_eq_zero_of_dvd (Int.natCast_dvd_natCast.1 ?_)
  exact hm' ▸ Int.dvd_mul_left _ _

/-- **A float is taken for an integer** exactly if its value is one, and thirty-two bits hold it. -/
theorem wholeOfFloat?_eq_some_iff {x : Float} : wholeOfFloat? x = some n ↔
    fits n = true ∧ ∃ p, parts? x = some p ∧ p.value = n := by
  rw [wholeOfFloat?]
  cases parts? x with
  | none => simp
  | some p =>
    simp only [Option.some.injEq, exists_eq_left']
    obtain ⟨negative, m, q⟩ := p
    cases q with
    | ofNat q =>
      have hwhole : (m : ℚ) * 2 ^ (Int.ofNat q) = (m * 2 ^ q : Nat) := by
        rw [Int.ofNat_eq_natCast, zpow_natCast, Nat.cast_mul, Nat.cast_pow, Nat.cast_ofNat]
      by_cases hzero : m = 0
      · simp only [if_pos hzero]
        exact ite_fits_eq_some_iff (k := 0) (by simp [hzero])
      · by_cases hsmall : q ≤ 32
        · simp only [hzero, hsmall, if_true, if_false]
          exact ite_fits_eq_some_iff hwhole
        · simp only [hzero, hsmall, if_false, reduceCtorEq, false_iff, not_and]
          intro hfits hvalue
          exact Bool.false_ne_true ((not_fits_of_large hzero (by omega) hvalue).symm.trans hfits)
    | negSucc q =>
      by_cases hdvd : m % 2 ^ (q + 1) = 0
      · simp only [hdvd, if_true]
        refine ite_fits_eq_some_iff ?_
        rw [zpow_negSucc, ← div_eq_mul_inv,
          Nat.cast_div (Nat.dvd_of_mod_eq_zero hdvd) (by positivity), Nat.cast_pow, Nat.cast_ofNat]
      · simp only [hdvd, if_false, reduceCtorEq, false_iff, not_and]
        exact fun _ hvalue => hdvd (mod_eq_zero_of_value hvalue)

end Script.Value

end ScriptBridge
