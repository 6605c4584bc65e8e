/-!
# Strings of the script language

A script string is a sequence of 16-bit units, and any sequence is one: a surrogate may stand
alone.  `Str.ofString` writes a text as units and `Str.toString?` reads units back as a text; it
fails exactly at the first surrogate without its partner and says where that is, counted in the
bytes that the units before it take in UTF-8.  The main statement is `Str.toString?_ofString`:
every text survives the way there and back.
-/

namespace ScriptBridge

/-- A string of the script language. -/
structure Str where
  /-- Its 16-bit units. -/
  units : List UInt16
deriving DecidableEq, Inhabited, Hashable, Repr

namespace Str

/-! ### Units of a text -/

/-- The one or two units that write a character. -/
def unitsOf (c : Char) : List UInt16 :=
  if c.toNat < 0x10000 then [c.toNat.toUInt16]
  else [(0xd800 + (c.toNat - 0x10000) / 0x400).toUInt16,
    (0xdc00 + (c.toNat - 0x10000) % 0x400).toUInt16]

/-- The units that write a text. -/
def ofString (s : String) : Str := ⟨s.toList.flatMap unitsOf⟩

instance : Coe String Str := ⟨ofString⟩

/-- Whether `u` is the first half of a pair. -/
def isHigh (u : UInt16) : Bool := 0xd800 <= u.toNat && u.toNat < 0xdc00

/-- Whether `u` is the second half of a pair. -/
def isLow (u : UInt16) : Bool := 0xdc00 <= u.toNat && u.toNat < 0xe000

/-- The character that a pair of halves writes. -/
def join (high low : UInt16) : Char :=
  Char.ofNat (0x10000 + (high.toNat - 0xd800) * 0x400 + (low.toNat - 0xdc00))

/-- The text that units write, or the offset in bytes of the first half without its partner;
`offset` bytes were written before. -/
def decode (offset : Nat) : List UInt16 → Except Nat (List Char)
  | [] => .ok []
  | [u] =>
    if isHigh u || isLow u then .error offset else .ok [Char.ofNat u.toNat]
  | u :: v :: rest =>
    if isHigh u then
      if isLow v then (decode (offset + 4) rest).map (join u v :: ·) else .error offset
    else if isLow u then .error offset
    else
      let c := Char.ofNat u.toNat
      (decode (offset + c.utf8Size) (v :: rest)).map (c :: ·)

/-- The text that a script string writes, if no half of a pair stands alone; else the offset in
bytes of the first that does. -/
def toString? (s : Str) : Except Nat String := (decode 0 s.units).map String.ofList

/-- The text of a script string, with U+FFFD for each half that stands alone. -/
def toStringLossy (s : Str) : String :=
  String.ofList (go s.units)
where
  go : List UInt16 → List Char
    | [] => []
    | [u] => [if isHigh u || isLow u then '\uFFFD' else Char.ofNat u.toNat]
    | u :: v :: rest =>
      if isHigh u && isLow v then join u v :: go rest
      else (if isHigh u || isLow u then '\uFFFD' else Char.ofNat u.toNat) :: go (v :: rest)

/-! ### Operations -/

/-- The empty string. -/
def empty : Str := ⟨[]⟩

/-- The number of units. -/
def length (s : Str) : Nat := s.units.length

instance : Append Str := ⟨fun a b => ⟨a.units ++ b.units⟩⟩

@[simp] theorem units_append (a b : Str) : (a ++ b).units = a.units ++ b.units := rfl

/-- The strings of `parts` with `sep` between neighbours. -/
def intercalate (sep : Str) (parts : List Str) : Str :=
  ⟨sep.units.intercalate (parts.map units)⟩

/-- Order by units, as script comparison sorts strings. -/
def less (a b : Str) : Bool := go a.units b.units
where
  go : List UInt16 → List UInt16 → Bool
    | [], [] => false
    | [], _ :: _ => true
    | _ :: _, [] => false
    | x :: xs, y :: ys => if x < y then true else if y < x then false else go xs ys

/-- The part of `s` from unit `start` to before unit `stop`. -/
def slice (s : Str) (start stop : Nat) : Str := ⟨(s.units.drop start).take (stop - start)⟩

/-- Where `needle` first occurs in `s` at or after unit `start`. -/
def indexOf? (s needle : Str) (start : Nat) : Option Nat :=
  go (s.units.drop start) start
where
  go : List UInt16 → Nat → Option Nat
    | [], i => if needle.units.isEmpty then some i else none
    | u :: rest, i => if needle.units.isPrefixOf (u :: rest) then some i else go rest (i + 1)

/-- The pieces of `s` that a reader of characters sees: pairs stay together. -/
def codePoints (s : Str) : List Str := go s.units
where
  go : List UInt16 → List Str
    | [] => []
    | [u] => [⟨[u]⟩]
    | u :: v :: rest =>
      if isHigh u && isLow v then ⟨[u, v]⟩ :: go rest else ⟨[u]⟩ :: go (v :: rest)

/-- The code points of `s`; a half that stands alone is one. -/
def points (s : Str) : List Nat := s.codePoints.map fun c =>
  match c.units with
  | [u, v] => 0x10000 + (u.toNat - 0xd800) * 0x400 + (v.toNat - 0xdc00)
  | us => (us.headD 0).toNat

/-- The string of code points. -/
def ofPoints (points : List Nat) : Str :=
  ⟨points.flatMap fun n =>
    if n < 0x10000 then [n.toUInt16]
    else [(0xd800 + (n - 0x10000) / 0x400).toUInt16, (0xdc00 + (n - 0x10000) % 0x400).toUInt16]⟩

/-- Whether a string has no half that stands alone. -/
def isWellFormed (s : Str) : Bool := s.toString?.isOk

/-- The decimal form of a number. -/
def ofNat (n : Nat) : Str := ofString (toString n)

/-- The number whose decimal form `s` is, if it is one below 2^32 - 1. -/
def arrayIndex? (s : Str) : Option Nat :=
  if 10 < s.units.length then none
  else
    match digits s.units 0 with
    | some n => if n < 0xffffffff ∧ ofNat n = s then some n else none
    | none => none
where
  digits : List UInt16 → Nat → Option Nat
    | [], n => some n
    | u :: rest, n =>
      if 0x30 <= u.toNat && u.toNat <= 0x39 then digits rest (n * 10 + (u.toNat - 0x30)) else none

theorem ofNat_of_arrayIndex? {s : Str} {n : Nat} (h : s.arrayIndex? = some n) : ofNat n = s := by
  unfold arrayIndex? at h
  split at h
  · exact absurd h (by simp)
  · split at h
    · split at h
      next hn => exact (Option.some.inj h) ▸ hn.2
      next => exact absurd h (by simp)
    · exact absurd h (by simp)

/-- The units of `s` before the first NUL: what is left of a name that is passed as a
NUL-terminated text. -/
def beforeNul (s : Str) : Str := ⟨s.units.takeWhile (· != 0)⟩

/-! ### The way there and back -/

theorem not_isHigh_of_char {c : Char} (h : c.toNat < 0x10000) :
    isHigh c.toNat.toUInt16 = false ∧ isLow c.toNat.toUInt16 = false := by
  have hv := c.valid
  have hm : c.toNat.toUInt16.toNat = c.toNat := by
    simp only [Nat.toUInt16, UInt16.toNat_ofNat']
    omega
  simp only [isHigh, isLow, hm]
  simp only [UInt32.isValidChar, Nat.isValidChar] at hv
  change c.toNat < 0xd800 ∨ 0xdfff < c.toNat ∧ c.toNat < 0x110000 at hv
  constructor <;> (rw [Bool.and_eq_false_iff]; simp only [decide_eq_false_iff_not]; omega)

theorem ofNat_toUInt16 {c : Char} (h : c.toNat < 0x10000) :
    Char.ofNat c.toNat.toUInt16.toNat = c := by
  have hm : c.toNat.toUInt16.toNat = c.toNat := by
    simp only [Nat.toUInt16, UInt16.toNat_ofNat']
    omega
  rw [hm, Char.ofNat_toNat]

theorem decode_unitsOf (c : Char) (offset : Nat) (rest : List UInt16) :
    ∃ next, decode offset (unitsOf c ++ rest) = (decode next rest).map (c :: ·) := by
  unfold unitsOf
  split
  next h =>
    obtain ⟨h1, h2⟩ := not_isHigh_of_char h
    have h3 := ofNat_toUInt16 h
    generalize c.toNat.toUInt16 = u at h1 h2 h3
    cases rest with
    | nil => exact ⟨0, by simp [decode, h1, h2, h3, Except.map]⟩
    | cons v rest => exact ⟨offset + c.utf8Size, by simp [decode, h1, h2, h3]⟩
  next h =>
    have hv := c.valid
    change c.toNat < 0xd800 ∨ 0xdfff < c.toNat ∧ c.toNat < 0x110000 at hv
    generalize hk : c.toNat - 0x10000 = k
    have hk' : k < 0x100000 := by omega
    have e1 : (0xd800 + k / 0x400).toUInt16.toNat = 0xd800 + k / 0x400 := by
      simp only [Nat.toUInt16, UInt16.toNat_ofNat']; omega
    have e2 : (0xdc00 + k % 0x400).toUInt16.toNat = 0xdc00 + k % 0x400 := by
      simp only [Nat.toUInt16, UInt16.toNat_ofNat']; omega
    have h1 : isHigh (0xd800 + k / 0x400).toUInt16 = true := by
      simp only [isHigh, e1, Bool.and_eq_true, decide_eq_true_eq]; omega
    have h2 : isLow (0xdc00 + k % 0x400).toUInt16 = true := by
      simp only [isLow, e2, Bool.and_eq_true, decide_eq_true_eq]; omega
    have h3 : join (0xd800 + k / 0x400).toUInt16 (0xdc00 + k % 0x400).toUInt16 = c := by
      simp only [join, e1, e2]
      have : 0x10000 + (0xd800 + k / 0x400 - 0xd800) * 0x400 + (0xdc00 + k % 0x400 - 0xdc00)
          = c.toNat := by omega
      rw [this, Char.ofNat_toNat]
    generalize (0xd800 + k / 0x400).toUInt16 = u at h1 h3
    generalize (0xdc00 + k % 0x400).toUInt16 = v at h2 h3
    exact ⟨offset + 4, by simp [decode, h1, h2, h3]⟩

theorem decode_flatMap (cs : List Char) (offset : Nat) :
    decode offset (cs.flatMap unitsOf) = .ok cs := by
  induction cs generalizing offset with
  | nil => rfl
  | cons c cs ih =>
    obtain ⟨next, h⟩ := decode_unitsOf c offset (cs.flatMap unitsOf)
    rw [List.flatMap_cons, h, ih]
    rfl

/-- Every text survives the way to units and back. -/
@[simp] theorem toString?_ofString (s : String) : (ofString s).toString? = .ok s := by
  simp [toString?, ofString, decode_flatMap, Except.map]

theorem go_of_decode {offset : Nat} {us : List UInt16} {cs : List Char}
    (h : decode offset us = .ok cs) : toStringLossy.go us = cs := by
  have hmap {r : Except Nat (List Char)} {c : Char} {cs : List Char} (h : r.map (c :: ·) = .ok cs) :
      ∃ cs', r = .ok cs' ∧ cs = c :: cs' := by
    cases r with
    | error e => cases h
    | ok cs' => exact ⟨cs', rfl, (Except.ok.inj h).symm⟩
  induction offset, us using decode.induct generalizing cs with
  | case1 offset =>
    cases h
    rfl
  | case2 offset u hhalf =>
    rw [decode, if_pos hhalf] at h
    cases h
  | case3 offset u hhalf =>
    rw [decode, if_neg hhalf] at h
    cases h
    rw [toStringLossy.go, if_neg hhalf]
  | case4 offset u v rest hhigh hlow ih =>
    rw [decode, if_pos hhigh, if_pos hlow] at h
    obtain ⟨cs', hcs, rfl⟩ := hmap h
    simp [toStringLossy.go, hhigh, hlow, ih hcs]
  | case5 offset u v rest hhigh hlow =>
    rw [decode, if_pos hhigh, if_neg hlow] at h
    cases h
  | case6 offset u v rest hhigh hlow =>
    rw [decode, if_neg hhigh, if_pos hlow] at h
    cases h
  | case7 offset u v rest hhigh hlow c =>
    rename_i ih
    rw [decode, if_neg hhigh, if_neg hlow] at h
    obtain ⟨cs', hcs, rfl⟩ := hmap h
    simp [toStringLossy.go, hhigh, hlow, ih hcs]

/-- A string that writes a text is read without a replacement. -/
theorem toStringLossy_of_toString? {s : Str} {t : String} (h : s.toString? = .ok t) :
    s.toStringLossy = t := by
  rw [toString?] at h
  cases hdecode : decode 0 s.units with
  | error e =>
    rw [hdecode] at h
    cases h
  | ok cs =>
    rw [hdecode] at h
    obtain rfl : String.ofList cs = t := Except.ok.inj h
    rw [toStringLossy, go_of_decode hdecode]

/-- Different texts have different units. -/
theorem ofString_injective {s t : String} (h : ofString s = ofString t) : s = t := by
  have := congrArg toString? h
  simpa using this

end Str

end ScriptBridge
