/-!
# Hexadecimal digits

Bytes and words written in base sixteen with small letters, and the readers of both.
`Hex.decode_encode` says that bytes are read back as they were written.

The weights of digits are powers.  Here, and in what imports this, the powers `m ^ n` of integers
and natural numbers are those of the language itself, whatever else a module imports.
-/

-- for the power of two numerals it is the default instance that decides
attribute [default_instance 20000] instPowNat

attribute [instance (high)] instPowNat

namespace ScriptBridge

namespace Hex

/-- The digit for a number below sixteen. -/
def digit (n : Nat) : Char := if n < 10 then Char.ofNat (48 + n) else Char.ofNat (87 + n)

/-- The value of a digit of either case. -/
def value? (c : Char) : Option Nat :=
  let n := c.toNat
  if 48 <= n && n <= 57 then some (n - 48)
  else if 97 <= n && n <= 102 then some (n - 87)
  else if 65 <= n && n <= 70 then some (n - 55)
  else none

/-- Two digits a byte. -/
def encode : List UInt8 → List Char
  | [] => []
  | b :: rest => digit (b.toNat / 16) :: digit (b.toNat % 16) :: encode rest

/-- The bytes that pairs of digits write. -/
def decode : List Char → Option (List UInt8)
  | [] => some []
  | a :: b :: rest => do
    let hi ← value? a
    let lo ← value? b
    let tail ← decode rest
    pure ((16 * hi + lo).toUInt8 :: tail)
  | [_] => none

/-- The text of some bytes. -/
def ofBytes (bytes : List UInt8) : String := String.ofList (encode bytes)

/-- The bytes that a text writes. -/
def toBytes? (s : String) : Option (List UInt8) := decode s.toList

/-- The last `width` digits of a number. -/
def fixed (width n : Nat) : List Char :=
  match width with
  | 0 => []
  | width + 1 => fixed width (n / 16) ++ [digit (n % 16)]

/-- A number as `width` digits. -/
def ofNat (width n : Nat) : String := String.ofList (fixed width n)

/-- The number that digits write. -/
def toNat? (s : String) : Option Nat :=
  if s.isEmpty then none
  else s.toList.foldl (fun acc c => do pure (16 * (← acc) + (← value? c))) (some 0)

theorem value?_digit {n : Nat} (h : n < 16) : value? (digit n) = some n := by
  have : ∀ m : Fin 16, value? (digit m.val) = some m.val := by decide
  exact this ⟨n, h⟩

/-- Bytes are read back as they were written. -/
@[simp] theorem decode_encode (bytes : List UInt8) : decode (encode bytes) = some bytes := by
  induction bytes with
  | nil => rfl
  | cons b rest ih =>
    have h1 : b.toNat / 16 < 16 := by have := b.toNat_lt; omega
    have h2 : b.toNat % 16 < 16 := Nat.mod_lt _ (by decide)
    have h3 : (16 * (b.toNat / 16) + b.toNat % 16).toUInt8 = b := by
      rw [Nat.div_add_mod]
      exact UInt8.ofNat_toNat
    simp only [encode, decode, value?_digit h1, value?_digit h2, ih, Option.bind_eq_bind,
      Option.bind_some, h3, Option.pure_def]

end Hex

end ScriptBridge
