/-!
# Reading bytes as UTF-8

`Utf8.decode?` reads a text that is well formed throughout.  Where it is not, `Utf8.fault?` says
what is wrong with the first bad place, and `Utf8.lossy` reads on with one U+FFFD for each bad
place.  A bad place is the longest start of a character that cannot go on, or a single byte that
starts none.
-/

namespace ScriptBridge

/-- What is wrong with the first place that is not UTF-8. -/
inductive Utf8Fault
  /-- `length` bytes from `offset` on start no character. -/
  | malformed (offset length : Nat)
  /-- The bytes end inside the character that starts at `offset`. -/
  | cutShort (offset : Nat)
deriving DecidableEq, Repr

/-- The wording of a fault. -/
def Utf8Fault.message : Utf8Fault → String
  | .malformed offset length =>
    s!"invalid utf-8 sequence of {length} bytes from index {offset}"
  | .cutShort offset => s!"incomplete utf-8 byte sequence from index {offset}"

namespace Utf8

/-- What stands at the front of some bytes. -/
inductive Head
  | char (c : Char) (length : Nat)
  | malformed (length : Nat)
  | cutShort

/-- Whether `b` continues a character. -/
def isTail (b : UInt8) : Bool := 0x80 <= b.toNat && b.toNat < 0xc0

/-- Whether `b` may be the second byte after the first byte `a` of a longer character. -/
def isSecond (a b : UInt8) : Bool :=
  let lo := if a == 0xe0 then 0xa0 else if a == 0xf0 then 0x90 else 0x80
  let hi := if a == 0xed then 0x9f else if a == 0xf4 then 0x8f else 0xbf
  lo <= b.toNat && b.toNat <= hi

/-- The six bits that a continuation byte carries. -/
def bits (b : UInt8) : Nat := b.toNat % 0x40

/-- Reads the front of `a :: rest`. -/
def head (a : UInt8) (rest : List UInt8) : Head :=
  let n := a.toNat
  if n < 0x80 then .char (Char.ofNat n) 1
  else if n < 0xc2 || 0xf4 < n then .malformed 1
  else if n < 0xe0 then
    match rest with
    | [] => .cutShort
    | b :: _ => if isTail b then .char (Char.ofNat ((n % 0x20) * 0x40 + bits b)) 2 else .malformed 1
  else if n < 0xf0 then
    match rest with
    | [] => .cutShort
    | b :: rest =>
      if !isSecond a b then .malformed 1
      else
        match rest with
        | [] => .cutShort
        | c :: _ =>
          if isTail c then .char (Char.ofNat (((n % 0x10) * 0x40 + bits b) * 0x40 + bits c)) 3
          else .malformed 2
  else
    match rest with
    | [] => .cutShort
    | b :: rest =>
      if !isSecond a b then .malformed 1
      else
        match rest with
        | [] => .cutShort
        | c :: rest =>
          if !isTail c then .malformed 2
          else
            match rest with
            | [] => .cutShort
            | d :: _ =>
              if isTail d then
                .char (Char.ofNat ((((n % 8) * 0x40 + bits b) * 0x40 + bits c) * 0x40 + bits d)) 4
              else .malformed 3

/-- What is wrong with the first bad place, if there is one; `skip` bytes of the present
character are still to be passed over. -/
def faultFrom (offset skip : Nat) : List UInt8 → Option Utf8Fault
  | [] => none
  | a :: rest =>
    match skip with
    | skip + 1 => faultFrom (offset + 1) skip rest
    | 0 =>
      match head a rest with
      | .char _ length => faultFrom (offset + 1) (length - 1) rest
      | .malformed length => some (.malformed offset length)
      | .cutShort => some (.cutShort offset)

/-- What is wrong with the first place of `bytes` that is not UTF-8, if there is one. -/
def fault? (bytes : List UInt8) : Option Utf8Fault := faultFrom 0 0 bytes

/-- The characters of `bytes`, with U+FFFD for each bad place. -/
def lossyFrom (skip : Nat) : List UInt8 → List Char
  | [] => []
  | a :: rest =>
    match skip with
    | skip + 1 => lossyFrom skip rest
    | 0 =>
      match head a rest with
      | .char c length => c :: lossyFrom (length - 1) rest
      | .malformed length => '\uFFFD' :: lossyFrom (length - 1) rest
      | .cutShort => ['\uFFFD']

/-- The text of `bytes`, with U+FFFD for each bad place. -/
def lossy (bytes : List UInt8) : String := String.ofList (lossyFrom 0 bytes)

/-- The text that `bytes` write, if they are UTF-8 throughout. -/
def decode? (bytes : List UInt8) : Option String := String.fromUTF8? (ByteArray.mk bytes.toArray)

/-- The bytes of a text. -/
def encode (s : String) : List UInt8 := s.toUTF8.data.toList

/-- What is written is read back. -/
@[simp] theorem decode?_encode (s : String) : decode? (encode s) = some s := by
  have h : ByteArray.mk (encode s).toArray = s.toByteArray := by simp [encode, String.toUTF8]
  rw [decode?, h, String.fromUTF8?, dif_pos s.isValidUTF8]
  rfl

/-- Only what is written is read. -/
theorem encode_of_decode? {bytes : List UInt8} {s : String} (h : decode? bytes = some s) :
    encode s = bytes := by
  simp only [decode?, String.fromUTF8?] at h
  split at h
  · simp only [Option.some.injEq] at h
    subst h
    simp [encode, String.fromUTF8, String.toUTF8]
  · cases h

/-- The text of `bytes`, or the wording of what is wrong with them. -/
def decode (bytes : List UInt8) : Except String String :=
  match decode? bytes with
  | some s => .ok s
  | none => .error (((fault? bytes).map Utf8Fault.message).getD "invalid utf-8 sequence")

end Utf8

end ScriptBridge
