import ScriptBridge.Text.Hex

/-!
# SHA-256

The digest that blobs carry: the message is padded to whole blocks of sixty-four bytes, and each
block is mixed into eight words.
-/

namespace ScriptBridge

/-- The length of a digest in bytes. -/
def digestLength : Nat := 32

/-- A function from messages to digests. -/
abbrev DigestFunction := List UInt8 → Vector UInt8 digestLength

namespace Sha256

/-- The words that the rounds add, one each. -/
def roundConstants : Array UInt32 := #[
  0x428a2f98, 0x71374491, 0xb5c0fbcf, 0xe9b5dba5, 0x3956c25b, 0x59f111f1, 0x923f82a4, 0xab1c5ed5,
  0xd807aa98, 0x12835b01, 0x243185be, 0x550c7dc3, 0x72be5d74, 0x80deb1fe, 0x9bdc06a7, 0xc19bf174,
  0xe49b69c1, 0xefbe4786, 0x0fc19dc6, 0x240ca1cc, 0x2de92c6f, 0x4a7484aa, 0x5cb0a9dc, 0x76f988da,
  0x983e5152, 0xa831c66d, 0xb00327c8, 0xbf597fc7, 0xc6e00bf3, 0xd5a79147, 0x06ca6351, 0x14292967,
  0x27b70a85, 0x2e1b2138, 0x4d2c6dfc, 0x53380d13, 0x650a7354, 0x766a0abb, 0x81c2c92e, 0x92722c85,
  0xa2bfe8a1, 0xa81a664b, 0xc24b8b70, 0xc76c51a3, 0xd192e819, 0xd6990624, 0xf40e3585, 0x106aa070,
  0x19a4c116, 0x1e376c08, 0x2748774c, 0x34b0bcb5, 0x391c0cb3, 0x4ed8aa4a, 0x5b9cca4f, 0x682e6ff3,
  0x748f82ee, 0x78a5636f, 0x84c87814, 0x8cc70208, 0x90befffa, 0xa4506ceb, 0xbef9a3f7, 0xc67178f2]

/-- The eight words that a digest is mixed into. -/
structure State where
  (a b c d e f g h : UInt32)

/-- The words before the first block. -/
def State.initial : State :=
  ⟨0x6a09e667, 0xbb67ae85, 0x3c6ef372, 0xa54ff53a, 0x510e527f, 0x9b05688c, 0x1f83d9ab, 0x5be0cd19⟩

/-- `x` turned right by `n` bits. -/
def rotr (x n : UInt32) : UInt32 := x >>> n ||| x <<< (32 - n)

/-- The bytes of a number, the highest of `width` first. -/
def bigEndian (width n : Nat) : List UInt8 :=
  match width with
  | 0 => []
  | width + 1 => (n / 256 ^ width).toUInt8 :: bigEndian width n

/-- The message with its padding: a one bit, zeros, and its length in bits. -/
def pad (message : List UInt8) : List UInt8 :=
  let n := message.length
  message ++ 0x80 :: List.replicate ((119 - n % 64) % 64) 0 ++ bigEndian 8 (8 * n)

/-- The words that bytes write, four bytes each. -/
def words : List UInt8 → List UInt32
  | a :: b :: c :: d :: rest =>
    (a.toUInt32 <<< 24 ||| b.toUInt32 <<< 16 ||| c.toUInt32 <<< 8 ||| d.toUInt32) :: words rest
  | _ => []

/-- The schedule of a block: its sixteen words and forty-eight more. -/
def schedule (block : List UInt32) : Array UInt32 :=
  (List.range 48).foldl
    (fun w i =>
      let w15 := w.getD (i + 1) 0
      let w2 := w.getD (i + 14) 0
      let s0 := rotr w15 7 ^^^ rotr w15 18 ^^^ w15 >>> 3
      let s1 := rotr w2 17 ^^^ rotr w2 19 ^^^ w2 >>> 10
      w.push (w.getD i 0 + s0 + w.getD (i + 9) 0 + s1))
    block.toArray

/-- One round with word `w` of the schedule and constant `k`. -/
def round (s : State) (w k : UInt32) : State :=
  let s1 := rotr s.e 6 ^^^ rotr s.e 11 ^^^ rotr s.e 25
  let ch := (s.e &&& s.f) ^^^ (~~~s.e &&& s.g)
  let t1 := s.h + s1 + ch + k + w
  let s0 := rotr s.a 2 ^^^ rotr s.a 13 ^^^ rotr s.a 22
  let maj := (s.a &&& s.b) ^^^ (s.a &&& s.c) ^^^ (s.b &&& s.c)
  ⟨t1 + s0 + maj, s.a, s.b, s.c, s.d + t1, s.e, s.f, s.g⟩

/-- Mixes one block of sixteen words in. -/
def mix (s : State) (block : List UInt32) : State :=
  let w := schedule block
  let t := (List.range 64).foldl (fun t i => round t (w.getD i 0) (roundConstants.getD i 0)) s
  ⟨s.a + t.a, s.b + t.b, s.c + t.c, s.d + t.d, s.e + t.e, s.f + t.f, s.g + t.g, s.h + t.h⟩

/-- Mixes `count` blocks in. -/
def mixAll : Nat → State → List UInt32 → State
  | 0, s, _ => s
  | count + 1, s, ws => mixAll count (mix s (ws.take 16)) (ws.drop 16)

/-- The digest of a message. -/
def digest : DigestFunction := fun message =>
  let padded := pad message
  let s := mixAll (padded.length / 64) .initial (words padded)
  let word (x : UInt32) (i : Nat) : UInt8 := (x >>> (24 - 8 * i).toUInt32).toUInt8
  Vector.ofFn fun i =>
    let x := #[s.a, s.b, s.c, s.d, s.e, s.f, s.g, s.h].getD (i.val / 4) 0
    word x (i.val % 4)

end Sha256

end ScriptBridge
