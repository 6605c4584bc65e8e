import ScriptBridge.Digest.Sha256
import ScriptBridge.Text.Utf8

/-!
# Envelopes

A compiled unit travels as one blob: four bytes that every blob starts with, the version of this
layout, the kind of the unit, the name of the engine that wrote the payload, the name of the
unit, the length and the digest of the payload, and the payload itself.  `encodeWith` writes a
blob and `decodeWith` reads one, over any digest function; `encode` and `decode` use SHA-256.
-/

namespace ScriptBridge

/-- Whether a unit is a script, whose evaluation yields a value, or a module. -/
inductive UnitKind
  | script
  | module
deriving DecidableEq, Repr, Inhabited

namespace UnitKind

/-- The kind that a flag asks for. -/
def ofFlag (isModule : Bool) : UnitKind := if isModule then .module else .script

/-- The byte that stands for a kind. -/
def toByte : UnitKind → UInt8
  | .script => 0
  | .module => 1

/-- The kind that a byte stands for. -/
def ofByte? (b : UInt8) : Option UnitKind :=
  if b = 0 then some .script else if b = 1 then some .module else none

/-- The word for a kind. -/
def text : UnitKind → String
  | .script => "script"
  | .module => "module"

end UnitKind

/-- The bytes that every blob starts with: `QJSB`. -/
def blobMagic : List UInt8 := [0x51, 0x4a, 0x53, 0x42]

/-- The version of the layout. -/
def layoutVersion : UInt8 := 1

/-- The name of the engine that writes and reads the payloads. -/
def engineTag : String := "quickjs-ng/rquickjs-0.9"

/-- Why a blob is refused. -/
inductive BlobFault
  /-- A field starts at `offset`, and `needed` of its bytes are missing. -/
  | truncated (offset needed : Nat)
  | badMagic
  | unsupportedLayout (version : UInt8)
  | unknownKind (byte : UInt8)
  | foreignEngine (found : String)
  /-- A name is not UTF-8. -/
  | badName
  | wrongLength (declared actual : Nat)
  | wrongDigest
deriving DecidableEq, Repr

/-- The wording of a fault. -/
def BlobFault.message : BlobFault → String
  | .truncated offset needed =>
    s!"blob truncated at offset {offset}: {needed} more bytes needed"
  | .badMagic => "not a qjsbridge bytecode blob"
  | .unsupportedLayout version => s!"unsupported envelope format {version.toNat}"
  | .unknownKind byte => s!"unknown unit kind {byte.toNat}"
  | .foreignEngine found => s!"compiled by '{found}', this build reads '{engineTag}'"
  | .badName => "unit name is not valid UTF-8"
  | .wrongLength declared actual =>
    s!"payload length {declared} does not match the {actual} bytes present"
  | .wrongDigest => "payload digest mismatch"

/-- What an envelope says about its payload. -/
structure UnitHeader where
  name : String
  kind : UnitKind
  engine : String
  payloadLength : Nat
  digest : List UInt8
deriving DecidableEq, Repr

namespace Envelope

/-! ### Writing -/

/-- The lowest `width` bytes of a number, the lowest first. -/
def littleEndian (width n : Nat) : List UInt8 :=
  match width with
  | 0 => []
  | width + 1 => n.toUInt8 :: littleEndian width (n / 256)

/-- The part of a blob before the length of its payload. -/
def preamble (kind : UnitKind) (name : String) : List UInt8 :=
  let tag := Utf8.encode engineTag
  let bytes := Utf8.encode name
  blobMagic ++ [layoutVersion, kind.toByte, tag.length.toUInt8] ++ tag ++
    littleEndian 2 bytes.length ++ bytes

/-- The blob of a unit, under the given digest function. -/
def encodeWith (digest : DigestFunction) (kind : UnitKind) (name : String)
    (payload : List UInt8) : List UInt8 :=
  preamble kind name ++ littleEndian 4 payload.length ++ (digest payload).toList ++ payload

/-- The blob of a unit. -/
def encode : UnitKind → String → List UInt8 → List UInt8 := encodeWith Sha256.digest

/-! ### Reading -/

/-- The number that bytes write, the lowest first. -/
def ofLittleEndian : List UInt8 → Nat
  | [] => 0
  | b :: rest => b.toNat + 256 * ofLittleEndian rest

/-- What is left of a blob, and where that starts. -/
structure Cursor where
  offset : Nat
  rest : List UInt8

/-- The next `n` bytes. -/
def Cursor.take (c : Cursor) (n : Nat) : Except BlobFault (List UInt8 × Cursor) :=
  if c.rest.length < n then .error (.truncated c.offset (n - c.rest.length))
  else .ok (c.rest.take n, ⟨c.offset + n, c.rest.drop n⟩)

/-- The next `n` bytes as a name. -/
def Cursor.takeName (c : Cursor) (n : Nat) : Except BlobFault (String × Cursor) := do
  let (bytes, c) ← c.take n
  match Utf8.decode? bytes with
  | some s => .ok (s, c)
  | none => .error .badName

/-- The kind of the unit, and the length of the name of the engine. -/
def Cursor.takeKind (c : Cursor) : Except BlobFault ((UnitKind × Nat) × Cursor) := do
  let (fixed, next) ← c.take 3
  match fixed with
  | [version, kindByte, tagLength] =>
    if version ≠ layoutVersion then .error (.unsupportedLayout version)
    else
      match UnitKind.ofByte? kindByte with
      | some kind => .ok ((kind, tagLength.toNat), next)
      | none => .error (.unknownKind kindByte)
  | _ => .error (.truncated c.offset 3)

/-- The name of the engine, `n` bytes long, which must be that of this one. -/
def Cursor.takeEngine (c : Cursor) (n : Nat) : Except BlobFault (String × Cursor) := do
  let (tag, next) ← c.takeName n
  if tag ≠ engineTag then .error (.foreignEngine tag) else .ok (tag, next)

/-- The name of the unit, behind its length. -/
def Cursor.takeUnitName (c : Cursor) : Except BlobFault (String × Cursor) := do
  let (length, next) ← c.take 2
  next.takeName (ofLittleEndian length)

/-- The length of the payload, and its digest. -/
def Cursor.takeSum (c : Cursor) : Except BlobFault ((Nat × List UInt8) × Cursor) := do
  let (length, next) ← c.take 4
  let (sum, next) ← next.take digestLength
  .ok ((ofLittleEndian length, sum), next)

/-- Reads a blob under the given digest function: its header and its payload. -/
def decodeWith (digest : DigestFunction) (blob : List UInt8) :
    Except BlobFault (UnitHeader × List UInt8) := do
  if blob.take 4 ≠ blobMagic then .error .badMagic
  else
    let ((kind, tagLength), c) ← (⟨4, blob.drop 4⟩ : Cursor).takeKind
    let (tag, c) ← c.takeEngine tagLength
    let (name, c) ← c.takeUnitName
    let ((declared, sum), c) ← c.takeSum
    if c.rest.length ≠ declared then .error (.wrongLength declared c.rest.length)
    else if (digest c.rest).toList ≠ sum then .error .wrongDigest
    else .ok (⟨name, kind, tag, declared, sum⟩, c.rest)

/-- Reads a blob: its header and its payload. -/
def decode : List UInt8 → Except BlobFault (UnitHeader × List UInt8) := decodeWith Sha256.digest

end Envelope

end ScriptBridge
