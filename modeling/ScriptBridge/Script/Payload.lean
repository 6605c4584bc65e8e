import ScriptBridge.Envelope.Basic

/-!
# Payloads

The payload of a compiled unit: its kind, the name of its record, and its text.  A payload starts
with words of eight bytes that say what it is and where its parts lie; each part is text with a NUL
behind it, so that a reader can use it in its place.
-/

namespace ScriptBridge.Script

/-- A compiled unit as the engine reads it. -/
structure Payload where
  kind : UnitKind
  /-- The name that the engine knows the unit by. -/
  name : String
  source : String
deriving DecidableEq, Repr

namespace Payload

/-- The first word of every payload. -/
def mark : Nat := 0x746e696c70697263

/-- A text as a part of a payload. -/
def part (s : String) : List UInt8 := Utf8.encode s ++ [0]

/-- The place of the first part. -/
def start : Nat := 56

/-- The words in front of the parts: the mark, the kind, the place and the length of each part, and
the length of the whole. -/
def words (p : Payload) : List Nat :=
  let name := (part p.name).length
  let source := (part p.source).length
  [mark, p.kind.toByte.toNat, start, name, start + name, source, start + name + source]

/-- The bytes of a payload. -/
def encode (p : Payload) : List UInt8 :=
  p.words.flatMap (Envelope.littleEndian 8) ++ part p.name ++ part p.source

/-- The payload that bytes write, if they write one. -/
def decode? (bytes : List UInt8) : Option Payload := do
  let word (i : Nat) : Nat := Envelope.ofLittleEndian ((bytes.drop (8 * i)).take 8)
  let text (i : Nat) : Option String :=
    Utf8.decode? ((bytes.drop (word i)).take (word (i + 1))).dropLast
  let kind ← UnitKind.ofByte? (word 1).toUInt8
  let p : Payload := { kind, name := ← text 2, source := ← text 4 }
  if p.encode = bytes then some p else none

end Payload

end ScriptBridge.Script
