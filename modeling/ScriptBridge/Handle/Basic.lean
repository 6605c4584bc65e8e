import ScriptBridge.Text.Hex

/-!
# Handles

A handle is one 64-bit word that names a value: the tag of its bridge in the top sixteen bits,
the generation of its slot in the next sixteen, and the index of the slot below.  Tags count up
and leave out zero, so no handle that a bridge gives out is the null handle.
-/

namespace ScriptBridge

/-- The name of a value that a bridge keeps for its host. -/
structure Handle where
  /-- The word that the host stores. -/
  raw : UInt64
deriving DecidableEq, Repr, Inhabited

namespace Handle

/-- The handle that no bridge gives out. -/
def null : Handle := ⟨0⟩

/-- The handle with the given parts. -/
def make (tag generation : UInt16) (index : UInt32) : Handle :=
  ⟨tag.toUInt64 <<< 48 ||| generation.toUInt64 <<< 32 ||| index.toUInt64⟩

/-- The tag of the bridge that gave the handle out. -/
def tag (h : Handle) : UInt16 := (h.raw >>> 48).toUInt16

/-- The generation of the slot when the handle was given out. -/
def generation (h : Handle) : UInt16 := (h.raw >>> 32).toUInt16

/-- The index of the slot. -/
def index (h : Handle) : UInt32 := h.raw.toUInt32

/-- Whether this is the null handle. -/
def isNull (h : Handle) : Bool := h.raw == 0

/-- `0x` and sixteen digits. -/
def text (h : Handle) : String := "0x" ++ Hex.ofNat 16 h.raw.toNat

end Handle

/-- The state that bridge tags are drawn from: the tag to try next. -/
structure TagSource where
  next : UInt16 := 1
deriving DecidableEq, Repr

/-- Draws a tag: the next one, or the one after it when that would be zero. -/
def TagSource.draw (s : TagSource) : UInt16 × TagSource :=
  if s.next = 0 then (1, ⟨2⟩) else (s.next, ⟨s.next + 1⟩)

end ScriptBridge
