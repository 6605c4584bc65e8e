import ScriptBridge.Export.Status
import ScriptBridge.Text.Utf8

/-!
# What callers pass to exports

Texts and blobs are passed as a pointer and a length, and results are written through pointers that
the caller provides.  Any of these may be null; an export looks at all of them before it touches the
bridge.
-/

namespace ScriptBridge

/-- A buffer that a caller passes. -/
inductive Buffer
  | bytes (content : List UInt8)
  /-- A null pointer with a length. -/
  | null (length : Nat)
deriving DecidableEq, Repr

namespace Buffer

/-- The bytes of a buffer; a null pointer stands for none if its length is zero. -/
def content : Buffer → Except Failure (List UInt8)
  | .bytes b => .ok b
  | .null 0 => .ok []
  | .null (_ + 1) => .error (.argument "null buffer with non-zero length")

/-- The text of a buffer. -/
def text (b : Buffer) : Except Failure String := do
  match Utf8.decode (← b.content) with
  | .ok s => return s
  | .error reason => throw (.argument s!"invalid UTF-8: {reason}")

end Buffer

/-- A place that a result is to be written to. -/
inductive OutPointer
  | valid | null
deriving DecidableEq, Repr

/-- Refuses to go on unless every result has a place. -/
def requireOuts (outs : List OutPointer) : Except Failure Unit :=
  if outs.contains .null then .error (.argument "null output pointer") else .ok ()

/-- The handles that a caller passes as an array. -/
inductive HandleArray
  | handles (items : List Handle)
  /-- A null pointer with a length. -/
  | null (length : Nat)

/-- The handles of an array. -/
def HandleArray.content : HandleArray → Except Failure (List Handle)
  | .handles items => .ok items
  | .null 0 => .ok []
  | .null (_ + 1) => .error (.argument "null argument array with non-zero length")

/-- The size from which on no memory can be had. -/
def memoryLimit : Nat := 2 ^ 47

/-- Whether a caller gets memory of a size. -/
def canAllocate (size : Nat) : Bool := 0 < size && size < memoryLimit

end ScriptBridge
