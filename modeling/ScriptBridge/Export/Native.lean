import ScriptBridge.Bridge.Basic
import ScriptBridge.Json.Printer
import ScriptBridge.Json.Reader

/-!
# Native host functions

A native function gets its arguments as the text of a JSON array, and returns a status and bytes:
JSON text if the status is zero, and else a message.
-/

namespace ScriptBridge

/-- What a native function returns. -/
structure NativeReturn where
  status : Int
  /-- The bytes that it leaves; none if it leaves no buffer. -/
  output : List UInt8 := []

/-- What a call of a native function does with the text of its arguments. -/
abbrev NativeFunction := String → NativeReturn

/-- A native function with a state of its own: what it does at each call, by the number of earlier
calls of it. -/
abbrev NativeCallback := Nat → NativeFunction

/-- One that does the same at each call. -/
instance : Coe NativeFunction NativeCallback := ⟨fun f _ => f⟩

/-- What a return means to the script that called the function `name`. -/
def NativeReturn.outcome (name : String) (r : NativeReturn) : Except String Json :=
  if r.status ≠ 0 then
    let message := Utf8.lossy r.output
    .error (if message.isEmpty then s!"host function '{name}' failed with status {r.status}"
      else message)
  else if r.output.isEmpty then .ok .null
  else
    match Json.readBytes r.output with
    | .ok j => .ok j
    | .error e => .error s!"host function '{name}' returned invalid JSON: {e.message}"

/-- The host function that calls a native function. -/
def NativeCallback.toHost (name : String) (f : NativeCallback) : HostFunction := fun calls args =>
  (f calls (Json.array args).compact).outcome name

end ScriptBridge
