import ScriptBridge.Error
import ScriptBridge.Script.Convert

/-!
# Values across the boundary

The host sees values as JSON, as texts and as numbers.  Not all of them can cross: text with half a
surrogate pair cannot, and this is a fault of the engine (`EngineFault`) and no exception.
`Crossing.orThrow` makes an exception of a fault where a script is waiting for the result.
-/

namespace ScriptBridge.Script

/-- A procedure that may also fail with a fault of the engine. -/
abbrev Crossing (α : Type) := ExceptT EngineFault Proc α

namespace Crossing

variable {α : Type}

/-- Runs a procedure, which throws as it did before. -/
def ofProc (p : Proc α) : Crossing α := ExceptT.mk do return .ok (← p)

/-- Fails with a fault. -/
def fault (f : EngineFault) : Crossing α := ExceptT.mk (pure (.error f))

/-- Runs a crossing for a script: a fault becomes a type error. -/
def orThrow (p : Crossing α) : Proc α := do
  match ← p.run with
  | .ok a => return a
  | .error f => Proc.throwType f.message

end Crossing

namespace Exchange

open Proc

/-! ### Texts -/

/-- A script string as a text. -/
def textOf (s : Str) : Crossing String :=
  match s.toString? with
  | .ok t => pure t
  | .error offset => Crossing.fault (.loneSurrogate offset)

/-- The text of a value. -/
def coerceText (v : Value) : Crossing String := do textOf (← Crossing.ofProc (toStr v))

/-- The key that the host names. -/
def keyOf (name : String) : Key := .ofStr (Str.ofString name)

/-! ### Kinds -/

/-- The kind of a value. -/
def kindOf (v : Value) : Proc ValueKind := do
  match v with
  | .undefined => return .undefined
  | .null => return .null
  | .bool _ => return .boolean
  | .int _ | .float _ => return .number
  | .string _ => return .string
  | .symbol _ => return .symbol
  | .bigint _ => return .bigint
  | .object r =>
    let o ← object r
    return match o.kind with
      | .array .. => .array
      | .promise _ => .promise
      | _ => if o.isCallable then .function else .object

/-- The engine's word for the kind of a value. -/
def engineWord (v : Value) : Proc String := do
  match v with
  | .bool _ => return "bool"
  | .int _ => return "int"
  | .float _ => return "float"
  | .bigint _ => return "big_int"
  | .object r =>
    match (← object r).kind with
    | .error => return "exception"
    | _ => return (← kindOf v).text
  | v => return (← kindOf v).text

/-! ### JSON -/

/-- The nesting of values that become JSON: a value at depth 129 is refused. -/
def maxDepth : Nat := 128

/-- A number that the host gives: an integer if it is one, also where it is negative zero. -/
def ofHostFloat (x : Float) : Value :=
  match Value.wholeOfFloat? x with
  | some n => .int (Int32.ofInt n)
  | none => .float x

/-- A number of a JSON value. -/
def ofJsonNumber : JsonNumber → Value
  | .int n => if Value.fits n then .int (Int32.ofInt n) else ofHostFloat (floatOfInt n)
  | .float x => ofHostFloat x

mutual

/-- Makes a value from JSON.  Items and fields are assigned one by one, so that a field
`__proto__` sets the prototype. -/
def ofJson : Json → Proc Value
  | .null => pure .null
  | .bool b => pure (.bool b)
  | .number n => pure (ofJsonNumber n)
  | .string s => pure (.ofString s)
  | .array items => do
    let r ← allocArray []
    ofItems r 0 items
    return .object r
  | .object fields => do
    let r ← allocPlain
    ofFields r fields
    return .object r

/-- Assigns the items of an array. -/
def ofItems (r : Ref) (i : Nat) : List Json → Proc Unit
  | [] => pure ()
  | j :: rest => do
    let v ← ofJson j
    set (.object r) (.index i) v true
    ofItems r (i + 1) rest

/-- Assigns the fields of an object. -/
def ofFields (r : Ref) : List (String × Json) → Proc Unit
  | [] => pure ()
  | (key, j) :: rest => do
    let v ← ofJson j
    set (.object r) (keyOf key) v true
    ofFields r rest

end

/-- The keys that become the fields of a JSON object. -/
def fieldKeys (r : Ref) : Proc (List Key) := do
  return (← enumerableKeys r).filter fun k => k.str?.isSome

/-- A float as JSON: what is not finite is null. -/
def ofFloat (x : Float) : Json := if x.isFinite then .number (.float x) else .null

/-- The JSON form of a value; `room` is the depth that is left.  What has no JSON form is null. -/
def toJsonIn : Nat → Value → Crossing Json
  | 0, _ => Crossing.ofProc (throwNew .rangeError "value is nested too deeply to convert to JSON")
  | room + 1, v =>
    match v with
    | .undefined | .null | .symbol _ | .bigint _ => pure .null
    | .bool b => pure (.bool b)
    | .int n => pure (.ofInt n.toInt)
    | .float x => pure (ofFloat x)
    | .string s => do return .string (← textOf s)
    | .object r => do
      let o ← Crossing.ofProc (object r)
      if o.isCallable then return .null
      match o.kind with
      | .array n _ =>
        let items ← (List.range n).mapM fun i => do
          toJsonIn room (← Crossing.ofProc (getOf r (.index i)))
        return .array items
      | _ =>
        let fields ← (← Crossing.ofProc (fieldKeys r)).mapM fun k => do
          let name ← textOf (k.str?.getD Str.empty).beforeNul
          let item ← Crossing.ofProc (getOf r k)
          return (name, ← toJsonIn room item)
        return .ofFields fields

/-- The JSON form of a value. -/
def toJson (v : Value) : Crossing Json := toJsonIn (maxDepth + 1) v

/-! ### Exceptions -/

/-- The text that a property of an object holds, if it is one that can cross. -/
def textProperty? (r : Ref) (name : String) : Proc (Option String) := do
  match ← attempt (getOf r (Key.ofString name)) with
  | .ok (.string s) => return s.toString?.toOption
  | _ => return none

/-- The text that an error has of the place where it was made, if it is not empty. -/
def stackOf (r : Ref) : Proc (Option String) := do
  match (← object r).kind with
  | .error =>
    match ← attempt (getOf r (Key.ofString "stack")) with
    | .ok .undefined | .ok .null | .error _ => return none
    | .ok v =>
      match ← attempt (coerceText v).run with
      | .ok (.ok text) => return if text.isEmpty then none else some text
      | _ => return none
  | _ => return none

/-- The message of a value whose text could not be had. -/
def unreadable (f : EngineFault) : String :=
  s!"(exception could not be converted to a string: {f.message})"

/-- The text of a thrown value. -/
def thrownText (v : Value) : Proc String := do
  match ← attempt (coerceText v).run with
  | .ok (.ok text) => return text
  | .ok (.error f) => return unreadable f
  | .error _ => return unreadable .refused

/-- Describes a thrown value. -/
def describe (v : Value) : Proc ScriptException := do
  match v with
  | .object r =>
    let name ← textProperty? r "name"
    let stack ← stackOf r
    return { name, message := ← thrownText v, stack }
  | v => return { message := ← thrownText v }

/-! ### Errors for failed host calls -/

/-- Makes the error that scripts get for a failed host call: with whatever the global `Error` makes
at that time. -/
def hostCallError (message : String) : Crossing Value := do
  let ctor ← Crossing.ofProc (getOf Intrinsic.global (Key.ofString "Error"))
  unless ← Crossing.ofProc (isConstructor ctor) do
    Crossing.fault (.conversion (← Crossing.ofProc (engineWord ctor)) "constructor")
  Crossing.ofProc do
    let error ← construct ctor [.ofString message] ctor
    set error (Key.ofString "name") (.ofString hostCallErrorName) true
    return error

end Exchange

end ScriptBridge.Script
