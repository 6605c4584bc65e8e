/-!
# JSON values

Numbers keep whether they were written as integers, and objects keep their fields sorted by key
with no key twice, so that two objects with the same fields are the same value.
-/

namespace ScriptBridge

/-- A number of a JSON value: an integer that sixty-four bits hold, or a finite float. -/
inductive JsonNumber
  | int (n : Int)
  | float (x : Float)
deriving Inhabited

/-- A JSON value. -/
inductive Json
  | null
  | bool (b : Bool)
  | number (n : JsonNumber)
  | string (s : String)
  | array (items : List Json)
  | object (fields : List (String × Json))
deriving Inhabited

/-- The float nearest to an integer. -/
def floatOfInt : Int → Float
  | .ofNat n => Float.ofScientific n false 0
  | .negSucc n => -Float.ofScientific (n + 1) false 0

namespace JsonNumber

/-- The number as a float. -/
def toFloat : JsonNumber → Float
  | int n => floatOfInt n
  | float x => x

/-- The number, if it is an integer that is not negative. -/
def toNat? : JsonNumber → Option Nat
  | int (.ofNat n) => some n
  | _ => none

end JsonNumber

namespace Json

/-- The integer `n`. -/
def ofInt (n : Int) : Json := .number (.int n)

/-- The number `n`. -/
def ofNat (n : Nat) : Json := .number (.int n)

/-- `fields` with the value of `key` set, in the order of keys. -/
def insertField (key : String) (value : Json) : List (String × Json) → List (String × Json)
  | [] => [(key, value)]
  | (k, v) :: rest =>
    if key < k then (key, value) :: (k, v) :: rest
    else if key = k then (key, value) :: rest
    else (k, v) :: insertField key value rest

/-- The object with the given fields; of two with one key, the later counts. -/
def ofFields (fields : List (String × Json)) : Json :=
  .object (fields.foldl (fun acc f => insertField f.1 f.2 acc) [])

/-- The value of a field, if this is an object that has it. -/
def field? (j : Json) (key : String) : Option Json :=
  match j with
  | .object fields => fields.lookup key
  | _ => none

/-- The text, if this is one. -/
def string? : Json → Option String
  | .string s => some s
  | _ => none

/-- The number, if this is an integer that is not negative. -/
def nat? : Json → Option Nat
  | .number n => n.toNat?
  | _ => none

end Json

end ScriptBridge
