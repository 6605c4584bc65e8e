import ScriptBridge.Decimal.Shortest
import ScriptBridge.Json.Basic
import ScriptBridge.Text.Hex

/-!
# Writing JSON

The compact form: no blanks, fields in the order of the object, integers in decimal, and floats
as the fewest digits that read back, always with a point or an exponent.  In a text, quotes and
backslashes are escaped by a backslash, five control characters by a letter, and the others by
their number.
-/

namespace ScriptBridge

namespace Json

/-- Floats have up to sixteen digits before the point and up to four zeros after it. -/
def floatLayout : Decimal.Layout := ⟨16, -5, ".0"⟩

/-- The text of a number. -/
def numberText : JsonNumber → String
  | .int n => toString n
  | .float x =>
    match Decimal.parts? x with
    | some p => floatLayout.finite true p
    | none => "null"

/-- How a character of a text is written. -/
def escape (c : Char) : List Char :=
  if c = '"' then ['\\', '"']
  else if c = '\\' then ['\\', '\\']
  else if c = '\n' then ['\\', 'n']
  else if c = '\r' then ['\\', 'r']
  else if c = '\t' then ['\\', 't']
  else if c.toNat = 8 then ['\\', 'b']
  else if c.toNat = 12 then ['\\', 'f']
  else if c.toNat < 32 then '\\' :: 'u' :: Hex.fixed 4 c.toNat
  else [c]

/-- A text between quotes. -/
def quote (s : String) : String :=
  "\"" ++ s.foldl (fun acc c => (escape c).foldl String.push acc) "" ++ "\""

mutual

/-- The compact text of a value. -/
def compact : Json → String
  | .null => "null"
  | .bool b => if b then "true" else "false"
  | .number n => numberText n
  | .string s => quote s
  | .array items => "[" ++ ",".intercalate (compactItems items) ++ "]"
  | .object fields => "\x7b" ++ ",".intercalate (compactFields fields) ++ "\x7d"

/-- The compact texts of the items of an array. -/
def compactItems : List Json → List String
  | [] => []
  | item :: rest => compact item :: compactItems rest

/-- The compact texts of the fields of an object. -/
def compactFields : List (String × Json) → List String
  | [] => []
  | (key, value) :: rest => (quote key ++ ":" ++ compact value) :: compactFields rest

end

end Json

end ScriptBridge
