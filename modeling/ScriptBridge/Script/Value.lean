import ScriptBridge.Decimal.Shortest
import ScriptBridge.Json.Basic
import ScriptBridge.Script.Token

/-!
# Values of the script language

A number is kept as an integer of thirty-two bits or as a float, and remembers which; `Value.ofInt`
and `Value.ofFloat` choose.  Objects and symbols are names of things on the heap.  A property key
is an array index, a text or a symbol: `Key.ofStr` finds the index that a text writes, so that one
property has one key.  The keys of private members are like symbols, but no value holds them.
-/

namespace ScriptBridge.Script

/-- The name of an object on the heap. -/
abbrev Ref := Nat

/-- The name of a scope on the heap. -/
abbrev ScopeRef := Nat

/-- A value. -/
inductive Value
  | undefined
  | null
  | bool (b : Bool)
  | int (n : Int32)
  | float (x : Float)
  | string (s : Str)
  | symbol (id : Nat)
  | bigint (n : Int)
  | object (r : Ref)
deriving Inhabited

/-- The key of a property. -/
inductive Key
  | index (n : Nat)
  | text (s : Str)
  | symbol (id : Nat)
  /-- The name of a private member: the symbol that describes it. -/
  | hidden (id : Nat)
deriving DecidableEq, Inhabited

namespace Key

/-- The key that a text writes. -/
def ofStr (s : Str) : Key :=
  match s.arrayIndex? with
  | some n => .index n
  | none => .text s

/-- The key of an item at a place. -/
def ofNat (n : Nat) : Key := if n < 2 ^ 32 - 1 then .index n else .text (Str.ofNat n)

/-- The key with the given name. -/
def ofString (s : String) : Key := ofStr (Str.ofString s)

/-- The text of a key that is no symbol. -/
def str? : Key → Option Str
  | .index n => some (Str.ofNat n)
  | .text s => some s
  | .symbol _ | .hidden _ => none

/-- Whether a key is the name of a private member. -/
def isHidden : Key → Bool
  | .hidden _ => true
  | _ => false

@[simp] theorem str?_ofStr (s : Str) : (ofStr s).str? = some s := by
  unfold ofStr
  split
  next n h => simp [str?, Str.ofNat_of_arrayIndex? h]
  next => rfl

end Key

namespace Value

/-! ### Numbers -/

/-- Whether thirty-two bits hold an integer. -/
def fits (n : Int) : Bool := -(2 ^ 31) ≤ n && n < 2 ^ 31

/-- An integer as a number. -/
def ofInt (n : Int) : Value := if fits n then .int (Int32.ofInt n) else .float (floatOfInt n)

/-- A natural number as a number. -/
def ofNat (n : Nat) : Value := ofInt n

/-- The integer that a float is, if it is one that thirty-two bits hold. -/
def wholeOfFloat? (x : Float) : Option Int :=
  match Decimal.parts? x with
  | none => none
  | some p =>
    let magnitude? : Option Nat :=
      match p.q with
      | .ofNat q => if p.m = 0 then some 0 else if q ≤ 32 then some (p.m * 2 ^ q) else none
      | .negSucc q =>
        let d := 2 ^ (q + 1)
        if p.m % d = 0 then some (p.m / d) else none
    match magnitude? with
    | some m =>
      let n : Int := if p.negative then -m else m
      if fits n then some n else none
    | none => none

/-- A float as a number: an integer if it is one, and not negative zero. -/
def ofFloat (x : Float) : Value :=
  match wholeOfFloat? x with
  | some n => if n == 0 && x.toBits != 0 then .float x else .int (Int32.ofInt n)
  | none => .float x

/-- The float that a number is. -/
def number? : Value → Option Float
  | .int n => some (floatOfInt n.toInt)
  | .float x => some x
  | _ => none

/-- The value that is not a number. -/
def nan : Float := 0.0 / 0.0

/-- Positive infinity. -/
def infinity : Float := 1.0 / 0.0

/-- Numbers have up to twenty-one digits before the point and up to six zeros behind it. -/
def layout : Decimal.Layout := ⟨21, -6, ""⟩

/-- The text of a float. -/
def floatText (x : Float) : String :=
  match Decimal.parts? x with
  | some p => layout.finite false p
  | none => if x.isNaN then "NaN" else if x < 0 then "-Infinity" else "Infinity"

/-- The integer that a finite float is when its fraction is dropped; zero for the others. -/
def truncate (x : Float) : Int :=
  match Decimal.parts? x with
  | none => 0
  | some p =>
    let magnitude : Nat :=
      match p.q with
      | .ofNat q => p.m * 2 ^ q
      | .negSucc q => p.m / 2 ^ (q + 1)
    if p.negative then -magnitude else magnitude

/-- An integer modulo 2^32, between -2^31 and 2^31. -/
def wrap (n : Int) : Int := Int.bmod n (2 ^ 32)

/-- The number that a text writes: `nan` if it writes none. -/
def floatOfStr (s : Str) : Float :=
  match s.toString? with
  | .error _ => nan
  | .ok t =>
    let blank (c : Char) := isSpace c || isLineEnd c
    let body := ((t.toList.dropWhile blank).reverse.dropWhile blank).reverse
    match body with
    | [] => 0.0
    | '-' :: rest => -(decimal rest)
    | '+' :: rest => decimal rest
    | '0' :: x :: _ => if x.isAlpha && x != 'e' && x != 'E' then whole body else decimal body
    | _ => decimal body
where
  whole (body : List Char) : Float :=
    match readNumber ⟨body, 0⟩ with
    | some (.number x _, ⟨[], _⟩) => if body.contains '_' then nan else x
    | _ => nan
  decimal (body : List Char) : Float :=
    if body = "Infinity".toList then infinity
    else if body.any fun c => c != 'e' && c != 'E' && (c.isAlpha || c == '_') then nan
    else
      match body.head? with
      | some c =>
        if c.isDigit || c == '.' then
          let (ds, s) := (Source.mk body 0).span Char.isDigit
          match readFraction ds s with
          | some (.number x _, ⟨[], _⟩) => x
          | _ => nan
        else nan
      | none => nan

/-- The number that a text writes, as a value. -/
def numberOfStr (s : Str) : Value := ofFloat (floatOfStr s)

/-- The integer that a text writes in decimal, hexadecimal, octal or binary digits. -/
def bigintOfStr? (s : Str) : Option Int :=
  match s.toString? with
  | .error _ => none
  | .ok t =>
    let blank (c : Char) := isSpace c || isLineEnd c
    let body := ((t.toList.dropWhile blank).reverse.dropWhile blank).reverse
    let digits (base : Nat) (ok : Char → Bool) (ds : List Char) : Option Int :=
      if ds.isEmpty || !ds.all ok then none else some (numberOf base ds)
    match body with
    | [] => some 0
    | '-' :: rest => (digits 10 Char.isDigit rest).map (- ·)
    | '+' :: rest => digits 10 Char.isDigit rest
    | '0' :: 'x' :: rest => digits 16 (fun c => (Hex.value? c).isSome) rest
    | '0' :: 'o' :: rest => digits 8 (fun c => '0' ≤ c && c ≤ '7') rest
    | '0' :: 'b' :: rest => digits 2 (fun c => c == '0' || c == '1') rest
    | _ => digits 10 Char.isDigit body

/-! ### Classes of values -/

/-- Whether a value counts as true. -/
def truthy : Value → Bool
  | .undefined | .null => false
  | .bool b => b
  | .int n => n != 0
  | .float x => !(x == 0 || x.isNaN)
  | .string s => !s.units.isEmpty
  | .bigint n => n != 0
  | .symbol _ | .object _ => true

/-- Whether a value is `undefined` or `null`. -/
def isNullish : Value → Bool
  | .undefined | .null => true
  | _ => false

/-- The object that a value is. -/
def ref? : Value → Option Ref
  | .object r => some r
  | _ => none

/-- The text of a value that has one without running anything; symbols and objects have none. -/
def plainText? : Value → Option Str
  | .undefined => some (Str.ofString "undefined")
  | .null => some (Str.ofString "null")
  | .bool b => some (Str.ofString (if b then "true" else "false"))
  | .int n => some (Str.ofString (toString n.toInt))
  | .float x => some (Str.ofString (floatText x))
  | .string s => some s
  | .bigint n => some (Str.ofString (toString n))
  | .symbol _ | .object _ => none

/-! ### Comparison -/

/-- Equality without conversions. -/
def strictEquals : Value → Value → Bool
  | .undefined, .undefined => true
  | .null, .null => true
  | .bool a, .bool b => a == b
  | .string a, .string b => a == b
  | .symbol a, .symbol b => a == b
  | .bigint a, .bigint b => a == b
  | .object a, .object b => a == b
  | .int a, .int b => a == b
  | a, b =>
    match a.number?, b.number? with
    | some x, some y => x == y
    | _, _ => false

/-- Equality where a NaN equals itself, and zeros of both signs are equal. -/
def sameValueZero (a b : Value) : Bool :=
  match a.number?, b.number? with
  | some x, some y => x == y || (x.isNaN && y.isNaN)
  | _, _ => strictEquals a b

/-- Equality where a NaN equals itself, and zeros of different sign differ. -/
def sameValue (a b : Value) : Bool :=
  match a.number?, b.number? with
  | some x, some y =>
    if x == 0 && y == 0 then x.toBits == y.toBits else x == y || (x.isNaN && y.isNaN)
  | _, _ => strictEquals a b

/-- A text as a value. -/
def ofString (s : String) : Value := .string (Str.ofString s)

end Value

end ScriptBridge.Script
