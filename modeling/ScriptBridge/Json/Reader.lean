import ScriptBridge.Decimal.Shortest
import ScriptBridge.Json.Basic
import ScriptBridge.Text.Utf8

/-!
# Reading JSON

The reader takes bytes and says of a text that is not JSON what is wrong and where.  Arrays and
objects nest at most 127 deep.  An integer that sixty-four bits hold stays one; any other number
is a float, computed from its first digits, as many as a word of sixty-four bits holds, and a
power of ten.
-/

namespace ScriptBridge

namespace Json

/-- What is wrong with a text. -/
inductive Fault
  | endInList | endInObject | endInString | endInValue
  | expectedColon | expectedListComma | expectedObjectComma | expectedIdent | expectedValue
  | badEscape | badNumber | outOfRange | badCodePoint | controlCharacter | keyNotString
  | loneSurrogate | trailingComma | trailingCharacters | cutHexEscape | tooDeep
deriving DecidableEq, Repr

/-- The wording of a fault. -/
def Fault.text : Fault → String
  | endInList => "EOF while parsing a list"
  | endInObject => "EOF while parsing an object"
  | endInString => "EOF while parsing a string"
  | endInValue => "EOF while parsing a value"
  | expectedColon => "expected \x60:\x60"
  | expectedListComma => "expected \x60,\x60 or \x60]\x60"
  | expectedObjectComma => "expected \x60,\x60 or \x60\x7d\x60"
  | expectedIdent => "expected ident"
  | expectedValue => "expected value"
  | badEscape => "invalid escape"
  | badNumber => "invalid number"
  | outOfRange => "number out of range"
  | badCodePoint => "invalid unicode code point"
  | controlCharacter => "control character (\\u0000-\\u001F) found while parsing a string"
  | keyNotString => "key must be a string"
  | loneSurrogate => "lone leading surrogate in hex escape"
  | trailingComma => "trailing comma"
  | trailingCharacters => "trailing characters"
  | cutHexEscape => "unexpected end of hex escape"
  | tooDeep => "recursion limit exceeded"

/-- A fault and the line and column where it was seen. -/
structure Error where
  fault : Fault
  line : Nat
  column : Nat
deriving DecidableEq, Repr

/-- The wording of an error. -/
def Error.message (e : Error) : String :=
  s!"{e.fault.text} at line {e.line} column {e.column}"

/-- What is left of a text, and the line and column of its front. -/
structure Cursor where
  rest : List UInt8
  line : Nat := 1
  column : Nat := 0

namespace Cursor

/-- The cursor behind the next byte. -/
def next (c : Cursor) : Cursor :=
  match c.rest with
  | [] => c
  | b :: rest => if b = 10 then ⟨rest, c.line + 1, 0⟩ else ⟨rest, c.line, c.column + 1⟩

/-- A fault seen at the front. -/
def fail {α : Type} (c : Cursor) (f : Fault) : Except Error α := .error ⟨f, c.line, c.column⟩

/-- A fault seen at the next byte, or at the end if there is none. -/
def failNext {α : Type} (c : Cursor) (f : Fault) : Except Error α := c.next.fail f

/-- The next byte, zero at the end. -/
def peek (c : Cursor) : UInt8 := c.rest.headD 0

/-- Whether the next byte is a digit. -/
def atDigit (c : Cursor) : Bool := 48 <= c.peek.toNat && c.peek.toNat <= 57

/-- The value of the next byte as a digit. -/
def digit (c : Cursor) : Nat := c.peek.toNat - 48

/-- The cursor behind the blanks at the front. -/
def skipBlanks (c : Cursor) : Cursor := go c.rest c.line c.column
where
  go : List UInt8 → Nat → Nat → Cursor
    | [], line, column => ⟨[], line, column⟩
    | b :: rest, line, column =>
      if b = 10 then go rest (line + 1) 0
      else if b = 32 || b = 9 || b = 13 then go rest line (column + 1)
      else ⟨b :: rest, line, column⟩

/-- The cursor behind `n` bytes. -/
def drop : Nat → Cursor → Cursor
  | 0, c => c
  | n + 1, c => drop n c.next

end Cursor

/-! ### Numbers -/

/-- Above this a word of sixty-four bits is full. -/
def wordLimit : Nat := 2 ^ 64 - 1

/-- Ten to a power as a float, for powers that floats reach. -/
def tenTo (n : Nat) : Float := Decimal.toFloat 1 (Int.ofNat n)

/-- The float that `significand · 10^exponent` is read as: the nearest float to the significand,
multiplied or divided by a power of ten; `none` above the range of floats. -/
def scale (significand : Nat) (exponent : Int) : Option Float :=
  let x := Decimal.toFloat significand 0
  match exponent with
  | .ofNat e =>
    if e ≤ 308 then
      let y := x * tenTo e
      if y.isInf then none else some y
    else if significand = 0 then some x else none
  | .negSucc e =>
    let rec go : Nat → Float → Nat → Float
      | 0, y, _ => y
      | count + 1, y, e => if e ≤ 308 then y / tenTo e else if y == 0 then y
        else go count (y / 1e308) (e - 308)
    some (go 4 x (e + 1))

/-- The float of a number that was read up to `c`. -/
def finish (negative : Bool) (significand : Nat) (exponent : Int) (c : Cursor) :
    Except Error (JsonNumber × Cursor) :=
  match scale significand exponent with
  | some x => .ok (.float (if negative then -x else x), c)
  | none => c.fail .outOfRange

/-- The digits at the front, at most `fuel` of them, as a number with `acc` before them. -/
def readDigits : Nat → Nat → Cursor → Nat × Cursor
  | 0, acc, c => (acc, c)
  | fuel + 1, acc, c =>
    if c.atDigit then readDigits fuel (acc * 10 + c.digit) c.next else (acc, c)

/-- The exponent of a number, behind its `e`. -/
def readExponent (negative : Bool) (significand : Nat) (exponent : Int) (c : Cursor) :
    Except Error (JsonNumber × Cursor) :=
  let c := c.next
  let down := c.peek == 45
  let c := if c.peek == 45 || c.peek == 43 then c.next else c
  if c.rest.isEmpty then c.fail .endInValue
  else if !c.atDigit then c.failNext .badNumber
  else go negative significand exponent down c.rest.length 0 c
where
  go (negative : Bool) (significand : Nat) (exponent : Int) (down : Bool) :
      Nat → Nat → Cursor → Except Error (JsonNumber × Cursor)
    | 0, acc, c => done negative significand exponent down acc c
    | fuel + 1, acc, c =>
      if c.atDigit then
        if 2147483647 < acc * 10 + c.digit then
          let c := c.next
          if significand ≠ 0 ∧ !down then c.fail .outOfRange
          else
            let (_, c) := readDigits fuel 0 c
            .ok (.float (if negative then -0.0 else 0.0), c)
        else go negative significand exponent down fuel (acc * 10 + c.digit) c.next
      else done negative significand exponent down acc c
  done (negative : Bool) (significand : Nat) (exponent : Int) (down : Bool) (acc : Nat)
      (c : Cursor) : Except Error (JsonNumber × Cursor) :=
    finish negative significand (if down then exponent - acc else exponent + acc) c

/-- What may follow the digits of a number: an exponent or nothing. -/
def readTail (negative : Bool) (significand : Nat) (exponent : Int) (c : Cursor) :
    Except Error (JsonNumber × Cursor) :=
  if c.peek == 101 || c.peek == 69 then readExponent negative significand exponent c
  else finish negative significand exponent c

/-- The digits behind the point.  A digit for which the word has no room is passed over, with all
that follow it. -/
def readFraction (negative : Bool) (significand : Nat) (exponent : Int) (c : Cursor) :
    Except Error (JsonNumber × Cursor) :=
  let c := c.next
  if c.atDigit then go negative c.rest.length significand exponent c
  else if c.rest.isEmpty then c.failNext .endInValue
  else c.failNext .badNumber
where
  go (negative : Bool) : Nat → Nat → Int → Cursor → Except Error (JsonNumber × Cursor)
    | 0, significand, exponent, c => readTail negative significand exponent c
    | fuel + 1, significand, exponent, c =>
      if c.atDigit then
        if wordLimit < significand * 10 + c.digit then
          readTail negative significand exponent (readDigits fuel 0 c.next).2
        else go negative fuel (significand * 10 + c.digit) (exponent - 1) c.next
      else readTail negative significand exponent c

/-- The rest of a whole number for which the word has no room. -/
def readLong (negative : Bool) (significand : Nat) : Nat → Int → Cursor →
    Except Error (JsonNumber × Cursor)
  | 0, exponent, c => finish negative significand exponent c
  | fuel + 1, exponent, c =>
    if c.atDigit then readLong negative significand fuel (exponent + 1) c.next
    else if c.peek == 46 then readFraction negative significand exponent c
    else readTail negative significand exponent c

/-- What follows the whole digits of a number. -/
def readAfterWhole (negative : Bool) (significand : Nat) (c : Cursor) :
    Except Error (JsonNumber × Cursor) :=
  if c.peek == 46 then readFraction negative significand 0 c
  else if c.peek == 101 || c.peek == 69 then readExponent negative significand 0 c
  else if !negative then .ok (.int significand, c)
  else if significand = 0 ∨ 2 ^ 63 < significand then
    .ok (.float (-Decimal.toFloat significand 0), c)
  else .ok (.int (-significand), c)

/-- The whole digits of a number behind the first. -/
def readWhole (negative : Bool) : Nat → Nat → Cursor → Except Error (JsonNumber × Cursor)
  | 0, significand, c => readAfterWhole negative significand c
  | fuel + 1, significand, c =>
    if c.atDigit then
      if wordLimit < significand * 10 + c.digit then
        readLong negative significand (fuel + 1) 0 c
      else readWhole negative fuel (significand * 10 + c.digit) c.next
    else readAfterWhole negative significand c

/-- A number behind its sign. -/
def readNumber (negative : Bool) (c : Cursor) : Except Error (JsonNumber × Cursor) :=
  if c.rest.isEmpty then c.fail .endInValue
  else if c.peek == 48 then
    if c.next.atDigit then c.next.failNext .badNumber else readAfterWhole negative 0 c.next
  else if c.atDigit then readWhole negative c.rest.length c.digit c.next
  else c.failNext .badNumber

/-! ### Texts -/

/-- The number that four bytes write in base sixteen. -/
def fourHex (a b c d : UInt8) : Option Nat :=
  [a, b, c, d].foldl
    (fun acc b => do
      let n := b.toNat
      let v ←
        if 48 ≤ n ∧ n ≤ 57 then some (n - 48)
        else if 97 ≤ n ∧ n ≤ 102 then some (n - 87)
        else if 65 ≤ n ∧ n ≤ 70 then some (n - 55)
        else none
      pure (16 * (← acc) + v))
    (some 0)

/-- The number behind `\u`. -/
def readHex (c : Cursor) : Except Error (Nat × Cursor) :=
  match c.rest with
  | w :: x :: y :: z :: _ =>
    let behind := c.drop 4
    match fourHex w x y z with
    | some n => .ok (n, behind)
    | none => behind.fail .badEscape
  | _ => (c.drop c.rest.length).fail .endInString

/-- The character that an escape writes, behind its backslash. -/
def readEscape (c : Cursor) : Except Error (Char × Cursor) :=
  match c.rest with
  | [] => c.fail .endInString
  | b :: _ =>
    let behind := c.next
    match b.toNat with
    | 34 => .ok ('"', behind)
    | 92 => .ok ('\\', behind)
    | 47 => .ok ('/', behind)
    | 98 => .ok (Char.ofNat 8, behind)
    | 102 => .ok (Char.ofNat 12, behind)
    | 110 => .ok ('\n', behind)
    | 114 => .ok ('\r', behind)
    | 116 => .ok ('\t', behind)
    | 117 => do
      let (n, c) ← readHex behind
      if 0xdc00 ≤ n ∧ n ≤ 0xdfff then c.fail .loneSurrogate
      else if n < 0xd800 ∨ 0xdbff < n then .ok (Char.ofNat n, c)
      else if c.rest.isEmpty then c.fail .endInString
      else if c.peek ≠ 92 then c.failNext .cutHexEscape
      else if c.next.rest.isEmpty then c.next.fail .endInString
      else if c.next.peek ≠ 117 then c.next.failNext .cutHexEscape
      else
        let (low, c) ← readHex (c.drop 2)
        if low < 0xdc00 ∨ 0xdfff < low then c.fail .loneSurrogate
        else .ok (Char.ofNat (0x10000 + (n - 0xd800) * 0x400 + (low - 0xdc00)), c)
    | _ => behind.fail .badEscape

/-- A text behind its opening quote; the bytes so far are in `acc`, the last first. -/
def readString : Nat → List UInt8 → Cursor → Except Error (String × Cursor)
  | 0, _, c => c.fail .endInString
  | fuel + 1, acc, c =>
    match c.rest with
    | [] => c.fail .endInString
    | b :: _ =>
      if b = 34 then
        match Utf8.decode? acc.reverse with
        | some s => .ok (s, c.next)
        | none => c.fail .badCodePoint
      else if b = 92 then do
        let (ch, c) ← readEscape c.next
        readString fuel ((Utf8.encode (String.singleton ch)).reverse ++ acc) c
      else if b.toNat < 32 then c.failNext .controlCharacter
      else readString fuel (b :: acc) c.next

/-! ### Values -/

/-- The rest of `null`, `true` or `false`. -/
def readIdent (value : Json) : List UInt8 → Cursor → Except Error (Json × Cursor)
  | [], c => .ok (value, c)
  | b :: more, c =>
    match c.rest with
    | [] => c.fail .endInValue
    | a :: _ => if a = b then readIdent value more c.next else c.failNext .expectedIdent

mutual

/-- A value; `depth` more arrays and objects may be opened. -/
def readValue (fuel depth : Nat) (c : Cursor) : Except Error (Json × Cursor) :=
  match fuel with
  | 0 => c.fail .tooDeep
  | fuel + 1 =>
    let c := c.skipBlanks
    match c.rest with
    | [] => c.failNext .endInValue
    | b :: _ =>
      match b.toNat with
      | 110 => readIdent .null [117, 108, 108] c.next
      | 116 => readIdent (.bool true) [114, 117, 101] c.next
      | 102 => readIdent (.bool false) [97, 108, 115, 101] c.next
      | 45 => (readNumber true c.next).map fun (n, c) => (.number n, c)
      | 34 => (readString fuel [] c.next).map fun (s, c) => (.string s, c)
      | 91 =>
        if depth ≤ 1 then c.failNext .tooDeep else readItems fuel (depth - 1) true [] c.next
      | 123 =>
        if depth ≤ 1 then c.failNext .tooDeep else readFields fuel (depth - 1) true [] c.next
      | _ =>
        if c.atDigit then (readNumber false c).map fun (n, c) => (.number n, c)
        else c.failNext .expectedValue

/-- The items of an array behind `acc`, the last first. -/
def readItems (fuel depth : Nat) (first : Bool) (acc : List Json) (c : Cursor) :
    Except Error (Json × Cursor) :=
  match fuel with
  | 0 => c.fail .tooDeep
  | fuel + 1 =>
    let c := c.skipBlanks
    if c.rest.isEmpty then c.failNext .endInList
    else if c.peek == 93 then .ok (.array acc.reverse, c.next)
    else if first then
      match readValue fuel depth c with
      | .ok (v, c) => readItems fuel depth false (v :: acc) c
      | .error e => .error e
    else if c.peek == 44 then
      let c := c.next.skipBlanks
      if c.rest.isEmpty then c.failNext .endInValue
      else if c.peek == 93 then c.failNext .trailingComma
      else
        match readValue fuel depth c with
        | .ok (v, c) => readItems fuel depth false (v :: acc) c
        | .error e => .error e
    else c.failNext .expectedListComma

/-- The fields of an object behind `acc`. -/
def readFields (fuel depth : Nat) (first : Bool) (acc : List (String × Json)) (c : Cursor) :
    Except Error (Json × Cursor) :=
  match fuel with
  | 0 => c.fail .tooDeep
  | fuel + 1 =>
    let c := c.skipBlanks
    if c.rest.isEmpty then c.failNext .endInObject
    else if c.peek == 125 then .ok (.object acc, c.next)
    else if first then
      if c.peek == 34 then readField fuel depth acc c else c.failNext .keyNotString
    else if c.peek == 44 then
      let c := c.next.skipBlanks
      if c.rest.isEmpty then c.failNext .endInValue
      else if c.peek == 125 then c.failNext .trailingComma
      else if c.peek == 34 then readField fuel depth acc c
      else c.failNext .keyNotString
    else c.failNext .expectedObjectComma

/-- A field, from its opening quote on, and the fields behind it. -/
def readField (fuel depth : Nat) (acc : List (String × Json)) (c : Cursor) :
    Except Error (Json × Cursor) :=
  match fuel with
  | 0 => c.fail .tooDeep
  | fuel + 1 =>
    match readString fuel [] c.next with
    | .error e => .error e
    | .ok (key, c) =>
      let c := c.skipBlanks
      if c.rest.isEmpty then c.failNext .endInObject
      else if c.peek ≠ 58 then c.failNext .expectedColon
      else
        match readValue fuel depth c.next with
        | .ok (v, c) => readFields fuel depth false (insertField key v acc) c
        | .error e => .error e

end

/-- How many arrays and objects may be open, and one more. -/
def depthLimit : Nat := 128

/-- The value that bytes write. -/
def readBytes (bytes : List UInt8) : Except Error Json := do
  let (v, c) ← readValue (3 * bytes.length + 3) depthLimit ⟨bytes, 1, 0⟩
  let c := c.skipBlanks
  if c.rest.isEmpty then .ok v else c.failNext .trailingCharacters

/-- The value that a text writes. -/
def read (s : String) : Except Error Json := readBytes (Utf8.encode s)

end Json

end ScriptBridge
