import ScriptBridge.Script.Builtin.Basic

/-!
# Functions of texts that name resources

A character that such a text cannot hold is written as the bytes of its UTF-8 form, each as a sign
`%` and two hexadecimal digits.
-/

namespace ScriptBridge.Script

namespace Uri

/-- Why a text is refused. -/
inductive Fault
  | noPercent
  | noHexDigit
  | malformed
  | lowHalf
  | highHalf
deriving DecidableEq, Repr

/-- The wording of a fault. -/
def Fault.message : Fault → String
  | .noPercent => "expecting %"
  | .noHexDigit => "expecting hex digit"
  | .malformed => "malformed UTF-8"
  | .lowHalf => "invalid character"
  | .highHalf => "expecting surrogate pair"

/-- Whether a unit is one of some ASCII characters. -/
def isOneOf (chars : String) (u : UInt16) : Bool :=
  u < 0x80 && chars.toList.contains (Char.ofNat u.toNat)

/-- Whether a unit is an ASCII letter or digit. -/
def isAlphanumeric (u : UInt16) : Bool := u < 0x80 && (Char.ofNat u.toNat).isAlphanum

/-- Whether a unit stands between the parts of a name. -/
def isReserved (u : UInt16) : Bool := isOneOf ";/?:@&=+$,#" u

/-- Whether a unit stands for itself; in a part of a name those between the parts do not. -/
def isPlain (isPart : Bool) (u : UInt16) : Bool :=
  isAlphanumeric u || isOneOf "-_.!~*'()" u || (!isPart && isReserved u)

/-- The units of an ASCII text. -/
def units (s : List Char) : List UInt16 := s.map fun c => c.toNat.toUInt16

/-- A number as a sign, perhaps a letter, and hexadecimal digits. -/
def hexUnits (opening : String) (width n : Nat) : List UInt16 :=
  units (opening.toList ++ (Hex.fixed width n).map Char.toUpper)

/-- The number that `width` hexadecimal digits at the start of a text write. -/
def hexValue? (width : Nat) (s : List UInt16) : Option Nat :=
  let ds := s.take width
  if ds.length = width then
    ds.foldlM (fun acc u => (Hex.value? (Char.ofNat u.toNat)).map (acc * 16 + ·)) 0
  else none

/-- The bytes of the UTF-8 form of a character. -/
def bytesOf (n : Nat) : List Nat :=
  if n < 0x80 then [n]
  else if n < 0x800 then [0xc0 + n / 0x40, 0x80 + n % 0x40]
  else if n < 0x10000 then [0xe0 + n / 0x1000, 0x80 + n / 0x40 % 0x40, 0x80 + n % 0x40]
  else [0xf0 + n / 0x40000, 0x80 + n / 0x1000 % 0x40, 0x80 + n / 0x40 % 0x40, 0x80 + n % 0x40]

/-- Writes a text so that a name, or a part of one, can hold it. -/
def encode (isPart : Bool) : List UInt16 → Except Fault (List UInt16)
  | [] => .ok []
  | u :: rest =>
    if isPlain isPart u then (encode isPart rest).map (u :: ·)
    else if Str.isLow u then .error .lowHalf
    else if Str.isHigh u then
      match rest with
      | v :: rest =>
        if Str.isLow v then
          let n := 0x10000 + (u.toNat - 0xd800) * 0x400 + (v.toNat - 0xdc00)
          (encode isPart rest).map (written n ++ ·)
        else .error .highHalf
      | [] => .error .highHalf
    else (encode isPart rest).map (written u.toNat ++ ·)
where
  written (n : Nat) : List UInt16 := (bytesOf n).flatMap (hexUnits "%" 2)

/-- The byte that a sign and two digits at the start of a text write. -/
def byteAt : List UInt16 → Except Fault Nat
  | u :: rest =>
    if u == 0x25 then
      match hexValue? 2 rest with
      | some n => .ok n
      | none => .error .noHexDigit
    else .error .noPercent
  | [] => .error .noPercent

/-- The code that `count` more bytes complete, and the rest of the text.  A byte that does not
belong there makes the code zero. -/
def tailBytes : Nat → Nat → List UInt16 → Except Fault (Nat × List UInt16)
  | 0, n, s => .ok (n, s)
  | count + 1, n, s =>
    match byteAt s with
    | .error f => .error f
    | .ok b => if b / 0x40 = 2 then tailBytes count (n * 0x40 + b % 0x40) (s.drop 3)
      else .ok (0, s.drop 3)

/-- The character that begins with a byte, and the rest of the text. -/
def character (b : Nat) (s : List UInt16) : Except Fault (Nat × List UInt16) :=
  let (count, least, n) :=
    if 0xc0 ≤ b && b ≤ 0xdf then (1, 0x80, b % 0x20)
    else if 0xe0 ≤ b && b ≤ 0xef then (2, 0x800, b % 0x10)
    else if 0xf0 ≤ b && b ≤ 0xf7 then (3, 0x10000, b % 8)
    else (0, 1, 0)
  match tailBytes count n s with
  | .error f => .error f
  | .ok (n, rest) =>
    if n < least || 0x10ffff < n || (0xd800 ≤ n && n < 0xe000) then .error .malformed
    else .ok (n, rest)

/-- Reads what `encode` writes; in a whole name the signs between the parts stay as they are.
`fuel` bounds the number of characters. -/
def decode (isPart : Bool) : Nat → List UInt16 → Except Fault (List UInt16)
  | 0, _ => .ok []
  | fuel + 1, s =>
    match s with
    | [] => .ok []
    | u :: rest =>
      if u != 0x25 then (decode isPart fuel rest).map (u :: ·)
      else
        match byteAt s with
        | .error f => .error f
        | .ok b =>
          if b < 0x80 then
            if !isPart && isReserved b.toUInt16 then (decode isPart fuel rest).map (u :: ·)
            else (decode isPart fuel (s.drop 3)).map (b.toUInt16 :: ·)
          else
            match character b (s.drop 3) with
            | .error f => .error f
            | .ok (n, rest) => (decode isPart fuel rest).map ((Str.ofPoints [n]).units ++ ·)

/-- Writes the units of a text, those that do not stand for themselves by their numbers. -/
def escape (s : List UInt16) : List UInt16 :=
  s.flatMap fun u =>
    if isAlphanumeric u || isOneOf "@*_+-./" u then [u]
    else if u < 0x100 then hexUnits "%" 2 u.toNat
    else hexUnits "%u" 4 u.toNat

/-- Reads what `escape` writes; `fuel` bounds the number of units. -/
def unescape : Nat → List UInt16 → List UInt16
  | 0, _ => []
  | fuel + 1, s =>
    match s with
    | [] => []
    | u :: rest =>
      let long := if rest.head? == some 0x75 then hexValue? 4 (rest.drop 1) else none
      match u == 0x25, long, hexValue? 2 rest with
      | true, some n, _ => n.toUInt16 :: unescape fuel (rest.drop 5)
      | true, none, some n => n.toUInt16 :: unescape fuel (rest.drop 2)
      | _, _, _ => u :: unescape fuel rest

end Uri

namespace Proc

/-- Runs a function of texts that name resources. -/
def runUri (f : UriFn) (c : NativeCall) : Proc Value := do
  let s ← toStr (c.arg 0)
  let result : Except Uri.Fault (List UInt16) := match f with
    | .encode => Uri.encode false s.units
    | .encodeComponent => Uri.encode true s.units
    | .decode => Uri.decode false s.length s.units
    | .decodeComponent => Uri.decode true s.length s.units
    | .escape => .ok (Uri.escape s.units)
    | .unescape => .ok (Uri.unescape s.length s.units)
  match result with
  | .ok units => return .string ⟨units⟩
  | .error fault => throwNew .uriError fault.message

end Proc

namespace UriFn

/-- The functions found in the global object. -/
def globals : List Builtin := [
  .method "decodeURI" (.uri .decode) 1, .method "decodeURIComponent" (.uri .decodeComponent) 1,
  .method "encodeURI" (.uri .encode) 1, .method "encodeURIComponent" (.uri .encodeComponent) 1,
  .method "escape" (.uri .escape) 1, .method "unescape" (.uri .unescape) 1]

end UriFn

end ScriptBridge.Script
