import ScriptBridge.Script.Builtin.Basic
import ScriptBridge.Text.Case
import ScriptBridge.Text.Normal

/-!
# Functions of texts

A text is looked at by its units; only changes of case or form, the comparison of texts and the
iteration over a text see characters.
-/

namespace ScriptBridge.Script

namespace Proc

/-! ### Blanks and padding -/

/-- Whether a unit writes a blank or a line end. -/
def isBlankUnit (u : UInt16) : Bool :=
  let c := Char.ofNat u.toNat
  isSpace c || isLineEnd c

/-- The text without the blanks at its ends. -/
def trimmed (s : Str) (atStart atEnd : Bool) : Str :=
  let units := if atStart then s.units.dropWhile isBlankUnit else s.units
  ⟨if atEnd then (units.reverse.dropWhile isBlankUnit).reverse else units⟩

/-- A text repeated. -/
def repeated (s : Str) (n : Nat) : Str := ⟨(List.replicate n s.units).flatten⟩

/-- What has to be put to a text so that it gets `missing` more units. -/
def padding (pad : Str) (missing : Nat) : Str :=
  (repeated pad (missing / pad.length + 1)).slice 0 missing

/-- The text with halves that stand alone replaced. -/
def wellFormed (s : Str) : Str :=
  .ofPoints (s.points.map fun n => if 0xd800 ≤ n && n < 0xe000 then 0xfffd else n)

/-! ### Search and replacement -/

/-- The places where `needle` occurs in a text, without overlaps, from `start` on. -/
def occurrences (s needle : Str) : Nat → Nat → List Nat
  | 0, _ => []
  | fuel + 1, start =>
    match s.indexOf? needle start with
    | some i => i :: occurrences s needle fuel (i + max 1 needle.length)
    | none => []

/-- The last place up to `start` where `needle` occurs. -/
def lastIndexOf? (s needle : Str) : Nat → Option Nat
  | 0 => if needle.units.isPrefixOf s.units then some 0 else none
  | i + 1 =>
    if needle.units.isPrefixOf (s.units.drop (i + 1)) then some (i + 1)
    else lastIndexOf? s needle i

/-- The pieces of a text between the places `ends`, each of `width` units. -/
def pieces (s : Str) (width : Nat) : Nat → List Nat → List Str
  | start, [] => [s.slice start s.length]
  | start, i :: rest => s.slice start i :: pieces s width (i + width) rest

/-- The replacement text with its signs `$` filled in. -/
def expand (template found before after : Str) : Str := ⟨go template.units⟩
where
  go : List UInt16 → List UInt16
    | [] => []
    | [u] => [u]
    | u :: v :: rest =>
      if u == 0x24 then
        if v == 0x24 then u :: go rest
        else if v == 0x26 then found.units ++ go rest
        else if v == 0x60 then before.units ++ go rest
        else if v == 0x27 then after.units ++ go rest
        else u :: go (v :: rest)
      else u :: go (v :: rest)

/-- The text with what stands at some places replaced. -/
def replaceAt (s needle : Str) (by_ : Value) (places : List Nat) : Proc Value := do
  let isFunction ← isCallable by_
  let template ← if isFunction then pure Str.empty else toStr by_
  let mut result := Str.empty
  let mut start := 0
  for i in places do
    let put ← if isFunction then do
        toStr (← call by_ .undefined [.string needle, Value.ofNat i, .string s])
      else pure (expand template needle (s.slice 0 i) (s.slice (i + needle.length) s.length))
    result := result ++ s.slice start i ++ put
    start := i + needle.length
  return .string (result ++ s.slice start s.length)

/-- What an object that knows how to search texts makes of a text; nothing if there is none. -/
def searchedBy? (searcher : Value) (symbol : Nat) (args : List Value) : Proc (Option Value) := do
  if searcher.isNullish then return none
  let method ← get searcher (.symbol symbol)
  if method.isNullish then return none
  return some (← call method searcher args)

/-- Fails for an object that stands for a pattern. -/
def refusePattern (v : Value) : Proc Unit := do
  if let .object r := v then
    if (← getOf r (.symbol Symbols.match_)).truthy then throwType "regexp not supported"

/-- The text that a pattern without signs of its own stands for. -/
def literalPattern (v : Value) : Proc Str := do
  match v with
  | .undefined => return Str.empty
  | v =>
    let s ← toStr v
    let signs := "^$\\.*+?()[]|/\x7b\x7d".toList
    if s.units.any fun u => signs.contains (Char.ofNat u.toNat) then
      throwNew .syntaxError "unsupported pattern"
    return s

/-- What is found at a place of a text: the text found, with its place. -/
def foundAt (s needle : Str) (i : Nat) : Proc Value := do
  let r ← allocArray [.string needle]
  defineValue r (Key.ofString "index") (Value.ofNat i)
  defineValue r (Key.ofString "input") (.string s)
  defineValue r (Key.ofString "groups") .undefined
  return .object r

/-! ### The text of `this` -/

/-- The text of `this` in a function of texts. -/
def thisStr (this : Value) : Proc Str := do
  if this.isNullish then throwType "null or undefined are forbidden"
  toStr this

/-- The text that `this` holds. -/
def heldStr (this : Value) : Proc Value := do
  match this with
  | .string s => return .string s
  | .object r =>
    match (← object r).kind with
    | .boxed (.string s) => return .string s
    | _ => throwType "not a string"
  | _ => throwType "not a string"

/-! ### Making texts -/

/-- The units with the given codes. -/
def fromCodes : List Value → Proc Str
  | [] => pure Str.empty
  | v :: rest => do
    let n := Value.truncate (← toFloat v)
    return ⟨[(n % 0x10000).toNat.toUInt16]⟩ ++ (← fromCodes rest)

/-- The characters with the given codes. -/
def fromPoints : List Value → Proc Str
  | [] => pure Str.empty
  | v :: rest => do
    let x ← toFloat v
    let n := Value.truncate x
    if n < 0 || 0x10ffff < n || floatOfInt n != x then throwNew .rangeError "invalid code point"
    return .ofPoints [n.toNat] ++ (← fromPoints rest)

/-- The raw pieces of a template with values between them. -/
def rawTemplate (pieces : Ref) (n : Nat) (values : List Value) : Proc Str := do
  let mut result := Str.empty
  for i in List.range n do
    result := result ++ (← toStr (← getOf pieces (.ofNat i)))
    if i + 1 < n then
      if let some v := values[i]? then result := result ++ (← toStr v)
  return result

/-- A text as an element of markup. -/
def markedUp (m : Markup) (s : Str) (value : Value) : Proc Value := do
  let tag := Str.ofString m.tag
  let opening ← match m.attribute? with
    | none => pure Str.empty
    | some name => do
      let v ← thisStr value
      let escaped := v.units.flatMap fun u =>
        if u == 0x22 then (Str.ofString "&quot;").units else [u]
      pure (Str.ofString s!" {name}=\"" ++ ⟨escaped⟩ ++ Str.ofString "\"")
  return .string (Str.ofString "<" ++ tag ++ opening ++ Str.ofString ">" ++ s
    ++ Str.ofString "</" ++ tag ++ Str.ofString ">")

/-! ### The functions -/

/-- The order of two texts by their characters. -/
def compareTexts : List Nat → List Nat → Ordering
  | [], [] => .eq
  | [], _ => .lt
  | _, [] => .gt
  | x :: xs, y :: ys => (compare x y).then (compareTexts xs ys)

/-- The code of the character at a place. -/
def pointAt? (s : Str) (i : Nat) : Option Nat := (⟨s.units.drop i⟩ : Str).points.head?

/-- Runs a function that looks something up in the text `s`. -/
def runTextQuery (f : StringFn) (s : Str) (c : NativeCall) : Proc Value := do
  let n := s.length
  let within (v : Value) (dflt : Nat) : Proc Nat :=
    match v with
    | .undefined => pure dflt
    | v => do return min n (← toInteger v).toNat
  match f with
  | .charAt =>
    let i ← toInteger (c.arg 0)
    return .string (if 0 ≤ i then s.slice i.toNat (i.toNat + 1) else Str.empty)
  | .charCodeAt =>
    let i ← toInteger (c.arg 0)
    if 0 ≤ i ∧ i < n then return Value.ofNat (s.units.getD i.toNat 0).toNat
    else return .float Value.nan
  | .codePointAt =>
    let i ← toInteger (c.arg 0)
    match if 0 ≤ i then pointAt? s i.toNat else none with
    | some k => return Value.ofNat k
    | none => return .undefined
  | .at =>
    let i ← toInteger (c.arg 0)
    let i := if i < 0 then n + i else i
    if 0 ≤ i ∧ i < n then return .string (s.slice i.toNat (i.toNat + 1)) else return .undefined
  | .indexOf =>
    let needle ← toStr (c.arg 0)
    return (s.indexOf? needle (← within (c.arg 1) 0)).elim (.int (-1)) Value.ofNat
  | .lastIndexOf =>
    let needle ← toStr (c.arg 0)
    let x ← toFloat (c.arg 1)
    let start := if x.isNaN then n else min n (clamp (2 ^ 53) x).toNat
    return (lastIndexOf? s needle start).elim (.int (-1)) Value.ofNat
  | .includes =>
    refusePattern (c.arg 0)
    let needle ← toStr (c.arg 0)
    return .bool (s.indexOf? needle (← within (c.arg 1) 0)).isSome
  | .startsWith =>
    refusePattern (c.arg 0)
    let needle ← toStr (c.arg 0)
    return .bool (needle.units.isPrefixOf (s.units.drop (← within (c.arg 1) 0)))
  | .endsWith =>
    refusePattern (c.arg 0)
    let needle ← toStr (c.arg 0)
    let stop ← within (c.arg 1) n
    return .bool (needle.length ≤ stop && s.slice (stop - needle.length) stop == needle)
  | .isWellFormed => return .bool s.isWellFormed
  | _ =>
    let t ← toStr (c.arg 0)
    let composed (s : Str) : List Nat := Text.normalize ⟨false, true⟩ s.points
    return .int (match compareTexts (composed s) (composed t) with
      | .lt => -1
      | .eq => 0
      | .gt => 1)

/-- Runs a function that makes something of the text `s`. -/
def runTextChange (f : StringFn) (s : Str) (c : NativeCall) : Proc Value := do
  let n := s.length
  match f with
  | .slice =>
    let start ← toPosition (c.arg 0) n 0
    return .string (s.slice start (← toPosition (c.arg 1) n n))
  | .substring =>
    let a := min n (← toInteger (c.arg 0)).toNat
    let b ← match c.arg 1 with
      | .undefined => pure n
      | v => pure (min n (← toInteger v).toNat)
    return .string (s.slice (min a b) (max a b))
  | .substr =>
    let start ← toPosition (c.arg 0) n 0
    let count ← match c.arg 1 with
      | .undefined => pure n
      | v => pure (← toInteger v).toNat
    return .string (s.slice start (start + count))
  | .toUpperCase => return .string (.ofPoints (Text.toUpper s.points))
  | .toLowerCase => return .string (.ofPoints (Text.toLower s.points))
  | .trim => return .string (trimmed s true true)
  | .trimStart => return .string (trimmed s true false)
  | .trimEnd => return .string (trimmed s false true)
  | .padStart | .padEnd =>
    let width := (← toInteger (c.arg 0)).toNat
    if width ≤ n then return .string s
    let pad ← match c.arg 1 with
      | .undefined => pure (Str.ofString " ")
      | v => toStr v
    if pad.units.isEmpty then return .string s
    if 2 ^ 30 ≤ width then throwNew .rangeError "invalid string length"
    let p := padding pad (width - n)
    return .string (if f = .padStart then p ++ s else s ++ p)
  | .repeat =>
    let count := clamp (2 ^ 53) (← toFloat (c.arg 0))
    if count < 0 || 2 ^ 31 ≤ count then throwNew .rangeError "invalid repeat count"
    if 2 ^ 30 ≤ count * n then throwNew .rangeError "invalid string length"
    return .string (repeated s (if n = 0 then 0 else count.toNat))
  | .concat =>
    let mut result := s
    for v in c.args do
      result := result ++ (← toStr v)
    return .string result
  | .toWellFormed => return .string (wellFormed s)
  | .markup m => markedUp m s (c.arg 0)
  | .normalize =>
    let name ← match c.arg 0 with
      | .undefined => pure "NFC"
      | v => do pure (← toStr v).toStringLossy
    match Text.NormalForm.ofName? name with
    | some form => return .string (.ofPoints (Text.normalize form s.points))
    | none => throwNew .rangeError "bad normalization form"
  | _ => makeIterator Intrinsic.stringIteratorProto (.characters s.codePoints)

/-- Runs a function that searches a text for something that may know how to do that. -/
def runTextSearch (f : StringFn) (c : NativeCall) : Proc Value := do
  if c.this.isNullish then throwType "cannot convert to object"
  let wanted := c.arg 0
  let second := c.arg 1
  match f with
  | .split =>
    if let some v ← searchedBy? wanted Symbols.split [c.this, second] then return v
    let s ← toStr c.this
    let limit ← match second with
      | .undefined => pure (2 ^ 32 - 1)
      | v => pure (Value.bits (Value.toInt32 (← toNumber v)))
    let sep ← toStr wanted
    let parts := match wanted with
      | .undefined => [s]
      | _ =>
        if sep.units.isEmpty then s.units.map fun u => ⟨[u]⟩
        else pieces s sep.length 0 (occurrences s sep (s.length + 1) 0)
    arrayOf ((parts.take limit).map Value.string)
  | .replace | .replaceAll =>
    if let some v ← searchedBy? wanted Symbols.replace [c.this, second] then return v
    let s ← toStr c.this
    let needle ← toStr wanted
    let places := if f = .replace then (s.indexOf? needle 0).toList
      else occurrences s needle (s.length + 1) 0
    replaceAt s needle second places
  | .matchFirst =>
    if let some v ← searchedBy? wanted Symbols.match_ [c.this] then return v
    let s ← toStr c.this
    let needle ← literalPattern wanted
    match s.indexOf? needle 0 with
    | some i => foundAt s needle i
    | none => return .null
  | .matchAll =>
    if let some v ← searchedBy? wanted Symbols.matchAll [c.this] then return v
    let s ← toStr c.this
    let needle ← literalPattern wanted
    let found ← (occurrences s needle (s.length + 1) 0).mapM (foundAt s needle)
    makeIterator Intrinsic.arrayIteratorProto (.items (← arrayOf found) 0 .values)
  | _ =>
    if let some v ← searchedBy? wanted Symbols.search [c.this] then return v
    let s ← toStr c.this
    let needle ← literalPattern wanted
    return (s.indexOf? needle 0).elim (.int (-1)) Value.ofNat

/-- Runs a function of texts. -/
def runString (f : StringFn) (c : NativeCall) : Proc Value := do
  match f with
  | .make =>
    let s ← match c.args with
      | [] => pure Str.empty
      | .symbol id :: _ => if c.isPlain then symbolText id else toStr (.symbol id)
      | v :: _ => toStr v
    if c.isPlain then return .string s
    let proto ← protoFor c.newTarget Intrinsic.stringProto
    return .object (← alloc { kind := .boxed (.string s), proto := some proto })
  | .fromCharCode => return .string (← fromCodes c.args)
  | .fromCodePoint => return .string (← fromPoints c.args)
  | .raw =>
    let cooked ← toObject (c.arg 0)
    let pieces ← toObject (← getOf cooked (Key.ofString "raw"))
    return .string (← rawTemplate pieces (← lengthOf pieces) (c.args.drop 1))
  | .toString => heldStr c.this
  | .split | .replace | .replaceAll | .matchFirst | .matchAll | .search => runTextSearch f c
  | .charAt | .charCodeAt | .codePointAt | .at | .indexOf | .lastIndexOf | .includes | .startsWith
  | .endsWith | .isWellFormed | .localeCompare => runTextQuery f (← thisStr c.this) c
  | f => runTextChange f (← thisStr c.this) c

end Proc

namespace StringFn

/-- The functions found in the constructor. -/
def statics : List Builtin := [
  .method "fromCharCode" (.string .fromCharCode) 1,
  .method "fromCodePoint" (.string .fromCodePoint) 1, .method "raw" (.string .raw) 1]

/-- A function that makes an element of markup. -/
def element (m : Markup) : Builtin :=
  .method m.name (.string (.markup m)) (if m.attribute?.isSome then 1 else 0)

/-- The functions found in every text. -/
def methods : List Builtin := [
  .method "at" (.string .at) 1, .method "charCodeAt" (.string .charCodeAt) 1,
  .method "charAt" (.string .charAt) 1, .method "concat" (.string .concat) 1,
  .method "codePointAt" (.string .codePointAt) 1,
  .method "isWellFormed" (.string .isWellFormed) 0,
  .method "toWellFormed" (.string .toWellFormed) 0, .method "indexOf" (.string .indexOf) 1,
  .method "lastIndexOf" (.string .lastIndexOf) 1, .method "includes" (.string .includes) 1,
  .method "endsWith" (.string .endsWith) 1, .method "startsWith" (.string .startsWith) 1,
  .method "match" (.string .matchFirst) 1, .method "matchAll" (.string .matchAll) 1,
  .method "search" (.string .search) 1, .method "split" (.string .split) 2,
  .method "substring" (.string .substring) 2, .method "substr" (.string .substr) 2,
  .method "slice" (.string .slice) 2, .method "repeat" (.string .repeat) 1,
  .method "replace" (.string .replace) 2, .method "replaceAll" (.string .replaceAll) 2,
  .method "padEnd" (.string .padEnd) 1, .method "padStart" (.string .padStart) 1,
  .method "trim" (.string .trim) 0, .method "trimEnd" (.string .trimEnd) 0,
  .alias (Key.ofString "trimRight") (Key.ofString "trimEnd"),
  .method "trimStart" (.string .trimStart) 0,
  .alias (Key.ofString "trimLeft") (Key.ofString "trimStart"),
  .method "toString" (.string .toString) 0, .method "valueOf" (.string .toString) 0,
  .method "toLowerCase" (.string .toLowerCase) 0, .method "toUpperCase" (.string .toUpperCase) 0,
  .method "toLocaleLowerCase" (.string .toLowerCase) 0,
  .method "toLocaleUpperCase" (.string .toUpperCase) 0,
  .atSymbol Symbols.iterator "[Symbol.iterator]" (.string .iterator) 0,
  element .anchor, element .big, element .blink, element .bold, element .fixed,
  element .fontcolor, element .fontsize, element .italics, element .link, element .small,
  element .strike, element .sub, element .sup,
  .method "normalize" (.string .normalize) 0, .method "localeCompare" (.string .localeCompare) 1]

end StringFn

end ScriptBridge.Script
