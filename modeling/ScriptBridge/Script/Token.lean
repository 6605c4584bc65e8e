import ScriptBridge.Decimal.Shortest
import ScriptBridge.Text.Hex
import ScriptBridge.Text.Identifier
import ScriptBridge.Text.Letters
import ScriptBridge.Text.Units

/-!
# Tokens of the script language

`tokenize` takes a source text apart into tokens.  A token knows where in the source it stands and
whether a line ended before it, which decides where a semicolon may be left out.  Some spellings
are allowed in old code only: the token says so, and the parser refuses it elsewhere.  Regular
expressions are not part of the language.
-/

namespace ScriptBridge.Script

/-- A token. -/
inductive Token
  /-- A name or a keyword; `escaped` if it was written with an escape, so that it is no keyword. -/
  | name (s : String) (escaped : Bool)
  /-- The name of a private member, with its sign `#`. -/
  | privateName (s : String)
  | punct (s : String)
  /-- A number; `isOld` if it starts with a zero that stands for nothing, or for base eight. -/
  | number (x : Float) (isOld : Bool)
  | bigint (n : Nat)
  /-- A text literal; `octal` if it was written with an octal escape. -/
  | string (s : Str) (octal : Bool)
  /-- A piece of a template, as its escapes write it unless one is wrong, and as it stands in the
  source; the last piece of a template ends it. -/
  | template (cooked : Option Str) (raw : Str) (isFirst isLast : Bool)
  | finish
deriving Inhabited

/-- A token in its place. -/
structure Lexeme where
  token : Token
  /-- The characters before it. -/
  start : Nat
  /-- The characters before its end. -/
  stop : Nat
  /-- Whether a line ended between it and the token before it. -/
  onNewLine : Bool
deriving Inhabited

/-- The rest of a source text, and the characters before it. -/
structure Source where
  rest : List Char
  pos : Nat

namespace Source

/-- What follows `n` characters. -/
def drop (s : Source) (n : Nat) : Source := ⟨s.rest.drop n, s.pos + n⟩

/-- The characters at the front that satisfy `p`, and what follows them. -/
def span (p : Char → Bool) (s : Source) : List Char × Source := go [] s.rest s.pos
where
  go (acc : List Char) : List Char → Nat → List Char × Source
    | [], pos => (acc.reverse, ⟨[], pos⟩)
    | c :: rest, pos =>
      if p c then go (c :: acc) rest (pos + 1) else (acc.reverse, ⟨c :: rest, pos⟩)

end Source

/-! ### Character classes -/

/-- A character that ends a line. -/
def isLineEnd (c : Char) : Bool :=
  c = '\n' || c = '\r' || c.toNat = 0x2028 || c.toNat = 0x2029

/-- A blank that ends no line. -/
def isSpace (c : Char) : Bool :=
  c.toNat = 0xfeff || (Text.isBlank c && !isLineEnd c && c.toNat != 0x85)

/-- The first character of a name. -/
def isNameStart (c : Char) : Bool :=
  c = '$' || c = '_' || c.isAlpha || (0x80 ≤ c.toNat && Text.isIdentifierStart c)

/-- A later character of a name. -/
def isNamePart (c : Char) : Bool :=
  c = '$' || c = '_' || c.isAlphanum || c.toNat = 0x200c || c.toNat = 0x200d
    || (0x80 ≤ c.toNat && Text.isIdentifierPart c)

/-! ### Escapes -/

/-- The number that the hexadecimal digits between braces write. -/
def bracedHex? (s : Source) : Option (Nat × Source) :=
  let (ds, s) := s.span fun c => (Hex.value? c).isSome
  match s.rest, Hex.toNat? (String.ofList ds) with
  | '}' :: _, some n => if n < 0x110000 then some (n, s.drop 1) else none
  | _, _ => none

/-- The number that `n` hexadecimal digits write. -/
def fixedHex? (n : Nat) (s : Source) : Option (Nat × Source) :=
  let ds := s.rest.take n
  if ds.length = n then (Hex.toNat? (String.ofList ds)).map (·, s.drop n) else none

/-- The number of the character that `\u` is followed by. -/
def unicodeEscape? (s : Source) : Option (Nat × Source) :=
  match s.rest with
  | '{' :: _ => bracedHex? (s.drop 1)
  | _ => fixedHex? 4 s

/-- The units that write the character or half a pair with the given number. -/
def unitsOfNumber (n : Nat) : List UInt16 :=
  if n < 0x10000 then [n.toUInt16] else Str.unitsOf (Char.ofNat n)

/-- What an escape writes. -/
structure Escape where
  units : List UInt16
  octal : Bool := false
  rest : Source

/-- The escape behind a backslash. -/
def escape? (s : Source) : Option Escape :=
  match s.rest with
  | [] => none
  | c :: more =>
    let one (n : Nat) : Option Escape := some { units := [n.toUInt16], rest := s.drop 1 }
    match c with
    | 'n' => one 10
    | 't' => one 9
    | 'b' => one 8
    | 'v' => one 11
    | 'f' => one 12
    | 'r' => one 13
    | 'x' => (fixedHex? 2 (s.drop 1)).map fun (n, s) => { units := [n.toUInt16], rest := s }
    | 'u' => (unicodeEscape? (s.drop 1)).map fun (n, s) => { units := unitsOfNumber n, rest := s }
    | '\r' =>
      match more with
      | '\n' :: _ => some { units := [], rest := s.drop 2 }
      | _ => some { units := [], rest := s.drop 1 }
    | _ =>
      if isLineEnd c then some { units := [], rest := s.drop 1 }
      else if '0' ≤ c ∧ c ≤ '7' then
        let digits := (s.rest.take (if c ≤ '3' then 3 else 2)).takeWhile fun d => '0' ≤ d && d ≤ '7'
        let n := digits.foldl (fun acc d => acc * 8 + (d.toNat - 48)) 0
        let plain := digits.length = 1 ∧ c = '0' ∧ !(more.head?.any Char.isDigit)
        some { units := [n.toUInt16], octal := !plain, rest := s.drop digits.length }
      else some { units := Str.unitsOf c, octal := c.isDigit, rest := s.drop 1 }

/-! ### Readers -/

/-- What was read, and the source behind it. -/
abbrev Reading := Option (Token × Source)

/-- A text literal behind its opening quote; `acc` holds its units, the last first. -/
def readString (quote : Char) : Nat → List UInt16 → Bool → Source → Reading
  | 0, _, _, _ => none
  | fuel + 1, acc, octal, s =>
    match s.rest with
    | [] => none
    | c :: _ =>
      if c = quote then some (.string ⟨acc.reverse⟩ octal, s.drop 1)
      else if c = '\\' then
        match escape? (s.drop 1) with
        | some e => readString quote fuel (e.units.reverse ++ acc) (octal || e.octal) e.rest
        | none => none
      else if c = '\n' ∨ c = '\r' then none
      else readString quote fuel ((Str.unitsOf c).reverse ++ acc) octal (s.drop 1)

/-- The units of a part of the source; a line end of any form counts as one line feed. -/
def rawUnits : List Char → List UInt16
  | [] => []
  | '\r' :: '\n' :: rest => 10 :: rawUnits rest
  | '\r' :: rest => 10 :: rawUnits rest
  | c :: rest => Str.unitsOf c ++ rawUnits rest

/-- A piece of a template up to its end; `cooked` and `raw` hold its units, the last first. -/
def readTemplate (isFirst : Bool) :
    Nat → Option (List UInt16) → List UInt16 → Source → Reading
  | 0, _, _, _ => none
  | fuel + 1, cooked, raw, s =>
    let piece (isLast : Bool) (n : Nat) : Reading :=
      some (.template (cooked.map fun us => ⟨us.reverse⟩) ⟨raw.reverse⟩ isFirst isLast, s.drop n)
    let go (read : Option (List UInt16)) (n : Nat) : Reading :=
      let cooked := do return (← read).reverse ++ (← cooked)
      readTemplate isFirst fuel cooked ((rawUnits (s.rest.take n)).reverse ++ raw) (s.drop n)
    match s.rest with
    | [] => none
    | '\x60' :: _ => piece true 1
    | '$' :: '{' :: _ => piece false 2
    | '\\' :: _ =>
      match escape? (s.drop 1) with
      | some e => if e.octal then go none 2 else go (some e.units) (e.rest.pos - s.pos)
      | none => go none 2
    | '\r' :: '\n' :: _ => go (some [10]) 2
    | c :: _ => go (some (rawUnits [c])) 1

/-- A name; `acc` holds its characters, the last first. -/
def readName : Nat → List Char → Bool → Source → Reading
  | 0, _, _, _ => none
  | fuel + 1, acc, escaped, s =>
    match s.rest with
    | '\\' :: 'u' :: _ =>
      match unicodeEscape? (s.drop 2) with
      | some (n, s) =>
        let c := Char.ofNat n
        if (if acc.isEmpty then isNameStart c else isNamePart c) then
          readName fuel (c :: acc) true s
        else none
      | none => none
    | c :: _ =>
      if isNamePart c then readName fuel (c :: acc) escaped (s.drop 1)
      else some (.name (String.ofList acc.reverse) escaped, s)
    | [] => some (.name (String.ofList acc.reverse) escaped, s)

/-- Digits of a number with single underscores between them. -/
def digitsOf (ok : Char → Bool) (s : Source) : Option (List Char × Source) :=
  let (ds, s) := s.span fun c => ok c || c = '_'
  let doubled := (ds.zip (ds.drop 1)).any fun (a, b) => a = '_' && b = '_'
  if ds.head? = some '_' ∨ ds.getLast? = some '_' ∨ doubled then none
  else some (ds.filter (· ≠ '_'), s)

/-- The number that digits write in a base. -/
def numberOf (base : Nat) (ds : List Char) : Nat :=
  ds.foldl (fun acc c => acc * base + (Hex.value? c).getD 0) 0

/-- A number in the base that its first letters name. -/
def readBased (base : Nat) (ok : Char → Bool) (s : Source) : Reading := do
  let (ds, s) ← digitsOf ok s
  if ds.isEmpty then none
  let n := numberOf base ds
  match s.rest with
  | 'n' :: _ => some (.bigint n, s.drop 1)
  | _ => some (.number (Decimal.toFloat n 0) false, s)

/-- An exponent, zero if there is none. -/
def readExponent (s : Source) : Option (Int × Source) :=
  match s.rest with
  | c :: more =>
    if c = 'e' ∨ c = 'E' then
      let negative := more.head? = some '-'
      let s := if negative ∨ more.head? = some '+' then s.drop 2 else s.drop 1
      match digitsOf Char.isDigit s with
      | some ([], _) => none
      | some (ds, s) =>
        let n : Int := min (numberOf 10 ds) 100000
        some (if negative then -n else n, s)
      | none => none
    else some (0, s)
  | [] => some (0, s)

/-- The rest of a decimal number with the digits `ds` in front. -/
def readFraction (ds : List Char) (s : Source) : Reading := do
  let (fraction, s) ←
    match s.rest with
    | '.' :: _ => digitsOf Char.isDigit (s.drop 1)
    | _ => some ([], s)
  if ds.isEmpty && fraction.isEmpty then none
  let (e, s) ← readExponent s
  some (.number (Decimal.toFloat (numberOf 10 (ds ++ fraction)) (e - fraction.length)) false, s)

/-- A number. -/
def readNumber (s : Source) : Reading :=
  match s.rest with
  | '0' :: x :: _ =>
    if x = 'x' ∨ x = 'X' then readBased 16 (fun c => (Hex.value? c).isSome) (s.drop 2)
    else if x = 'o' ∨ x = 'O' then readBased 8 (fun c => '0' ≤ c && c ≤ '7') (s.drop 2)
    else if x = 'b' ∨ x = 'B' then readBased 2 (fun c => c = '0' || c = '1') (s.drop 2)
    else if x.isDigit then
      let (ds, s) := s.span Char.isDigit
      let base := if ds.all fun c => c ≤ '7' then 8 else 10
      some (.number (Decimal.toFloat (numberOf base ds) 0) true, s)
    else if x = 'n' then some (.bigint 0, s.drop 2)
    else readFraction ['0'] (s.drop 1)
  | _ => do
    let (ds, s) ← digitsOf Char.isDigit s
    match s.rest with
    | 'n' :: _ => if ds.isEmpty then none else some (.bigint (numberOf 10 ds), s.drop 1)
    | _ => readFraction ds s

/-- The marks of the language, the longer before the shorter. -/
def marks : List (List Char) := [
  ">>>=", "...", "===", "!==", "**=", "<<=", ">>=", ">>>", "&&=", "||=", "??=",
  "=>", "==", "!=", "<=", ">=", "&&", "||", "??", "?.", "++", "--", "+=", "-=", "*=", "/=", "%=",
  "&=", "|=", "^=", "<<", ">>", "**",
  "\x7b", "\x7d", "(", ")", "[", "]", ";", ",", "<", ">", "+", "-", "*", "/", "%", "&", "|", "^",
  "!", "~", "?", ":", "=", "."].map String.toList

/-- A mark; a question mark and a point before a digit are two marks. -/
def readMark (s : Source) : Reading :=
  match marks.find? fun m => m.isPrefixOf s.rest with
  | none => none
  | some m =>
    if m = ['?', '.'] ∧ ((s.rest.drop 2).head?.any Char.isDigit) then some (.punct "?", s.drop 1)
    else some (.punct (String.ofList m), s.drop m.length)

/-! ### Blanks and comments -/

/-- What follows a comment that ends with its line. -/
def skipLine (s : Source) : Source := (s.span fun c => !isLineEnd c).2

/-- What follows a comment in stars, and whether a line ended in it. -/
def skipStars : List Char → Nat → Bool → Option (Source × Bool)
  | [], _, _ => none
  | [_], _, _ => none
  | c :: d :: rest, pos, nl =>
    if c = '*' ∧ d = '/' then some (⟨rest, pos + 2⟩, nl)
    else skipStars (d :: rest) (pos + 1) (nl || isLineEnd c)

/-- What follows blanks, line ends and comments, and whether a line ended among them.  With
`arrows`, comments may also start with `<!--`, and with `-->` at the start of a line. -/
def skipBlanks (arrows : Bool) : Nat → Bool → Source → Option (Source × Bool)
  | 0, nl, s => some (s, nl)
  | fuel + 1, nl, s =>
    match s.rest with
    | [] => some (s, nl)
    | '/' :: '/' :: _ => skipBlanks arrows fuel nl (skipLine s)
    | '/' :: '*' :: _ =>
      match skipStars (s.rest.drop 2) (s.pos + 2) nl with
      | some (s, nl) => skipBlanks arrows fuel nl s
      | none => none
    | c :: _ =>
      if isLineEnd c then skipBlanks arrows fuel true (s.drop 1)
      else if isSpace c then skipBlanks arrows fuel nl (s.drop 1)
      else if arrows && ("<!--".toList.isPrefixOf s.rest || nl && "-->".toList.isPrefixOf s.rest)
      then skipBlanks arrows fuel nl (skipLine s)
      else some (s, nl)

/-! ### All tokens -/

/-- The next token; `nested` tells for each open brace whether it belongs to a template, and `fuel`
exceeds the number of characters. -/
def readToken (fuel : Nat) (nested : List Bool) (s : Source) :
    Option (Token × List Bool × Source) :=
  match s.rest with
  | [] => none
  | c :: more =>
    if isNameStart c ∨ c = '\\' then
      (readName fuel [] false s).map fun (t, s) => (t, nested, s)
    else if c.isDigit ∨ (c = '.' ∧ more.head?.any Char.isDigit) then do
      let (t, s) ← readNumber s
      if s.rest.head?.any fun c => isNamePart c || c = '\\' then none
      else some (t, nested, s)
    else if c = '#' then
      match more with
      | d :: _ =>
        if isNameStart d ∨ d = '\\' then
          match readName fuel [] false (s.drop 1) with
          | some (.name n _, s) => some (.privateName ("#" ++ n), nested, s)
          | _ => none
        else none
      | [] => none
    else if c = '"' ∨ c = '\'' then
      (readString c fuel [] false (s.drop 1)).map fun (t, s) => (t, nested, s)
    else if c = '\x60' then piece nested (readTemplate true fuel (some []) [] (s.drop 1))
    else if c = '{' then some (.punct "\x7b", false :: nested, s.drop 1)
    else if c = '}' then
      match nested with
      | true :: nested => piece nested (readTemplate false fuel (some []) [] (s.drop 1))
      | _ :: nested => some (.punct "\x7d", nested, s.drop 1)
      | [] => some (.punct "\x7d", [], s.drop 1)
    else (readMark s).map fun (t, s) => (t, nested, s)
where
  /-- A piece of a template opens a brace unless it is the last. -/
  piece (nested : List Bool) (r : Reading) : Option (Token × List Bool × Source) :=
    match r with
    | some (.template cooked raw f true, rest) => some (.template cooked raw f true, nested, rest)
    | some (t, rest) => some (t, true :: nested, rest)
    | none => none

/-- Reads tokens until the source ends.  The start of the source counts as the start of a line. -/
def tokensFrom (arrows : Bool) :
    Nat → List Bool → Array Lexeme → Source → Option (Array Lexeme)
  | 0, _, _, _ => none
  | fuel + 1, nested, acc, s =>
    match skipBlanks arrows (fuel + 1) acc.isEmpty s with
    | none => none
    | some (s, nl) =>
      if s.rest.isEmpty then some (acc.push ⟨.finish, s.pos, s.pos, nl⟩)
      else
        match readToken (fuel + 1) nested s with
        | none => none
        | some (t, nested, after) =>
          tokensFrom arrows fuel nested (acc.push ⟨t, s.pos, after.pos, nl⟩) after

/-- The tokens of a source text, with `finish` at the end; nothing if a part of it is no token.
`arrows` tells whether comments may be written as arrows. -/
def tokenize (arrows : Bool) (source : List Char) : Option (Array Lexeme) :=
  let s : Source := ⟨source, 0⟩
  let s := match source with
    | '#' :: '!' :: _ => skipLine s
    | _ => s
  tokensFrom arrows (source.length + 2) [] #[] s

end ScriptBridge.Script
