import ScriptBridge.Script.Builtin.Basic

/-!
# JSON texts in scripts

Scripts read JSON texts into values of their own and write values as JSON texts.  Texts keep single
surrogates, and objects keep the order of their fields.
-/

namespace ScriptBridge.Script

/-- What a JSON text writes. -/
inductive JsonTree
  | null
  | bool (b : Bool)
  | number (x : Float)
  | string (s : Str)
  | array (items : List JsonTree)
  | object (fields : List (Str × JsonTree))

namespace JsonTree

/-- A reader of units. -/
abbrev Read (α : Type) := List UInt16 → Option (α × List UInt16)

/-- The unit of an ASCII character. -/
def unit (c : Char) : UInt16 := c.toNat.toUInt16

/-- The rest behind blanks. -/
def skip (s : List UInt16) : List UInt16 :=
  s.dropWhile fun u => u == 0x20 || u == 9 || u == 10 || u == 13

/-- The rest behind a word. -/
def word (w : String) (s : List UInt16) : Option (List UInt16) :=
  let units := (Str.ofString w).units
  if units.isPrefixOf s then some (s.drop units.length) else none

/-- The unit that four hexadecimal digits write. -/
def hexUnit (ds : List UInt16) : Option UInt16 :=
  let values := ds.map fun u => Hex.value? (Char.ofNat u.toNat)
  if ds.length = 4 && values.all Option.isSome then
    some (values.foldl (fun (acc : Nat) v => acc * 16 + v.getD 0) 0).toUInt16
  else none

/-- The unit that a letter behind a backslash stands for. -/
def escaped? (u : UInt16) : Option UInt16 :=
  match Char.ofNat u.toNat with
  | 'n' => some 10
  | 't' => some 9
  | 'r' => some 13
  | 'b' => some 8
  | 'f' => some 12
  | '"' => some u
  | '\\' => some u
  | '/' => some u
  | _ => none

/-- The rest of a text in quotes. -/
def quoted : Nat → Read (List UInt16)
  | 0, _ => none
  | fuel + 1, s =>
    match s with
    | [] => none
    | u :: rest =>
      if u == unit '"' then some ([], rest)
      else if u < 0x20 then none
      else if u == unit '\\' then
        match rest with
        | [] => none
        | v :: rest =>
          if v == unit 'u' then
            match hexUnit (rest.take 4) with
            | some w => (quoted fuel (rest.drop 4)).map fun (t, r) => (w :: t, r)
            | none => none
          else
            match escaped? v with
            | some w => (quoted fuel rest).map fun (t, r) => (w :: t, r)
            | none => none
      else (quoted fuel rest).map fun (t, r) => (u :: t, r)

/-- Whether a unit is a decimal digit. -/
def isDigit (u : UInt16) : Bool := 0x30 ≤ u && u ≤ 0x39

/-- A number. -/
def readNumber (s : List UInt16) : Option (Float × List UInt16) :=
  let (negative, s) := if s.head? == some (unit '-') then (true, s.drop 1) else (false, s)
  let whole := s.takeWhile isDigit
  let rest := s.dropWhile isDigit
  if whole.isEmpty || (whole.head? == some (unit '0') && 1 < whole.length) then none
  else
    let fraction? : Option (List UInt16 × List UInt16) :=
      if rest.head? == some (unit '.') then
        let ds := (rest.drop 1).takeWhile isDigit
        if ds.isEmpty then none else some (ds, (rest.drop 1).dropWhile isDigit)
      else some ([], rest)
    match fraction? with
    | none => none
    | some (fraction, rest) =>
      let exponent? : Option (Int × List UInt16) :=
        if rest.head? == some (unit 'e') || rest.head? == some (unit 'E') then
          let rest := rest.drop 1
          let minus := rest.head? == some (unit '-')
          let rest := if minus || rest.head? == some (unit '+') then rest.drop 1 else rest
          let ds := rest.takeWhile isDigit
          let n : Int := value ds
          if ds.isEmpty then none else some (if minus then -n else n, rest.dropWhile isDigit)
        else some (0, rest)
      match exponent? with
      | none => none
      | some (exponent, rest) =>
        let m := value (whole ++ fraction)
        let e := exponent - fraction.length
        let x := if 0 ≤ e then Float.ofScientific m false (min e 1000).toNat
          else Float.ofScientific m true (min (-e).toNat (whole.length + fraction.length + 400))
        some (if negative then -x else x, rest)
where
  value (ds : List UInt16) : Nat := ds.foldl (fun acc u => acc * 10 + (u.toNat - 0x30)) 0

/-- A value; `fuel` bounds the number of values and marks that are read. -/
def readValue : Nat → Read JsonTree
  | 0, _ => none
  | fuel + 1, s =>
    let s := skip s
    match s with
    | [] => none
    | u :: rest =>
      if u == unit '"' then
        (quoted (rest.length + 1) rest).map fun (t, r) => (.string ⟨t⟩, r)
      else if u == unit '[' then
        let rest := skip rest
        if rest.head? == some (unit ']') then some (.array [], rest.drop 1)
        else (readItems fuel rest).map fun (items, r) => (.array items, r)
      else if u == 0x7b then
        let rest := skip rest
        if rest.head? == some 0x7d then some (.object [], rest.drop 1)
        else (readFields fuel rest).map fun (fields, r) => (.object fields, r)
      else if isDigit u || u == unit '-' then
        (readNumber s).map fun (x, r) => (.number x, r)
      else
        match word "true" s, word "false" s, word "null" s with
        | some r, _, _ => some (.bool true, r)
        | _, some r, _ => some (.bool false, r)
        | _, _, some r => some (.null, r)
        | _, _, _ => none
where
  readItems : Nat → Read (List JsonTree)
    | 0, _ => none
    | fuel + 1, s =>
      match readValue fuel s with
      | none => none
      | some (v, rest) =>
        match skip rest with
        | [] => none
        | u :: rest =>
          if u == unit ']' then some ([v], rest)
          else if u == unit ',' then (readItems fuel rest).map fun (items, r) => (v :: items, r)
          else none
  readFields : Nat → Read (List (Str × JsonTree))
    | 0, _ => none
    | fuel + 1, s =>
      match skip s with
      | [] => none
      | q :: rest =>
        if q != unit '"' then none
        else
          match quoted (rest.length + 1) rest with
          | none => none
          | some (key, rest) =>
            match skip rest with
            | [] => none
            | colon :: rest =>
              if colon != unit ':' then none
              else
                match readValue fuel rest with
                | none => none
                | some (v, rest) =>
                  match skip rest with
                  | [] => none
                  | u :: rest =>
                    if u == 0x7d then some ([(⟨key⟩, v)], rest)
                    else if u == unit ',' then
                      (readFields fuel rest).map fun (fields, r) => ((⟨key⟩, v) :: fields, r)
                    else none

/-- What a whole text writes. -/
def ofStr? (s : Str) : Option JsonTree :=
  match readValue (2 * s.length + 2) s.units with
  | some (v, rest) => if (skip rest).isEmpty then some v else none
  | none => none

end JsonTree

namespace Proc

mutual

/-- Makes the value that a JSON text writes; its numbers are floats. -/
def buildTree : JsonTree → Proc Value
  | .null => pure .null
  | .bool b => pure (.bool b)
  | .number x => pure (.float x)
  | .string s => pure (.string s)
  | .array items => do arrayOf (← buildItems items)
  | .object fields => do
    let r ← allocPlain
    buildFields r fields
    return .object r

/-- Makes the items of an array. -/
def buildItems : List JsonTree → Proc (List Value)
  | [] => pure []
  | t :: rest => do
    let v ← buildTree t
    return v :: (← buildItems rest)

/-- Makes the fields of an object. -/
def buildFields (r : Ref) : List (Str × JsonTree) → Proc Unit
  | [] => pure ()
  | (k, t) :: rest => do
    let v ← buildTree t
    defineValue r (.ofStr k) v
    buildFields r rest

end

/-- Replaces the values of what was read, innermost first, by what a function makes of them. -/
def revive (f : Value) : Nat → Value → Key → Proc Value
  | 0, _, _ => throwNew .rangeError "Maximum call stack size exceeded"
  | fuel + 1, holder, k => do
    let v ← get holder k
    if let .object r := v then
      let keys ← match (← object r).kind with
        | .array n _ => pure ((List.range n).map Key.index)
        | _ => enumerableTexts r
      for key in keys do
        match ← revive f fuel v key with
        | .undefined => discard (deleteOwn r key)
        | x => defineValue r key x
    call f holder [keyValue k, v]

/-- Reads a JSON text. -/
def parseJson (c : NativeCall) : Proc Value := do
  let s ← toStr (c.arg 0)
  match JsonTree.ofStr? s with
  | none => throwNew .syntaxError "invalid JSON text"
  | some t =>
    let v ← buildTree t
    if ← isCallable (c.arg 1) then
      let root ← allocPlain
      defineValue root (Key.ofString "") v
      revive (c.arg 1) 5000 (.object root) (Key.ofString "")
    else return v

/-- A text in quotes. -/
def quotedText (s : Str) : Str :=
  ⟨0x22 :: go s.units⟩
where
  hex (u : UInt16) : List UInt16 :=
    let digit (n : Nat) : UInt16 := ((Nat.toDigits 16 n).getD 0 '0').toNat.toUInt16
    let n := u.toNat
    [0x5c, 0x75, digit (n / 4096), digit (n / 256 % 16), digit (n / 16 % 16), digit (n % 16)]
  go : List UInt16 → List UInt16
    | [] => [0x22]
    | [u] => one u ++ [0x22]
    | u :: v :: rest =>
      if Str.isHigh u && Str.isLow v then u :: v :: go rest else one u ++ go (v :: rest)
  one (u : UInt16) : List UInt16 :=
    if u == 0x22 || u == 0x5c then [0x5c, u]
    else if u == 8 then [0x5c, 0x62]
    else if u == 9 then [0x5c, 0x74]
    else if u == 10 then [0x5c, 0x6e]
    else if u == 12 then [0x5c, 0x66]
    else if u == 13 then [0x5c, 0x72]
    else if u < 0x20 || Str.isHigh u || Str.isLow u then hex u
    else [u]

/-- How values are written as a JSON text. -/
structure JsonStyle where
  replacer : Value
  allowed : Option (List Key)
  gap : Str

/-- The text of a list in brackets. -/
def bracketed (style : JsonStyle) (indent : Str) (opening closing : String) (parts : List Str) :
    Str :=
  if parts.isEmpty then Str.ofString (opening ++ closing)
  else if style.gap.units.isEmpty then
    Str.ofString opening ++ Str.intercalate (Str.ofString ",") parts ++ Str.ofString closing
  else
    let line := Str.ofString "\n" ++ indent ++ style.gap
    Str.ofString opening ++ line ++ Str.intercalate (Str.ofString "," ++ line) parts
      ++ Str.ofString "\n" ++ indent ++ Str.ofString closing

/-- The value that is written for a property. -/
def jsonValue (style : JsonStyle) (holder : Value) (k : Key) : Proc Value := do
  let v ← get holder k
  let converts := match v with
    | .object _ | .bigint _ => true
    | _ => false
  let v ← if converts then do
      let f ← get v (Key.ofString "toJSON")
      if ← isCallable f then call f v [keyValue k] else pure v
    else pure v
  let v ← match style.replacer with
    | .undefined => pure v
    | f => call f holder [keyValue k, v]
  match v with
  | .object r =>
    match (← object r).kind with
    | .boxed (.string _) => return .string (← toStr v)
    | .boxed (.int _) | .boxed (.float _) => toNumber v
    | .boxed (.bool b) => return .bool b
    | .boxed (.bigint n) => return .bigint n
    | _ => return v
  | v => return v

/-- The JSON text of a property; nothing if it has none. -/
def writeJson (style : JsonStyle) :
    Nat → List Ref → Str → Value → Key → Proc (Option Str)
  | 0, _, _, _, _ => throwNew .rangeError "Maximum call stack size exceeded"
  | fuel + 1, outer, indent, holder, k => do
    let v ← jsonValue style holder k
    match v with
    | .undefined | .symbol _ => return none
    | .string s => return some (quotedText s)
    | .float x => return some (Str.ofString (if x.isFinite then Value.floatText x else "null"))
    | .bigint _ => throwType "BigInt are forbidden in JSON.stringify"
    | .object r =>
      if ← isCallable v then return none
      if outer.contains r then throwType "circular reference"
      let inner := indent ++ style.gap
      match (← object r).kind with
      | .array n _ =>
        let mut parts : List Str := []
        for i in List.range n do
          let part ← writeJson style fuel (r :: outer) inner v (.index i)
          parts := part.getD (Str.ofString "null") :: parts
        return some (bracketed style indent "[" "]" parts.reverse)
      | _ =>
        let keys ← match style.allowed with
          | some keys => pure keys
          | none => enumerableTexts r
        let mut parts : List Str := []
        for key in keys do
          if let some part ← writeJson style fuel (r :: outer) inner v key then
            let colon := Str.ofString (if style.gap.units.isEmpty then ":" else ": ")
            parts := (quotedText (key.str?.getD Str.empty) ++ colon ++ part) :: parts
        return some (bracketed style indent "\x7b" "\x7d" parts.reverse)
    | v => return v.plainText?

/-- Whether an item of a list of fields names one. -/
def namesField (v : Value) : Proc Bool := do
  match v with
  | .string _ | .int _ | .float _ => return true
  | .object r =>
    match (← object r).kind with
    | .boxed (.string _) | .boxed (.int _) | .boxed (.float _) => return true
    | _ => return false
  | _ => return false

/-- Writes a value as a JSON text. -/
def stringifyJson (c : NativeCall) : Proc Value := do
  let isFunction ← isCallable (c.arg 1)
  let allowed ← match c.arg 1 with
    | .object r =>
      match (← object r).kind with
      | .array .. => do
        let mut keys : List Key := []
        for v in ← listOf r do
          if ← namesField v then
            let k ← toKey v
            unless keys.contains k do keys := keys ++ [k]
        pure (some keys)
      | _ => pure none
    | _ => pure none
  let space ← match c.arg 2 with
    | .object r =>
      match (← object r).kind with
      | .boxed (.int _) | .boxed (.float _) => toNumber (c.arg 2)
      | .boxed (.string _) => do pure (.string (← toStr (c.arg 2)))
      | _ => pure .undefined
    | v => pure v
  let gap := match space with
    | .int n => Str.ofString ("".pushn ' ' (min n.toInt 10).toNat)
    | .float x => Str.ofString ("".pushn ' ' (clamp 10 x).toNat)
    | .string s => s.slice 0 10
    | _ => Str.empty
  let style : JsonStyle := ⟨if isFunction then c.arg 1 else .undefined, allowed, gap⟩
  let root ← allocPlain
  defineValue root (Key.ofString "") (c.arg 0)
  match ← writeJson style 5000 [] Str.empty (.object root) (Key.ofString "") with
  | some s => return .string s
  | none => return .undefined

end Proc

/-- What `JSON` is made with. -/
def jsonStatics : List Builtin := [
  .method "parse" .jsonParse 2, .method "stringify" .jsonStringify 3, .tag "JSON"]

end ScriptBridge.Script
