import ScriptBridge.Decimal.Shortest
import ScriptBridge.Json.Basic
import ScriptBridge.Text.Hex

/-!
# TOML documents

`Toml.read` reads a document of TOML 1.0 as a table.  Tables keep their entries in the order in
which they were written, and remember how they came about, because that decides what a later
line may add to them.  A malformed document yields nothing.
-/

namespace ScriptBridge

/-- How a table came about. -/
inductive TableForm
  /-- It was written in braces, and nothing can be added to it. -/
  | closed
  /-- It has a header line of its own. -/
  | header
  /-- It was only passed through by the header of a table inside it. -/
  | implied
  /-- It was made by a dotted key. -/
  | dotted
deriving DecidableEq, Repr

/-- A value of a document. -/
inductive Toml
  | text (s : String)
  | integer (n : Int)
  | real (x : Float)
  | truth (b : Bool)
  /-- A date, a time or both. -/
  | moment
  | list (items : List Toml)
  | table (form : TableForm) (entries : List (String × Toml))
  /-- The tables of a repeated header. -/
  | rows (tables : List (List (String × Toml)))
deriving Inhabited

namespace Toml

/-- The entries of a table, in order. -/
abbrev Entries := List (String × Toml)

/-! ### Characters -/

/-- What is read: a value and the characters behind it. -/
abbrev Read (α : Type) := List Char → Option (α × List Char)

/-- A blank within a line. -/
def isBlank (c : Char) : Bool := c = ' ' || c = '\t'

/-- A character that may stand in a comment. -/
def inComment (c : Char) : Bool := c = '\t' || (' ' ≤ c && c ≤ '~') || '\x80' ≤ c

/-- A character of a key without quotes. -/
def inKey (c : Char) : Bool := c.isAlphanum || c = '-' || c = '_'

/-- A character of a text between single quotes. -/
def inLiteral (c : Char) : Bool := inComment c && c != '\''

/-- A character that stands for itself between double quotes. -/
def inBasic (c : Char) : Bool := inComment c && c != '"' && c != '\\'

/-- What follows the blanks. -/
def skipBlanks (s : List Char) : List Char := s.dropWhile isBlank

/-- What follows the line end at the front. -/
def newline? : List Char → Option (List Char)
  | '\n' :: rest => some rest
  | '\r' :: '\n' :: rest => some rest
  | _ => none

/-- What follows the comment at the front, if there is one. -/
def skipComment : List Char → List Char
  | '#' :: rest => rest.dropWhile inComment
  | s => s

/-- What follows the rest of a line: blanks, a comment, and a line end or the end of all. -/
def endOfLine? (s : List Char) : Option (List Char) :=
  match skipComment (skipBlanks s) with
  | [] => some []
  | s => newline? s

/-- What follows blanks, comments and line ends; `fuel` bounds their number. -/
def skipLines : Nat → List Char → List Char
  | 0, s => s
  | fuel + 1, s =>
    match skipBlanks s with
    | '#' :: rest =>
      match newline? (rest.dropWhile inComment) with
      | some rest => skipLines fuel rest
      | none => '#' :: rest
    | s =>
      match newline? s with
      | some rest => skipLines fuel rest
      | none => s

/-! ### Texts -/

/-- The character with the number that `n` digits in base sixteen write. -/
def scalar? (n : Nat) (s : List Char) : Option (Char × List Char) := do
  let ds := s.take n
  if ds.length ≠ n then none
  let v ← Hex.toNat? (String.ofList ds)
  if v < 0xd800 ∨ (0xdfff < v ∧ v < 0x110000) then some (Char.ofNat v, s.drop n) else none

/-- The character that an escape writes, behind its backslash. -/
def escape? : Read Char
  | 'b' :: s => some (Char.ofNat 8, s)
  | 't' :: s => some ('\t', s)
  | 'n' :: s => some ('\n', s)
  | 'f' :: s => some (Char.ofNat 12, s)
  | 'r' :: s => some ('\r', s)
  | '"' :: s => some ('"', s)
  | '\\' :: s => some ('\\', s)
  | 'u' :: s => scalar? 4 s
  | 'U' :: s => scalar? 8 s
  | _ => none

/-- A text behind its opening double quote. -/
def basic? : Nat → List Char → Read String
  | 0, _, _ => none
  | fuel + 1, acc, s =>
    match s with
    | '"' :: rest => some (String.ofList acc.reverse, rest)
    | '\\' :: rest => do
      let (c, rest) ← escape? rest
      basic? fuel (c :: acc) rest
    | c :: rest => if inBasic c then basic? fuel (c :: acc) rest else none
    | [] => none

/-- A text behind its opening single quote. -/
def literal? (s : List Char) : Option (String × List Char) :=
  match s.dropWhile inLiteral with
  | '\'' :: rest => some (String.ofList (s.takeWhile inLiteral), rest)
  | _ => none

/-- The blanks and line ends that a backslash at the end of a line joins: at least one line end. -/
def joinLines? (s : List Char) : Option (List Char) :=
  match newline? (skipBlanks s) with
  | some rest => some (go rest.length rest)
  | none => none
where
  go : Nat → List Char → List Char
    | 0, s => s
    | fuel + 1, s =>
      match newline? (skipBlanks s) with
      | some rest => go fuel rest
      | none => skipBlanks s

/-- A text of several lines behind its three opening quotes; `quote` is which quote, and only
between double quotes a backslash escapes. -/
def lines? (quote : Char) : Nat → List Char → Read String
  | 0, _, _ => none
  | fuel + 1, acc, s =>
    let run := s.takeWhile (· = quote)
    if 3 ≤ run.length then
      let extra := min (run.length - 3) 2
      some (String.ofList (acc.reverse ++ List.replicate extra quote), s.drop (3 + extra))
    else if run ≠ [] then lines? quote fuel (run ++ acc) (s.drop run.length)
    else
      match newline? s with
      | some rest => lines? quote fuel ('\n' :: acc) rest
      | none =>
        match s with
        | '\\' :: rest =>
          if quote = '"' then
            match joinLines? rest with
            | some rest => lines? quote fuel acc rest
            | none => do
              let (c, rest) ← escape? rest
              lines? quote fuel (c :: acc) rest
          else lines? quote fuel ('\\' :: acc) rest
        | c :: rest => if inComment c then lines? quote fuel (c :: acc) rest else none
        | [] => none

/-- A text of several lines without the line end behind its opening quotes. -/
def block? (quote : Char) (s : List Char) : Option (String × List Char) :=
  let body := (newline? s).getD s
  lines? quote (body.length + 1) [] body

/-- A text of any form. -/
def text? : Read String
  | '"' :: '"' :: '"' :: s => block? '"' s
  | '\'' :: '\'' :: '\'' :: s => block? '\'' s
  | '"' :: s => basic? (s.length + 1) [] s
  | '\'' :: s => literal? s
  | _ => none

/-! ### Keys -/

/-- How deep values and dotted keys may go. -/
def depthLimit : Nat := 80

/-- One part of a key. -/
def keyPart? : Read String
  | '"' :: s => basic? (s.length + 1) [] s
  | '\'' :: s => literal? s
  | s =>
    match s.takeWhile inKey with
    | [] => none
    | part => some (String.ofList part, s.drop part.length)

/-- A dotted key: its parts, with blanks around them. -/
def key? : Nat → Read (List String)
  | 0, _ => none
  | fuel + 1, s => do
    let (part, s) ← keyPart? (skipBlanks s)
    match skipBlanks s with
    | '.' :: s =>
      let (parts, s) ← key? fuel s
      some (part :: parts, s)
    | s => some ([part], s)

/-! ### Numbers and moments -/

/-- The digits at the front that satisfy `ok`, with single underscores between them. -/
def digits? (ok : Char → Bool) : Read (List Char)
  | c :: rest => if ok c then some (go ok rest.length [c] rest) else none
  | [] => none
where
  go (ok : Char → Bool) : Nat → List Char → List Char → List Char × List Char
    | 0, acc, s => (acc.reverse, s)
    | fuel + 1, acc, s =>
      match s with
      | '_' :: c :: rest =>
        if ok c then go ok fuel (c :: acc) rest else (acc.reverse, s)
      | c :: rest => if ok c then go ok fuel (c :: acc) rest else (acc.reverse, s)
      | [] => (acc.reverse, [])

/-- The number that digits of a base write. -/
def number (base : Nat) (ds : List Char) : Nat :=
  ds.foldl (fun acc c => acc * base + (Hex.value? c).getD 0) 0

/-- The sign at the front: whether it is a minus. -/
def sign (s : List Char) : Bool × List Char :=
  match s with
  | '-' :: rest => (true, rest)
  | '+' :: rest => (false, rest)
  | s => (false, s)

/-- The digits of a whole number in base ten: without zeros in front. -/
def whole? (s : List Char) : Option (List Char × List Char) :=
  match s with
  | '0' :: rest => some (['0'], rest)
  | s => digits? Char.isDigit s

/-- An exponent, if there is one; nothing if it has no digits. -/
def exponent? (s : List Char) : Option (Int × List Char) :=
  match s with
  | [] => some (0, [])
  | c :: rest =>
    if c = 'e' ∨ c = 'E' then do
      let (negative, rest) := sign rest
      let (ds, rest) ← digits? Char.isDigit rest
      let n : Int := number 10 ds
      some (if negative then -n else n, rest)
    else some (0, s)

/-- An integer that sixty-four bits hold. -/
def fit (n : Int) : Option Toml :=
  if -(2 ^ 63) ≤ n ∧ n < 2 ^ 63 then some (.integer n) else none

/-- A number in the base that its first letters name. -/
def based? (base : Nat) (ok : Char → Bool) (s : List Char) : Option (Toml × List Char) := do
  let (ds, rest) ← digits? ok s
  some (← fit (number base ds), rest)

/-- A number. -/
def number? (s : List Char) : Option (Toml × List Char) :=
  match s with
  | '0' :: 'x' :: s => based? 16 (fun c => (Hex.value? c).isSome) s
  | '0' :: 'o' :: s => based? 8 (fun c => '0' ≤ c && c ≤ '7') s
  | '0' :: 'b' :: s => based? 2 (fun c => c = '0' || c = '1') s
  | s =>
    let (negative, body) := sign s
    match body with
    | 'i' :: 'n' :: 'f' :: rest => some (.real (if negative then -1.0 / 0.0 else 1.0 / 0.0), rest)
    | 'n' :: 'a' :: 'n' :: rest => some (.real (0.0 / 0.0), rest)
    | _ => do
      let (ds, rest) ← whole? body
      let whole : Int := number 10 ds
      let real (ds : List Char) (places : Nat) (e : Int) (rest : List Char) :=
        let x := Decimal.toFloat (number 10 ds) (e - places)
        if negative then some (.real (-x), rest)
        else if x.isInf then none
        else some (Toml.real x, rest)
      match rest with
      | '.' :: rest =>
        let (fraction, rest) ← digits? Char.isDigit rest
        let (e, rest) ← exponent? rest
        real (ds ++ fraction) fraction.length e rest
      | c :: _ =>
        if c = 'e' ∨ c = 'E' then
          let (e, rest) ← exponent? rest
          real ds 0 e rest
        else some (← fit (if negative then -whole else whole), rest)
      | [] => some (← fit (if negative then -whole else whole), rest)

/-- Exactly `n` digits, as a number. -/
def exactly? (n : Nat) (s : List Char) : Option (Nat × List Char) :=
  let ds := s.take n
  if ds.length = n ∧ ds.all Char.isDigit then some (number 10 ds, s.drop n) else none

/-- The days of a month. -/
def daysIn (year month : Nat) : Nat :=
  if month = 2 then
    if year % 4 = 0 ∧ (year % 100 ≠ 0 ∨ year % 400 = 0) then 29 else 28
  else if month = 4 ∨ month = 6 ∨ month = 9 ∨ month = 11 then 30
  else 31

/-- What a reader of moments finds: nothing of the kind, a fault, or what is behind it. -/
inductive Found
  | nothing
  | fault
  | behind (rest : List Char)

/-- A time of day. -/
def findTime (s : List Char) : Found :=
  match exactly? 2 s with
  | some (hour, ':' :: s) =>
    if 23 < hour then .nothing
    else
      match exactly? 2 s with
      | some (minute, ':' :: s) =>
        match exactly? 2 s with
        | some (second, s) =>
          if 59 < minute ∨ 60 < second then .fault
          else
            match s with
            | '.' :: rest =>
              match rest.takeWhile Char.isDigit with
              | [] => .behind s
              | ds => .behind (rest.drop ds.length)
            | s => .behind s
        | none => .fault
      | _ => .fault
  | _ => .nothing

/-- The distance from universal time, if there is one. -/
def findZone (s : List Char) : Found :=
  match s with
  | [] => .behind []
  | c :: rest =>
    if c = 'Z' ∨ c = 'z' then .behind rest
    else if c = '+' ∨ c = '-' then
      match exactly? 2 rest with
      | some (hour, ':' :: rest) =>
        match exactly? 2 rest with
        | some (minute, rest) => if 23 < hour ∨ 59 < minute then .fault else .behind rest
        | none => .fault
      | _ => .fault
    else .behind s

/-- A date, perhaps with a time, or a time. -/
def findMoment (s : List Char) : Found :=
  match exactly? 4 s with
  | some (year, '-' :: rest) =>
    match exactly? 2 rest with
    | some (month, '-' :: rest) =>
      match exactly? 2 rest with
      | some (day, rest) =>
        if month < 1 ∨ 12 < month ∨ day < 1 ∨ daysIn year month < day then .fault
        else
          match rest with
          | c :: later =>
            if c = 'T' ∨ c = 't' ∨ c = ' ' then
              match findTime later with
              | .nothing => .behind rest
              | .fault => .fault
              | .behind later => findZone later
            else .behind rest
          | [] => .behind []
      | none => .fault
    | _ => .fault
  | _ => findTime s

/-! ### Tables -/

/-- The entries with the value of `key` removed. -/
def erase (key : String) (entries : Entries) : Entries := entries.filter fun e => e.1 != key

/-- The entries with the value of `key` replaced, or added behind them. -/
def put (key : String) (value : Toml) : Entries → Entries
  | [] => [(key, value)]
  | (k, v) :: rest => if k = key then (k, value) :: rest else (k, v) :: put key value rest

/-- Changes the entries of the table at the end of `path`.  Tables on the way are made in the form
`fresh`; a dotted key (`fresh = .dotted`) may not enter a table with a header. -/
def atPath (fresh : TableForm) (change : TableForm → Entries → Option Entries) :
    List String → TableForm → Entries → Option Entries
  | [], form, entries => change form entries
  | key :: path, _, entries =>
    match entries.lookup key with
    | none => do
      let inner ← atPath fresh change path fresh []
      some (put key (.table fresh inner) entries)
    | some (.table form inner) =>
      if form = .closed ∨ (fresh = .dotted ∧ form = .header) then none
      else do
        let inner ← atPath fresh change path form inner
        some (put key (.table form inner) entries)
    | some (.rows tables) =>
      match tables.reverse with
      | last :: earlier => do
        let last ← atPath fresh change path .header last
        some (put key (.rows (earlier.reverse ++ [last])) entries)
      | [] => none
    | some _ => none

/-- Adds the value of a dotted key to the table it is written in. -/
def addKey (path : List String) (value : Toml) (entries : Entries) : Option Entries := do
  let key ← path.getLast?
  let way := path.dropLast
  atPath .dotted
    (fun form inner =>
      if way ≠ [] ∧ form ≠ .dotted then none
      else if (inner.lookup key).isSome then none
      else some (inner ++ [(key, value)]))
    way .header entries

/-- The table of a braced list of keys and values. -/
def ofPairs (pairs : List (List String × Toml)) : Option Toml :=
  (pairs.foldlM (fun entries p => addKey p.1 p.2 entries) []).map (.table .closed)

/-! ### Values -/

mutual

/-- A value; `depth` more lists and tables may be opened. -/
def value? (fuel depth : Nat) (s : List Char) : Option (Toml × List Char) :=
  match fuel with
  | 0 => none
  | fuel + 1 =>
    match s with
    | [] => none
    | '[' :: rest => if depth = 0 then none else items? fuel (depth - 1) [] rest
    | '{' :: rest =>
      if depth = 0 then none
      else
        match skipBlanks rest with
        | '}' :: rest => some (.table .closed [], rest)
        | rest => pairs? fuel (depth - 1) [] rest
    | 't' :: 'r' :: 'u' :: 'e' :: rest => some (.truth true, rest)
    | 'f' :: 'a' :: 'l' :: 's' :: 'e' :: rest => some (.truth false, rest)
    | '"' :: _ | '\'' :: _ => (text? s).map fun (t, rest) => (.text t, rest)
    | _ =>
      match findMoment s with
      | .behind rest => some (.moment, rest)
      | .fault => none
      | .nothing => number? s

/-- The items of a list behind `acc`, the last first. -/
def items? (fuel depth : Nat) (acc : List Toml) (s : List Char) : Option (Toml × List Char) :=
  match fuel with
  | 0 => none
  | fuel + 1 =>
    match skipLines s.length s with
    | ']' :: rest => some (.list acc.reverse, rest)
    | s => do
      let (v, s) ← value? fuel depth s
      match skipLines s.length s with
      | ',' :: rest => items? fuel depth (v :: acc) rest
      | ']' :: rest => some (.list (v :: acc).reverse, rest)
      | _ => none

/-- The keys and values of a braced table behind `acc`, the last first. -/
def pairs? (fuel depth : Nat) (acc : List (List String × Toml)) (s : List Char) :
    Option (Toml × List Char) :=
  match fuel with
  | 0 => none
  | fuel + 1 => do
    let (key, s) ← key? depthLimit s
    match s with
    | '=' :: s =>
      let (v, s) ← value? fuel depth (skipBlanks s)
      match skipBlanks s with
      | ',' :: rest => pairs? fuel depth ((key, v) :: acc) rest
      | '}' :: rest => some (← ofPairs ((key, v) :: acc).reverse, rest)
      | _ => none
    | _ => none

end

/-! ### Documents -/

/-- A document as far as it was read: what lies outside of the table of the last header, the path
of that header, whether the header is a repeated one, and the table. -/
structure Draft where
  outside : Entries := []
  path : List String := []
  repeated : Bool := false
  entries : Entries := []

/-- All of the document: the table of the last header in its place. -/
def Draft.close (d : Draft) : Option Entries :=
  match d.path.getLast? with
  | none => some d.entries
  | some key =>
    atPath .implied
      (fun _ inner =>
        match inner.lookup key with
        | none =>
          some (inner ++
            [(key, if d.repeated then .rows [d.entries] else .table .header d.entries)])
        | some (.rows tables) =>
          if d.repeated then some (put key (.rows (tables ++ [d.entries])) inner) else none
        | some (.table .implied _) =>
          if d.repeated then none else some (put key (.table .header d.entries) inner)
        | some (.table .dotted _) =>
          if d.repeated then none else some (put key (.table .header d.entries) inner)
        | some _ => none)
      d.path.dropLast .header d.outside

/-- Starts the table of the header `path`. -/
def Draft.openTable (d : Draft) (path : List String) : Option Draft := do
  let outside ← d.close
  let key ← path.getLast?
  let way := path.dropLast
  let outside ← atPath .implied (fun _ inner => some inner) way .header outside
  let found := descend outside way >>= (·.lookup key)
  match found with
  | none => some ⟨outside, path, false, []⟩
  | some (.table .implied inner) =>
    let outside ← atPath .implied (fun _ e => some (erase key e)) way .header outside
    some ⟨outside, path, false, inner⟩
  | some _ => none
where
  descend (entries : Entries) : List String → Option Entries
    | [] => some entries
    | key :: path =>
      match entries.lookup key with
      | some (.table _ inner) => descend inner path
      | some (.rows tables) => tables.getLast? >>= fun t => descend t path
      | _ => none

/-- Starts a table of the repeated header `path`. -/
def Draft.openRow (d : Draft) (path : List String) : Option Draft := do
  let outside ← d.close
  let key ← path.getLast?
  let outside ← atPath .implied
    (fun _ inner =>
      match inner.lookup key with
      | none => some (inner ++ [(key, .rows [])])
      | some (.rows _) => some inner
      | some _ => none)
    path.dropLast .header outside
  some ⟨outside, path, true, []⟩

/-- One line, from its first character that is not blank. -/
def line? (d : Draft) (s : List Char) : Option (Draft × List Char) :=
  match s with
  | '#' :: rest => do
    let rest ← endOfLine? ('#' :: rest)
    some (d, rest)
  | '[' :: '[' :: s => do
    let (path, s) ← key? depthLimit s
    match s with
    | ']' :: ']' :: s =>
      let s ← endOfLine? s
      some (← d.openRow path, s)
    | _ => none
  | '[' :: s => do
    let (path, s) ← key? depthLimit s
    match s with
    | ']' :: s =>
      let s ← endOfLine? s
      some (← d.openTable path, s)
    | _ => none
  | s =>
    match newline? s with
    | some rest => some (d, rest)
    | none => do
      let (path, s) ← key? depthLimit s
      match s with
      | '=' :: s =>
        let s := skipBlanks s
        let (v, s) ← value? (2 * s.length + 2) (depthLimit - 1) s
        let s ← endOfLine? s
        some ({ d with entries := ← addKey path v d.entries }, s)
      | _ => none

/-- The lines of a document. -/
def linesFrom : Nat → Draft → List Char → Option Entries
  | 0, _, _ => none
  | fuel + 1, d, s =>
    match skipBlanks s with
    | [] => d.close
    | s => do
      let (d, s) ← line? d s
      linesFrom fuel d s

/-- The table that a document writes; a byte order mark may stand in front. -/
def read (s : String) : Option Entries :=
  let body := match s.toList with
    | '\uFEFF' :: rest => rest
    | all => all
  linesFrom (body.length + 1) {} body

/-! ### Naming values -/

/-- Floats are written without exponents, and with a zero behind the point if there is nothing
else. -/
def realLayout : Decimal.Layout := ⟨400, -400, ".0"⟩

/-- How a value is named where another was expected. -/
def describe : Toml → String
  | .text s => s!"string \"{s}\""
  | .integer n => s!"integer \x60{n}\x60"
  | .real x =>
    let t := match Decimal.parts? x with
      | some p => realLayout.finite true p
      | none => if x.isNaN then "NaN" else if x < 0 then "-inf" else "inf"
    s!"floating point \x60{t}\x60"
  | .truth b => s!"boolean \x60{b}\x60"
  | .list _ | .rows _ => "sequence"
  | .moment | .table .. => "map"

end Toml

end ScriptBridge
