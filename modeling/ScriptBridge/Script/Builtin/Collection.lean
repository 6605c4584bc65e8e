import ScriptBridge.Script.Builtin.Basic

/-!
# Maps and sets

A removed entry leaves a hole, so that iterations that are under way keep their places.
-/

namespace ScriptBridge.Script

namespace Proc

/-! ### Entries -/

/-- The entries of a map or a set. -/
abbrev Entries := Array (Option (Value × Value))

/-- The collection of a kind that a value is. -/
def heldEntries (v : Value) (type : CollectionKind) : Proc (Ref × Entries) := do
  let refuse : Proc (Ref × Entries) := throwType s!"{type.name} object expected"
  match v with
  | .object r =>
    match (← object r).kind with
    | .collection t entries => if t = type then return (r, entries) else refuse
    | _ => refuse
  | _ => refuse

/-- Where the entry of a key is. -/
def entryPlace? (entries : Entries) (k : Value) : Option Nat :=
  entries.findIdx? fun e => match e with
    | some (key, _) => key.sameValueZero k
    | none => false

/-- The number of entries. -/
def entryCount (entries : Entries) : Nat :=
  entries.foldl (fun n e => if e.isSome then n + 1 else n) 0

/-- A key as it is kept: zero has no sign. -/
def entryKey (k : Value) : Value :=
  match k with
  | .float x => if x == 0 then .int 0 else k
  | k => k

/-- The entries with one set. -/
def setEntry (entries : Entries) (k v : Value) : Entries :=
  match entryPlace? entries k with
  | some i => entries.setIfInBounds i (some ((entries[i]?).join.elim k (·.1), v))
  | none => entries.push (some (k, v))

/-- The entries without one. -/
def removeEntry (entries : Entries) (k : Value) : Entries :=
  match entryPlace? entries k with
  | some i => entries.setIfInBounds i none
  | none => entries

/-- Makes a set. -/
def allocSet (entries : Entries) : Proc Value := do
  return .object (← alloc { kind := .collection .set entries, proto := some Intrinsic.setProto })

/-- Whether a collection with weak keys can have a key. -/
def canBeWeak (k : Value) : Proc Bool := do
  match k with
  | .object _ => return true
  | .symbol id => return !((← world).sharedSymbols.any fun e => e.2 == id)
  | _ => return false

/-- Whether the keys of a kind of collections are weak. -/
def isWeak (type : CollectionKind) : Bool := type = .weakMap || type = .weakSet

/-- Calls a function on the entries from a place on; entries that are added meanwhile count, up to
`fuel` of them. -/
def eachEntry (r : Ref) (type : CollectionKind) (f : Value → Value → Proc Unit) :
    Nat → Nat → Proc Unit
  | 0, _ => pure ()
  | fuel + 1, i => do
    let (_, entries) ← heldEntries (.object r) type
    match entries[i]? with
    | none => pure ()
    | some none => eachEntry r type f fuel (i + 1)
    | some (some (k, v)) =>
      f k v
      eachEntry r type f fuel (i + 1)

/-- The most entries that one visit comes to. -/
def entryLimit : Nat := 2 ^ 24

/-! ### Making collections -/

/-- The prototype of collections of a kind. -/
def collectionProto : CollectionKind → Ref
  | .map => Intrinsic.mapProto
  | .set => Intrinsic.setProto
  | .weakMap => Intrinsic.weakMapProto
  | .weakSet => Intrinsic.weakSetProto

/-- Makes a collection. -/
def makeCollection (c : NativeCall) (type : CollectionKind) : Proc Value := do
  if c.isPlain then throwType "must be called with new"
  let proto ← protoFor c.newTarget (collectionProto type)
  let target := Value.object (← alloc { kind := .collection type #[], proto := some proto })
  let isMap := type = .map || type = .weakMap
  let source := c.arg 0
  if source.isNullish then return target
  let adder ← get target (Key.ofString (if isMap then "set" else "add"))
  unless ← isCallable adder do throwType "set/add is not a function"
  discard (consume source (.added target adder isMap))
  return target

/-! ### Sets and what is like a set -/

/-- What works as a set: its size, and its methods `has` and `keys`. -/
structure SetLike where
  object : Value
  size : Float
  has : Value
  keys : Value

/-- The set-like thing that a value is. -/
def toSetLike (v : Value) : Proc SetLike := do
  let size ← match ← get v (Key.ofString "size") with
    | .undefined => throwType ".size is undefined"
    | n => toFloat n
  if size.isNaN then throwType ".size is not a number"
  let method (name : String) : Proc Value := do
    let f ← get v (Key.ofString name)
    match f with
    | .undefined => throwType s!".{name} is undefined"
    | f => if ← isCallable f then return f else throwType s!".{name} is not a function"
  let has ← method "has"
  return { object := v, size, has, keys := ← method "keys" }

namespace SetLike

/-- Whether something is in a set. -/
def contains (s : SetLike) (v : Value) : Proc Bool := do return (← call s.has s.object [v]).truthy

/-- What is in a set. -/
def members (s : SetLike) : Proc (List Value) := do
  let iterator ← call s.keys s.object []
  unless isObject iterator do throwType "not an object"
  match ← ask (.collect iterator (← get iterator (Key.ofString "next")) []) with
  | .values vs => return vs
  | _ => return []

end SetLike

/-- Runs a function that compares or joins a set with another. -/
def runSetOperation (f : CollectionFn) (c : NativeCall) : Proc Value := do
  let (r, entries) ← heldEntries c.this .set
  let other ← toSetLike (c.arg 0)
  let size := (entryCount entries).toFloat
  let holds (entries : Entries) (v : Value) : Bool := (entryPlace? entries (entryKey v)).isSome
  let current : Proc Entries := do return (← heldEntries (.object r) .set).2
  let pick (keep : Bool) : Proc Value := do
    let target ← allocSet #[]
    eachEntry r .set (fun k _ => do
      if (← other.contains k) == keep then
        let (q, entries) ← heldEntries target .set
        setKind q (.collection .set (setEntry entries k k))) entryLimit 0
    return target
  match f with
  | .union =>
    let mut result := entries.filter Option.isSome
    for v in ← other.members do result := setEntry result (entryKey v) (entryKey v)
    allocSet result
  | .intersection =>
    if other.size < size then
      let mut result : Entries := #[]
      for v in ← other.members do
        if holds (← current) v then result := setEntry result (entryKey v) (entryKey v)
      allocSet result
    else pick true
  | .difference =>
    if other.size < size then
      let mut result := entries.filter Option.isSome
      for v in ← other.members do result := removeEntry result (entryKey v)
      allocSet result
    else pick false
  | .symmetricDifference =>
    let mut result := entries.filter Option.isSome
    for v in ← other.members do
      result := if holds (← current) v then removeEntry result (entryKey v)
        else setEntry result (entryKey v) (entryKey v)
    allocSet result
  | .isSubsetOf =>
    if other.size < size then return .bool false
    let outside ← allocCell (.bool false)
    eachEntry r .set (fun k _ => do
      unless (← cellValue outside).truthy do
        unless ← other.contains k do setKind outside (.cell (.bool true))) entryLimit 0
    return .bool !(← cellValue outside).truthy
  | .isSupersetOf =>
    if size < other.size then return .bool false
    let members ← other.members
    return .bool (members.all (holds (← current)))
  | _ =>
    if other.size < size then
      let members ← other.members
      return .bool !(members.any (holds (← current)))
    let shared ← allocCell (.bool false)
    eachEntry r .set (fun k _ => do
      unless (← cellValue shared).truthy do
        if ← other.contains k then setKind shared (.cell (.bool true))) entryLimit 0
    return .bool !(← cellValue shared).truthy

/-! ### The functions -/

/-- Runs a function of maps and sets. -/
def runCollection (f : CollectionFn) (c : NativeCall) : Proc Value := do
  let k := entryKey (c.arg 0)
  let put (type : CollectionKind) (k v : Value) : Proc Value := do
    let (r, entries) ← heldEntries c.this type
    if isWeak type then
      unless ← canBeWeak k do throwType s!"invalid value used as {type.name} key"
    setKind r (.collection type (setEntry entries k v))
    return c.this
  match f with
  | .make type => makeCollection c type
  | .get type =>
    let (_, entries) ← heldEntries c.this type
    match (entryPlace? entries k).bind fun i => (entries[i]?).join with
    | some (_, v) => return v
    | none => return .undefined
  | .set type => put type k (c.arg 1)
  | .add type => put type k k
  | .has type =>
    let (_, entries) ← heldEntries c.this type
    return .bool (entryPlace? entries k).isSome
  | .delete type =>
    let (r, entries) ← heldEntries c.this type
    setKind r (.collection type (removeEntry entries k))
    return .bool (entryPlace? entries k).isSome
  | .clear type =>
    let (r, entries) ← heldEntries c.this type
    setKind r (.collection type (entries.map fun _ => none))
    return .undefined
  | .size type =>
    let (_, entries) ← heldEntries c.this type
    return Value.ofNat (entryCount entries)
  | .forEach type =>
    let (r, _) ← heldEntries c.this type
    callback (c.arg 0)
    eachEntry r type (fun k v => discard (call (c.arg 0) (c.arg 1) [v, k, c.this])) entryLimit 0
    return .undefined
  | .iterate type what =>
    let (r, _) ← heldEntries c.this type
    let proto := if type = .map then Intrinsic.mapIteratorProto else Intrinsic.setIteratorProto
    makeIterator proto (.entries r 0 what)
  | .groupBy =>
    callback (c.arg 1)
    consume (c.arg 0) (.grouped (c.arg 1) true [])
  | .union | .intersection | .difference | .symmetricDifference | .isSubsetOf | .isSupersetOf
  | .isDisjointFrom => runSetOperation f c

end Proc

namespace CollectionKind

/-- What all collections of a kind have. -/
def methods (type : CollectionKind) : List Builtin :=
  let has : Builtin := .method "has" (.collection (.has type)) 1
  let delete : Builtin := .method "delete" (.collection (.delete type)) 1
  let sized : List Builtin := [
    .method "clear" (.collection (.clear type)) 0, .getter "size" (.collection (.size type)),
    .method "forEach" (.collection (.forEach type)) 1]
  let through (name : String) (what : IterationKind) : Builtin :=
    .method name (.collection (.iterate type what)) 0
  let iterator := Key.symbol Symbols.iterator
  let own : List Builtin := match type with
    | .map => [
      .method "set" (.collection (.set type)) 2, .method "get" (.collection (.get type)) 1, has,
      delete] ++ sized ++ [
      through "values" .values, through "keys" .keys, through "entries" .entries,
      .alias iterator (Key.ofString "entries")]
    | .set => [.method "add" (.collection (.add type)) 1, has, delete] ++ sized ++ [
      .method "isDisjointFrom" (.collection .isDisjointFrom) 1,
      .method "isSubsetOf" (.collection .isSubsetOf) 1,
      .method "isSupersetOf" (.collection .isSupersetOf) 1,
      .method "intersection" (.collection .intersection) 1,
      .method "difference" (.collection .difference) 1,
      .method "symmetricDifference" (.collection .symmetricDifference) 1,
      .method "union" (.collection .union) 1,
      through "values" .values, .alias (Key.ofString "keys") (Key.ofString "values"),
      .alias iterator (Key.ofString "values"), through "entries" .entries]
    | .weakMap => [
      .method "set" (.collection (.set type)) 2, .method "get" (.collection (.get type)) 1, has,
      delete]
    | .weakSet => [.method "add" (.collection (.add type)) 1, has, delete]
  own ++ [.tag type.name]

/-- What the constructor of a kind is made with. -/
def statics (type : CollectionKind) : List Builtin :=
  match type with
  | .map => [.method "groupBy" (.collection .groupBy) 2, .species]
  | .set => [.species]
  | _ => []

end CollectionKind

end ScriptBridge.Script
