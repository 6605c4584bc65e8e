import ScriptBridge.Script.Builtin.Basic
import ScriptBridge.Script.Builtin.Sorting

/-!
# Functions of arrays

They work on any object with a length.  What they make of an array is made by the constructor that
the array names.
-/

namespace ScriptBridge.Script

namespace Proc

/-! ### Items -/

/-- Assigns the length of an array or a similar object. -/
def setLength (r : Ref) (n : Nat) : Proc Unit := set (.object r) Key.length (Value.ofNat n) true

/-- The item at a place, if there is one. -/
def itemAt? (r : Ref) (i : Nat) : Proc (Option Value) := do
  if ← hasProperty r (.ofNat i) then return some (← getOf r (.ofNat i)) else return none

/-- Puts an item at a place, or removes the one there. -/
def putItem (r : Ref) (i : Nat) (v : Option Value) : Proc Unit := do
  match v with
  | some v => set (.object r) (.ofNat i) v true
  | none =>
    unless ← deleteOwn r (.ofNat i) do throwType "could not delete property"

/-- Puts items at places from `i` on. -/
def putItems (r : Ref) (i : Nat) : List (Option Value) → Proc Unit
  | [] => pure ()
  | v :: rest => do
    putItem r i v
    putItems r (i + 1) rest

/-- Moves the last `count` of `total` items from places from `source` on to places from `target`
on, or, if `backwards`, the first `count`, the last of them first.  Holes move too. -/
def moveItems (r : Ref) (target source total : Nat) (backwards : Bool) : Nat → Proc Unit
  | 0 => pure ()
  | count + 1 => do
    let i := if backwards then count else total - (count + 1)
    putItem r (target + i) (← itemAt? r (source + i))
    moveItems r target source total backwards count

/-- Removes the items at `count` places from `start` on, the last first. -/
def dropItems (r : Ref) (start : Nat) : Nat → Proc Unit
  | 0 => pure ()
  | count + 1 => do
    putItem r (start + count) none
    dropItems r start count

/-- Fails if no array or similar object is that long. -/
def checkLength (n : Nat) : Proc Unit := do
  if 2 ^ 53 - 1 < n then throwType "Array loo long"

/-- Makes an array of `n` holes. -/
def emptyArray (n : Nat) : Proc Ref := do
  if 2 ^ 32 ≤ n then throwNew .rangeError "invalid array length"
  alloc { kind := .array n false, proto := some Intrinsic.arrayProto }

/-- Makes an object with a constructor, or an array if that is none. -/
def arrayBy (ctor : Value) (args : List Value) : Proc Ref := do
  if ← isConstructor ctor then
    match ← construct ctor args ctor with
    | .object r => return r
    | _ => throwType "not an object"
  else
    match args with
    | [n] => emptyArray (clamp (2 ^ 53) (n.number?.getD 0.0)).toNat
    | _ => emptyArray 0

/-- Makes what an operation on `r` fills: for an array, what its constructor says. -/
def arrayLike (r : Ref) (n : Nat) : Proc Ref := do
  unless ← isArray (.object r) do return ← emptyArray n
  let ctor ← getOf r (Key.ofString "constructor")
  let ctor ← match ctor with
    | .object c =>
      if c == Intrinsic.array then pure .undefined
      else
        match ← getOf c (.symbol Symbols.species) with
        | .null => pure .undefined
        | s => pure s
    | v => pure v
  match ctor with
  | .undefined => emptyArray n
  | ctor =>
    unless isObject ctor do throwType "not a function"
    match ← construct ctor [Value.ofNat n] ctor with
    | .object q => return q
    | _ => throwType "not an object"

/-- Copies the items from places from `start` on, `count` of them, to places from `i` on. -/
def copyItems (source target : Ref) (start i : Nat) : Nat → Proc Unit
  | 0 => pure ()
  | count + 1 => do
    if let some v ← itemAt? source start then createValue target (.ofNat i) v
    copyItems source target (start + 1) (i + 1) count

/-! ### Visits -/

/-- Visits the places `i`, `i + 1`, … of an object, `count` of them, that hold something: goes on
with a state until one visit ends early. -/
def visit {σ : Type} (r : Ref) (step : σ → Nat → Value → Proc (σ ⊕ σ)) (i : Nat) :
    Nat → σ → Proc σ
  | 0, s => pure s
  | count + 1, s => do
    match ← itemAt? r i with
    | none => visit r step (i + 1) count s
    | some v =>
      match ← step s i v with
      | .inl s => visit r step (i + 1) count s
      | .inr s => return s

/-- Visits the places before `i` from the last to the first. -/
def visitBack {σ : Type} (r : Ref) (step : σ → Nat → Value → Proc (σ ⊕ σ)) : Nat → σ → Proc σ
  | 0, s => pure s
  | i + 1, s => do
    match ← itemAt? r i with
    | none => visitBack r step i s
    | some v =>
      match ← step s i v with
      | .inl s => visitBack r step i s
      | .inr s => return s

/-- The first place from `i` on, of `count`, whose item passes a test, with the item. -/
def findFrom (r : Ref) (test : Nat → Value → Proc Bool) (i : Nat) :
    Nat → Proc (Option (Nat × Value))
  | 0 => pure none
  | count + 1 => do
    let v ← getOf r (.ofNat i)
    if ← test i v then return some (i, v) else findFrom r test (i + 1) count

/-- The last place before `i` whose item passes a test, with the item. -/
def findBack (r : Ref) (test : Nat → Value → Proc Bool) : Nat → Proc (Option (Nat × Value))
  | 0 => pure none
  | i + 1 => do
    let v ← getOf r (.ofNat i)
    if ← test i v then return some (i, v) else findBack r test i

/-! ### Texts -/

/-- The text of the items with a text between them; `undefined` and `null` have none. -/
def joinItems (r : Ref) (n : Nat) (sep : Str) (text : Value → Proc Str) : Proc Value := do
  let mut parts : List Str := []
  for i in List.range n do
    let v ← getOf r (.ofNat i)
    parts := (← if v.isNullish then pure Str.empty else text v) :: parts
  return .string (Str.intercalate sep parts.reverse)

/-! ### Sorting -/

/-- An item that is sorted: its place, and its text if that is what counts. -/
structure SortItem where
  value : Value
  place : Nat
  text : Str
deriving Inhabited

/-- The order of two items: as a function says, or that of their texts; of equals, that of their
places. -/
def sortOrder (f : Value) (a b : SortItem) : Proc Ordering := do
  let order ← match f with
    | .undefined => pure (if a.text == b.text then .eq else if a.text.less b.text then .lt else .gt)
    | f =>
      if a.value.sameValue b.value then pure .eq
      else
        let x ← toFloat (← call f .undefined [a.value, b.value])
        pure (if 0 < x then Ordering.gt else if x < 0 then .lt else .eq)
  return order.then (compare a.place b.place)

/-- Sorts the items of an object; holes come last, behind what is `undefined`. -/
def sortItems (r : Ref) (n : Nat) (f : Value) : Proc Unit := do
  let found ← visit r (fun acc i v => pure (.inl ((v, i) :: acc))) 0 n []
  let isUndefined : Value × Nat → Bool
    | (.undefined, _) => true
    | _ => false
  let held := found.reverse.filter fun e => !isUndefined e
  let byText := f.isNullish && 1 < held.length
  let items ← held.mapM fun (value, place) => do
    return { value, place, text := ← if byText then toStr value else pure Str.empty }
  let sorted ← Sorting.sort (sortOrder f) items
  for (e, i) in sorted.zipIdx do
    unless e.place = i do putItem r i (some e.value)
  let blanks := found.filter isUndefined
  putItems r sorted.length (blanks.map fun _ => some .undefined)
  putItems r found.length (List.replicate (n - found.length) none)

/-- A function that compares, or `undefined`. -/
def comparer (f : Value) : Proc Unit :=
  match f with
  | .undefined => pure ()
  | f => callback f

/-! ### Flattening -/

/-- Whether `concat` puts in the items of a value. -/
def isSpread (v : Value) : Proc Bool := do
  match v with
  | .object r =>
    match ← getOf r (.symbol Symbols.isConcatSpreadable) with
    | .undefined => isArray v
    | flag => return flag.truthy
  | _ => return false

/-- Puts the items of an object behind the `at_` items of `target`, and those of arrays among them
instead of the arrays, `depth` levels down.  Counts the items that `target` has then. -/
def flatten (target : Ref) (change : Ref → Nat → Value → Proc Value) :
    Nat → Ref → Nat → Nat → Proc Nat
  | depth, source, n, at_ =>
    visit source (fun at_ i v => do
      let v ← change source i v
      match v, depth with
      | .object r, depth + 1 =>
        if ← isArray v then
          return .inl (← flatten target (fun _ _ v => pure v) depth r (← lengthOf r) at_)
      | _, _ => pure ()
      createValue target (.ofNat at_) v
      return .inl (at_ + 1)) 0 n at_

/-! ### Functions that call others on the items -/

/-- Runs a function that calls another on the items of an object. -/
def runArrayCallback (f : ArrayFn) (r : Ref) (n : Nat) (c : NativeCall) : Proc Value := do
  let g := c.arg 0
  callback g
  let apply (v : Value) (i : Nat) : Proc Value := call g (c.arg 1) [v, Value.ofNat i, .object r]
  let test (i : Nat) (v : Value) : Proc Bool := do return (← apply v i).truthy
  let place (p : Option (Nat × Value)) : Value := match p with
    | some (i, _) => Value.ofNat i
    | none => .int (-1)
  let item (p : Option (Nat × Value)) : Value := (p.map (·.2)).getD .undefined
  match f with
  | .forEach =>
    visit r (fun _ i v => do discard (apply v i); return .inl ()) 0 n ()
    return .undefined
  | .map =>
    let target ← arrayLike r n
    visit r (fun _ i v => do
      createValue target (.ofNat i) (← apply v i)
      return .inl ()) 0 n ()
    return .object target
  | .filter =>
    let target ← arrayLike r 0
    discard (visit r (fun k i v => do
      if ← test i v then
        createValue target (.ofNat k) v
        return .inl (k + 1)
      return .inl k) 0 n 0)
    return .object target
  | .some => return .bool (← visit r (fun _ i v => do
      return if ← test i v then .inr true else .inl false) 0 n false)
  | .every => return .bool (← visit r (fun _ i v => do
      return if ← test i v then .inl true else .inr false) 0 n true)
  | .find => return item (← findFrom r test 0 n)
  | .findIndex => return place (← findFrom r test 0 n)
  | .findLast => return item (← findBack r test n)
  | .findLastIndex => return place (← findBack r test n)
  | .flatMap =>
    let target ← arrayLike r 0
    discard (flatten target (fun _ i v => apply v i) 1 r n 0)
    return .object target
  | .reduce | .reduceRight =>
    let start := if c.args.length < 2 then none else some (c.arg 1)
    let step (acc : Option Value) (i : Nat) (v : Value) : Proc (Option Value ⊕ Option Value) := do
      match acc with
      | none => return .inl (some v)
      | some a => return .inl (some (← call g .undefined [a, v, Value.ofNat i, .object r]))
    let result ← if f = .reduce then visit r step 0 n start else visitBack r step n start
    match result with
    | some v => return v
    | none => throwType "empty array"
  | _ => return .undefined

/-! ### Functions that change an object -/

/-- Takes a part out of an object and puts other items in; what is taken out is an array. -/
def spliceItems (r : Ref) (n : Nat) (args : List Value) : Proc Value := do
  let start ← toPosition (args.getD 0 .undefined) n 0
  let count ← match args with
    | [] => pure 0
    | [_] => pure (n - start)
    | _ :: v :: _ => pure (min (← toInteger v).toNat (n - start))
  let added := args.drop 2
  checkLength (n + added.length - count)
  let removed ← arrayLike r count
  copyItems r removed start 0 count
  setLength removed count
  let behind := n - (start + count)
  if added.length ≠ count then
    moveItems r (start + added.length) (start + count) behind (count < added.length) behind
    dropItems r (n + added.length - count) (count - added.length)
  putItems r start (added.map some)
  setLength r (n + added.length - count)
  return .object removed

/-- Reverses the items of an object, from both ends to the middle. -/
def reverseItems (r : Ref) (n : Nat) : Proc Unit := do
  for i in List.range (n / 2) do
    let j := n - 1 - i
    let low ← itemAt? r i
    let high ← itemAt? r j
    match low, high with
    | none, none => pure ()
    | low, high =>
      putItem r i high
      putItem r j low

/-- Runs a function that changes an object. -/
def runArrayChange (f : ArrayFn) (r : Ref) (n : Nat) (c : NativeCall) : Proc Value := do
  match f with
  | .push =>
    checkLength (n + c.args.length)
    putItems r n (c.args.map some)
    setLength r (n + c.args.length)
    return Value.ofNat (n + c.args.length)
  | .unshift =>
    checkLength (n + c.args.length)
    unless c.args.isEmpty do moveItems r c.args.length 0 n true n
    putItems r 0 (c.args.map some)
    setLength r (n + c.args.length)
    return Value.ofNat (n + c.args.length)
  | .pop =>
    if n = 0 then
      setLength r 0
      return .undefined
    let v ← getOf r (.ofNat (n - 1))
    putItem r (n - 1) none
    setLength r (n - 1)
    return v
  | .shift =>
    if n = 0 then
      setLength r 0
      return .undefined
    let v ← getOf r (.ofNat 0)
    moveItems r 0 1 (n - 1) false (n - 1)
    putItem r (n - 1) none
    setLength r (n - 1)
    return v
  | .splice => spliceItems r n c.args
  | .reverse =>
    reverseItems r n
    return .object r
  | .fill =>
    let start ← toPosition (c.arg 1) n 0
    let stop ← toPosition (c.arg 2) n n
    putItems r start (List.replicate (stop - start) (some (c.arg 0)))
    return .object r
  | .copyWithin =>
    let target ← toPosition (c.arg 0) n 0
    let start ← toPosition (c.arg 1) n 0
    let stop ← toPosition (c.arg 2) n n
    let count := min (stop - start) (n - target)
    moveItems r target start count (start < target && target < start + count) count
    return .object r
  | _ =>
    sortItems r n (c.arg 0)
    return .object r

/-! ### Functions that make a changed copy -/

/-- The items of an object, in the order of the places, or backwards. -/
def itemsAt (r : Ref) (places : List Nat) : Proc (List Value) :=
  places.mapM fun i => getOf r (.ofNat i)

/-- Runs a function that makes a changed copy of an object. -/
def runArrayCopy (f : ArrayFn) (r : Ref) (n : Nat) (c : NativeCall) : Proc Value := do
  let fits (n : Nat) : Proc Unit := do
    if 2 ^ 31 ≤ n then throwNew .rangeError "invalid array length"
  match f with
  | .withItem =>
    fits n
    let i ← toInteger (c.arg 0)
    let i := if i < 0 then n + i else i
    unless 0 ≤ i ∧ i < n do throwNew .rangeError s!"invalid array index: {i}"
    let items ← itemsAt r (List.range n)
    arrayOf (items.set i.toNat (c.arg 1))
  | .toReversed =>
    fits n
    arrayOf (← itemsAt r (List.range n).reverse)
  | .toSorted =>
    fits n
    let copy ← allocArray (← itemsAt r (List.range n))
    sortItems copy n (c.arg 0)
    return .object copy
  | .toSpliced =>
    let start ← toPosition (c.arg 0) n 0
    let count ← match c.args with
      | [] => pure 0
      | [_] => pure (n - start)
      | _ :: v :: _ => pure (min (← toInteger v).toNat (n - start))
    let added := c.args.drop 2
    fits (n + added.length - count)
    let before ← itemsAt r (List.range start)
    let behind ← itemsAt r ((List.range n).drop (start + count))
    arrayOf (before ++ added ++ behind)
  | .slice =>
    let start ← toPosition (c.arg 0) n 0
    let stop ← toPosition (c.arg 1) n n
    let target ← arrayLike r (stop - start)
    copyItems r target start 0 (stop - start)
    setLength target (stop - start)
    return .object target
  | .concat =>
    let target ← arrayLike r 0
    let mut size := 0
    for v in Value.object r :: c.args do
      match ← isSpread v, v with
      | true, .object q =>
        let count ← lengthOf q
        checkLength (size + count)
        copyItems q target 0 size count
        size := size + count
      | _, v =>
        createValue target (.ofNat size) v
        size := size + 1
    setLength target size
    return .object target
  | _ =>
    let depth ← match c.arg 0 with
      | .undefined => pure 1
      | v => pure (min (← toInteger v).toNat 5000)
    let target ← arrayLike r 0
    discard (flatten target (fun _ _ v => pure v) depth r n 0)
    return .object target

/-! ### Functions that look something up -/

/-- Runs a function that looks something up in an object. -/
def runArrayQuery (f : ArrayFn) (r : Ref) (n : Nat) (c : NativeCall) : Proc Value := do
  let wanted := c.arg 0
  let missing := Value.int (-1)
  let hit (_ : Value) (i : Nat) (v : Value) : Proc (Value ⊕ Value) :=
    pure (if v.strictEquals wanted then .inr (Value.ofNat i) else .inl missing)
  match f with
  | .at =>
    let i ← toInteger wanted
    let i := if i < 0 then n + i else i
    if 0 ≤ i ∧ i < n then getOf r (.ofNat i.toNat) else return .undefined
  | .indexOf =>
    if n = 0 then return missing
    let start ← toPosition (c.arg 1) n 0
    visit r hit start (n - start) missing
  | .lastIndexOf =>
    if n = 0 then return missing
    let stop ← if c.args.length < 2 then pure n else do
      let i ← toInteger (c.arg 1)
      pure (if i < 0 then (n + i + 1).toNat else min n (i.toNat + 1))
    visitBack r hit stop missing
  | .includes =>
    if n = 0 then return .bool false
    let start ← toPosition (c.arg 1) n 0
    let found ← findFrom r (fun _ v => pure (v.sameValueZero wanted)) start (n - start)
    return .bool found.isSome
  | .join =>
    let sep ← match wanted with
      | .undefined => pure (Str.ofString ",")
      | v => toStr v
    joinItems r n sep toStr
  | .toLocaleString =>
    joinItems r n (Str.ofString ",") fun v => do
      toStr (← invoke v (Key.ofString "toLocaleString") [])
  | .keys => makeIterator Intrinsic.arrayIteratorProto (.items (.object r) 0 .keys)
  | .values => makeIterator Intrinsic.arrayIteratorProto (.items (.object r) 0 .values)
  | _ => makeIterator Intrinsic.arrayIteratorProto (.items (.object r) 0 .entries)

/-! ### Making arrays -/

/-- Makes an array as its constructor does. -/
def makeArray (c : NativeCall) : Proc Value := do
  let proto ← protoFor c.newTarget Intrinsic.arrayProto
  let count? ← match c.args with
    | [.int n] => pure (some (lengthOf? (.int n)))
    | [.float x] => pure (some (lengthOf? (.float x)))
    | _ => pure none
  match count? with
  | some none => throwNew .rangeError "invalid array length"
  | some (some n) => return .object (← alloc { kind := .array n false, proto := some proto })
  | none => return .object (← alloc { arrayObject c.args with proto := some proto })

/-- Makes an array of the items of an iteration or of an object with a length. -/
def arrayFrom (c : NativeCall) : Proc Value := do
  let f := c.arg 1
  comparer f
  let method ← get (c.arg 0) (.symbol Symbols.iterator)
  if method.isNullish then
    let r ← toObject (c.arg 0)
    let n ← lengthOf r
    let target ← arrayBy c.this [Value.ofNat n]
    for i in List.range n do
      let v ← getOf r (.ofNat i)
      let v ← match f with
        | .undefined => pure v
        | f => call f (c.arg 2) [v, Value.ofNat i]
      createValue target (.ofNat i) v
    setLength target n
    return .object target
  else
    unless ← isCallable method do throwType "value is not iterable"
    let target ← arrayBy c.this []
    consume (c.arg 0) (.mapped target f (c.arg 2))

/-- Runs a function of arrays. -/
def runArray (f : ArrayFn) (c : NativeCall) : Proc Value := do
  match f with
  | .make => makeArray c
  | .isArray => return .bool (← isArray (c.arg 0))
  | .of =>
    let target ← arrayBy c.this [Value.ofNat c.args.length]
    for (v, i) in c.args.zipIdx do createValue target (.ofNat i) v
    setLength target c.args.length
    return .object target
  | .from => arrayFrom c
  | .toString =>
    let r ← toObject c.this
    let join ← getOf r (Key.ofString "join")
    if ← isCallable join then call join (.object r) []
    else tagText (.object r)
  | f =>
    if f = .sort || f = .toSorted then comparer (c.arg 0)
    let r ← toObject c.this
    let n ← lengthOf r
    match f with
    | .push | .unshift | .pop | .shift | .splice | .reverse | .fill | .copyWithin | .sort =>
      runArrayChange f r n c
    | .withItem | .toReversed | .toSorted | .toSpliced | .slice | .concat | .flat =>
      runArrayCopy f r n c
    | .at | .indexOf | .lastIndexOf | .includes | .join | .toLocaleString | .keys | .values
    | .entries => runArrayQuery f r n c
    | f => runArrayCallback f r n c

end Proc

namespace ArrayFn

/-- The functions found in the constructor. -/
def statics : List Builtin := [
  .method "isArray" (.array .isArray) 1, .method "from" (.array .from) 1,
  .method "of" (.array .of) 0, .method "fromAsync" (.array .fromAsync) 1, .species]

/-- The functions found in every array. -/
def methods : List Builtin := [
  .method "at" (.array .at) 1, .method "with" (.array .withItem) 2,
  .method "concat" (.array .concat) 1, .method "every" (.array .every) 1,
  .method "some" (.array .some) 1, .method "forEach" (.array .forEach) 1,
  .method "map" (.array .map) 1, .method "filter" (.array .filter) 1,
  .method "reduce" (.array .reduce) 1, .method "reduceRight" (.array .reduceRight) 1,
  .method "fill" (.array .fill) 1, .method "find" (.array .find) 1,
  .method "findIndex" (.array .findIndex) 1, .method "findLast" (.array .findLast) 1,
  .method "findLastIndex" (.array .findLastIndex) 1, .method "indexOf" (.array .indexOf) 1,
  .method "lastIndexOf" (.array .lastIndexOf) 1, .method "includes" (.array .includes) 1,
  .method "join" (.array .join) 1, .method "toString" (.array .toString) 0,
  .method "toLocaleString" (.array .toLocaleString) 0, .method "pop" (.array .pop) 0,
  .method "push" (.array .push) 1, .method "shift" (.array .shift) 0,
  .method "unshift" (.array .unshift) 1, .method "reverse" (.array .reverse) 0,
  .method "toReversed" (.array .toReversed) 0, .method "sort" (.array .sort) 1,
  .method "toSorted" (.array .toSorted) 1, .method "slice" (.array .slice) 2,
  .method "splice" (.array .splice) 2, .method "toSpliced" (.array .toSpliced) 2,
  .method "copyWithin" (.array .copyWithin) 2, .method "flatMap" (.array .flatMap) 1,
  .method "flat" (.array .flat) 0, .method "values" (.array .values) 0,
  .alias (.symbol Symbols.iterator) (Key.ofString "values"),
  .method "keys" (.array .keys) 0, .method "entries" (.array .entries) 0]

end ArrayFn

end ScriptBridge.Script
