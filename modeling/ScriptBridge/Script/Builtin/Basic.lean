import ScriptBridge.Script.Promise

/-!
# Built-in functions in general

A `NativeCall` is what a built-in function gets, and a `Builtin` is where it is found.  Each module
of this folder runs the functions of one family and lists where they are found.
-/

namespace ScriptBridge.Script

/-- A call of a built-in function. -/
structure NativeCall where
  this : Value
  args : List Value
  /-- The constructor that `new` was used with; `undefined` without `new`. -/
  newTarget : Value := .undefined
  /-- The values that the function captures. -/
  captured : List Value := []

namespace NativeCall

/-- An argument; `undefined` if it was left out. -/
def arg (c : NativeCall) (i : Nat) : Value := c.args.getD i .undefined

/-- Whether the function was called without `new`. -/
def isPlain (c : NativeCall) : Bool :=
  match c.newTarget with
  | .undefined => true
  | _ => false

/-- A captured value. -/
def capture (c : NativeCall) (i : Nat) : Value := c.captured.getD i .undefined

end NativeCall

/-- What an object is made with, under a key. -/
inductive Builtin
  | function (key : Key) (name : String) (code : Native) (length : Nat)
  /-- A property that functions read and, if there is the other, write. -/
  | accessor (key : Key) (name : String) (get : Native) (set : Option Native)
  /-- What also stands under another key of the object. -/
  | alias (key original : Key)
  /-- What the global object has under the key. -/
  | shared (key : Key)
  | value (key : Key) (p : Property)

namespace Builtin

/-- A function under its name. -/
def method (name : String) (code : Native) (length : Nat) : Builtin :=
  .function (Key.ofString name) name code length

/-- A function under a well-known symbol. -/
def atSymbol (id : Nat) (name : String) (code : Native) (length : Nat) : Builtin :=
  .function (.symbol id) name code length

/-- A property that a function computes. -/
def getter (name : String) (code : Native) : Builtin :=
  .accessor (Key.ofString name) name code none

/-- The constructor of what is made from an object: the constructor itself. -/
def species : Builtin := .accessor (.symbol Symbols.species) "[Symbol.species]" .species none

/-- A name for the kind of an object. -/
def tag (name : String) : Builtin :=
  .value (.symbol Symbols.toStringTag) ⟨.data (.ofString name), false, false, true⟩

/-- A number that never changes. -/
def constant (name : String) (x : Float) : Builtin :=
  .value (Key.ofString name) (.fixed (.float x))

end Builtin

namespace Proc

/-- The keys that are texts, of an object's own enumerable properties. -/
def enumerableTexts (r : Ref) : Proc (List Key) := do
  return (← enumerableKeys r).filter fun k => k.str?.isSome

/-- A key as a value. -/
def keyValue : Key → Value
  | .symbol id | .hidden id => .symbol id
  | k => .string (k.str?.getD Str.empty)

/-- Defines a property; a refusal is thrown. -/
def defineOrThrow (r : Ref) (k : Key) (d : Descriptor) : Proc Unit := do
  match ← defineOwn r k d with
  | none => pure ()
  | some .badLength => throwNew .rangeError "invalid array length"
  | some f => throwType (f.message (k.label (← world)))

/-- Makes an ordinary property; a refusal is thrown. -/
def createValue (r : Ref) (k : Key) (v : Value) : Proc Unit :=
  defineOrThrow r k
    { value := some v, writable := some true, enumerable := some true, configurable := some true }

/-- Makes an array of values. -/
def arrayOf (items : List Value) : Proc Value := do return .object (← allocArray items)

/-- Makes an array of two values. -/
def pairOf (a b : Value) : Proc Value := arrayOf [a, b]

/-- A callback, which must be callable. -/
def callback (f : Value) : Proc Unit := do
  unless ← isCallable f do throwType "not a function"

/-- Copies the own enumerable properties of a value, but those under the keys `except`. -/
def copyProperties (target : Ref) (source : Value) (except : List Key) : Proc Unit := do
  if source.isNullish then return
  let r ← toObject source
  for k in ← enumerableKeys r do
    unless except.contains k do
      defineValue target k (← getOf r k)

/-- Whether a value is an array. -/
def isArray (v : Value) : Proc Bool := do
  match v with
  | .object r =>
    match (← object r).kind with
    | .array .. => return true
    | _ => return false
  | _ => return false

/-- The word for what an object is. -/
def kindWord (v : Value) : Proc String := do
  match v with
  | .undefined => return "Undefined"
  | .null => return "Null"
  | v =>
    let r ← toObject v
    let o ← object r
    return match o.kind with
      | .array .. => "Array"
      | .function _ | .native .. | .bound .. => "Function"
      | .error => "Error"
      | .boxed (.bool _) => "Boolean"
      | .boxed (.string _) => "String"
      | .boxed (.int _) | .boxed (.float _) => "Number"
      | .arguments => "Arguments"
      | _ => "Object"

/-- The text of a value as an object without a text of its own. -/
def tagText (v : Value) : Proc Value := do
  let word ← kindWord v
  let tag ← if v.isNullish then pure .undefined else get v (.symbol Symbols.toStringTag)
  match tag with
  | .string s => return .string (Str.ofString "[object " ++ s ++ Str.ofString "]")
  | _ => return Value.ofString s!"[object {word}]"

/-- Makes an iterator of the language's own kind. -/
def makeIterator (proto : Ref) (state : Iteration) : Proc Value := do
  return .object (← alloc { kind := .iterator state, proto := some proto })

end Proc

end ScriptBridge.Script
