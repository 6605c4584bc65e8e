import ScriptBridge.Script.Builtin.Basic
import ScriptBridge.Script.Parser.Statement

/-!
# Functions of functions
-/

namespace ScriptBridge.Script

namespace Proc

/-- The name that a function shows, if it has one. -/
def shownName (r : Ref) : Proc Str := do
  match (← ownProperty r (Key.ofString "name")).map Property.holding with
  | some (.data (.string s)) => return s
  | _ => return Str.empty

/-- The text of a function. -/
def functionText (v : Value) : Proc Value := do
  match v with
  | .object r =>
    let o ← object r
    match o.kind with
    | .function c => return Value.ofString c.func.info.text
    | .native .. | .bound .. =>
      return .string (Str.ofString "function " ++ (← shownName r)
        ++ Str.ofString "() \x7b\n    [native code]\n\x7d")
    | _ => throwType "not a function"
  | _ => throwType "not a function"

/-- The most arguments that a list may hold. -/
def argumentLimit : Nat := 65535

/-- The arguments that a list-like object holds. -/
def argumentsOf (v : Value) : Proc (List Value) := do
  match v with
  | .object r =>
    let n ← lengthOf r
    if argumentLimit < n then
      throwNew .rangeError
        s!"too many arguments in function call (only {argumentLimit} allowed)"
    itemsFrom r 0 n
  | _ => throwType "not a object"

/-- Makes a function that calls another with a fixed `this` and first arguments. -/
def bindFunction (target this : Value) (args : List Value) : Proc Value := do
  match target with
  | .object t =>
    unless ← isCallable target do throwType "not a function"
    let length ← match (← ownProperty t Key.length).map Property.holding with
      | some (.data v) => pure (clamp (2 ^ 31) (v.number?.getD 0.0)).toNat
      | _ => pure 0
    let name ← shownName t
    let proto := (← object t).proto
    return .object (← alloc {
      kind := .bound target this args
      proto
      props := #[
        (Key.length, ⟨.data (Value.ofNat (length - args.length)), false, false, true⟩),
        (Key.ofString "name", ⟨.data (.string (Str.ofString "bound " ++ name)),
          false, false, true⟩)] })
  | _ => throwType "not a function"

/-- Runs a text as a program where some code runs. -/
def evalText (source : Str) (env : Env) (newTarget : Bool) : Proc Value := do
  match parseEvaluated env.isStrict newTarget source.toStringLossy with
  | .ok p => return valueOf (← ask (.evaluated p env))
  | .error f => throwNew .syntaxError f.message

/-- The place of code that is not inside any other. -/
def outermost : Env := ⟨Intrinsic.globalScope, "<input>", false, 0⟩

/-- Makes a function of texts: its parameters and its body. -/
def composeFunction (isAsync isGenerator : Bool) (c : NativeCall) : Proc Value := do
  let texts ← c.args.mapM toStr
  let params := Str.intercalate (Str.ofString ",") texts.dropLast
  let body := texts.getLastD Str.empty
  let word := (if isAsync then "(async function" else "(function") ++
    if isGenerator then "*" else ""
  let source := Str.ofString (word ++ " anonymous(") ++ params ++ Str.ofString "\n) \x7b\n" ++ body
    ++ Str.ofString "\n\x7d)"
  let f ← evalText source outermost false
  if let (.object r, false) := (f, c.isPlain) then
    let dflt := (← object r).proto.getD Intrinsic.functionProto
    let proto ← protoFor c.newTarget dflt
    modifyObject r fun o => { o with proto := some proto }
  return f

/-- What asking a function for its caller comes to: nothing for a function that is not strict. -/
def refuseCaller (this : Value) : Proc Value := do
  let refuse : Proc Value := throwType "invalid property access"
  match this with
  | .object r =>
    match (← object r).kind with
    | .function c =>
      let info := c.func.info
      if info.isStrict || info.kind ≠ .ordinary || info.isAsync then refuse else return .undefined
    | _ => refuse
  | _ => refuse

/-- Runs a function of functions. -/
def runFunction (f : FunctionFn) (c : NativeCall) : Proc Value := do
  match f with
  | .make isAsync isGenerator => composeFunction isAsync isGenerator c
  | .prototype => return .undefined
  | .call =>
    callback c.this
    call c.this (c.arg 0) (c.args.drop 1)
  | .apply =>
    callback c.this
    let list := c.arg 1
    let args ← if list.isNullish then pure [] else argumentsOf list
    call c.this (c.arg 0) args
  | .bind => bindFunction c.this (c.arg 0) (c.args.drop 1)
  | .toString => functionText c.this
  | .hasInstance =>
    if ← isCallable c.this then return .bool (← ordinaryInstance (c.arg 0) c.this)
    else return .bool false
  | .thrower => refuseCaller c.this

end Proc

namespace FunctionFn

/-- What every function has. -/
def methods : List Builtin :=
  let poisoned (name : String) : Builtin :=
    .value (Key.ofString name)
      ⟨.accessor (.object Intrinsic.thrower) (.object Intrinsic.thrower), true, false, true⟩
  [poisoned "caller", poisoned "arguments",
    .method "call" (.function .call) 1, .method "apply" (.function .apply) 2,
    .method "bind" (.function .bind) 1, .method "toString" (.function .toString) 0,
    .atSymbol Symbols.hasInstance "[Symbol.hasInstance]" (.function .hasInstance) 1]

end FunctionFn

end ScriptBridge.Script
