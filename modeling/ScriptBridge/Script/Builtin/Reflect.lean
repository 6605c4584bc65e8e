import ScriptBridge.Script.Builtin.Function
import ScriptBridge.Script.Builtin.Object

/-!
# Functions that do what the syntax of objects does

They say whether something was done instead of failing where it was not.
-/

namespace ScriptBridge.Script

namespace Proc

/-- The object that a value has to be. -/
def needObject (v : Value) : Proc Ref :=
  match v with
  | .object r => pure r
  | _ => throwType "not an object"

/-- The constructor that a value has to be. -/
def needConstructor (v : Value) : Proc Unit := do
  unless ← isConstructor v do throwType "not a constructor"

/-- Runs a function that does what the syntax of objects does. -/
def runReflect (f : ReflectFn) (c : NativeCall) : Proc Value := do
  let v := c.arg 0
  match f with
  | .apply =>
    callback v
    call v (c.arg 1) (← argumentsOf (c.arg 2))
  | .construct =>
    unless isObject v do throwType "not a function"
    needConstructor v
    let target := if c.args.length < 3 then v else c.arg 2
    needConstructor target
    construct v (← argumentsOf (c.arg 1)) target
  | f =>
    let r ← needObject v
    match f with
    | .defineProperty =>
      let k ← toKey (c.arg 1)
      match ← defineOwn r k (← toDescriptor (c.arg 2)) with
      | some .badLength => throwNew .rangeError "invalid array length"
      | fault => return .bool fault.isNone
    | .deleteProperty => return .bool (← deleteOwn r (← toKey (c.arg 1)))
    | .get =>
      let receiver := if c.args.length < 3 then v else c.arg 2
      getFrom r (← toKey (c.arg 1)) receiver
    | .getOwnPropertyDescriptor =>
      match ← ownProperty r (← toKey (c.arg 1)) with
      | some p => ofProperty p
      | none => return .undefined
    | .getPrototypeOf => return (← object r).proto.elim .null Value.object
    | .has => return .bool (← hasProperty r (← toKey (c.arg 1)))
    | .isExtensible => return .bool (← object r).extensible
    | .ownKeys => arrayOf ((← ownKeys r).map keyValue)
    | .preventExtensions =>
      restrict r false false
      return .bool true
    | .set =>
      let k ← toKey (c.arg 1)
      let receiver := if c.args.length < 4 then v else c.arg 3
      match ← setFor r k (c.arg 2) receiver with
      | some .badLength => throwNew .rangeError "invalid array length"
      | fault => return .bool fault.isNone
    | _ =>
      let proto ← toPrototype (c.arg 1) "not an object"
      let outcome ← attempt (replaceProto r proto)
      match outcome with
      | .ok done => return .bool done
      | .error _ => return .bool false

end Proc

namespace ReflectFn

/-- What `Reflect` is made with. -/
def statics : List Builtin := [
  .method "apply" (.reflect .apply) 3, .method "construct" (.reflect .construct) 2,
  .method "defineProperty" (.reflect .defineProperty) 3,
  .method "deleteProperty" (.reflect .deleteProperty) 2, .method "get" (.reflect .get) 2,
  .method "getOwnPropertyDescriptor" (.reflect .getOwnPropertyDescriptor) 2,
  .method "getPrototypeOf" (.reflect .getPrototypeOf) 1, .method "has" (.reflect .has) 2,
  .method "isExtensible" (.reflect .isExtensible) 1, .method "ownKeys" (.reflect .ownKeys) 1,
  .method "preventExtensions" (.reflect .preventExtensions) 1, .method "set" (.reflect .set) 3,
  .method "setPrototypeOf" (.reflect .setPrototypeOf) 2, .tag "Reflect"]

end ReflectFn

end ScriptBridge.Script
