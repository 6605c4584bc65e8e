import ScriptBridge.Script.Builtin.Basic

/-!
# Error objects
-/

namespace ScriptBridge.Script

namespace Proc

/-- Makes an error as its constructor does. -/
def constructError (type : ErrorType) (c : NativeCall) : Proc Value := do
  let proto ← protoFor c.newTarget (Intrinsic.errorProto type)
  let args := if type = .aggregateError then c.args.drop 1 else c.args
  let message ← match args.getD 0 .undefined with
    | .undefined => pure none
    | v => pure (some (← toStr v))
  let cause ← match args.getD 1 .undefined with
    | .object r =>
      if ← hasProperty r (Key.ofString "cause") then do
        pure [("cause", ← getOf r (Key.ofString "cause"))]
      else pure []
    | _ => pure []
  let errors ← if type = .aggregateError then do
      pure [("errors", ← arrayOf (← collect (c.arg 0)))]
    else pure []
  return .object (← allocError proto message (cause ++ errors))

/-- The text of an error: its name and its message, as far as they are not empty. -/
def errorText (this : Value) : Proc Value := do
  unless isObject this do throwType "not an object"
  let field (name : String) (dflt : String) : Proc Str := do
    match ← get this (Key.ofString name) with
    | .undefined => return Str.ofString dflt
    | v => toStr v
  let name ← field "name" "Error"
  let message ← field "message" ""
  if name.units.isEmpty then return .string message
  if message.units.isEmpty then return .string name
  return .string (name ++ Str.ofString ": " ++ message)

/-- Runs a function of errors. -/
def runError (f : ErrorFn) (c : NativeCall) : Proc Value := do
  match f with
  | .make type => constructError type c
  | .toString => errorText c.this
  | .captureStackTrace =>
    match c.arg 0 with
    | .object r =>
      define r (Key.ofString "stack") (.hidden (.string (stackText (← isTraced))))
      return .undefined
    | _ => throwType "not an object"

end Proc

namespace ErrorFn

/-- What the constructor of errors is made with. -/
def statics : List Builtin := [
  .method "captureStackTrace" (.error .captureStackTrace) 2,
  .value (Key.ofString "stackTraceLimit") (.plain (.int 10))]

/-- What all errors of a kind have. -/
def shared (type : ErrorType) : List Builtin :=
  (if type = .error then [.method "toString" (.error .toString) 0] else [])
    ++ [.value (Key.ofString "name") (.hidden (.ofString type.name)),
      .value (Key.ofString "message") (.hidden (.ofString ""))]

end ErrorFn

end ScriptBridge.Script
