import ScriptBridge.Envelope.Basic
import ScriptBridge.Handle.Basic
import ScriptBridge.Json.Reader

/-!
# Errors

Every operation of a bridge fails with a `BridgeError`: its constructors are the causes, and
`BridgeError.message` is the one place that words them.  `BridgeError.kind` sorts the causes into
the coarse classes that a host can branch on.  An exception that a script threw is kept as a
`ScriptException`; one that was made for a failed host call carries the name `hostCallErrorName`
and is told apart by it.
-/

namespace ScriptBridge

/-- The `name` of the errors that scripts receive for failed host calls. -/
def hostCallErrorName : String := "HostCallError"

/-- A thrown value as the host sees it. -/
structure ScriptException where
  /-- The `name` of the value, when that is a text. -/
  name : Option String := none
  /-- The string form of the value. -/
  message : String
  /-- The stack trace, when the engine recorded one. -/
  stack : Option String := none
deriving DecidableEq, Repr, Inhabited

/-- Whether the exception was made for a failed host call. -/
def ScriptException.isHostCall (e : ScriptException) : Bool := e.name == some hostCallErrorName

/-- The steps of loading a module. -/
inductive ModuleStage
  | nameExtraction
  | evaluation
  | resolution
deriving DecidableEq, Repr

/-- The words for a step. -/
def ModuleStage.text : ModuleStage → String
  | .nameExtraction => "name extraction"
  | .evaluation => "evaluation"
  | .resolution => "resolution"

/-- The kinds of values that hosts tell apart. -/
inductive ValueKind
  | undefined | null | boolean | number | bigint | string | symbol | array | function | promise
  | object
deriving DecidableEq, Repr

/-- The word for a kind. -/
def ValueKind.text : ValueKind → String
  | .undefined => "undefined"
  | .null => "null"
  | .boolean => "boolean"
  | .number => "number"
  | .bigint => "bigint"
  | .string => "string"
  | .symbol => "symbol"
  | .array => "array"
  | .function => "function"
  | .promise => "promise"
  | .object => "object"

/-- What is wrong with an argument. -/
inductive ArgumentFault
  | emptyNamespace
  | emptyAsyncEntry
  | clashingNames
  | unknownPrintTarget (found : String)
  | emptyGlobalName
  | emptyFunctionName
  | reservedName (name : String)
  | longFilename
  | nulInFilename
  | scriptUnit (name : String)
  | other (text : String)
deriving DecidableEq, Repr

/-- The wording of an argument fault. -/
def ArgumentFault.message : ArgumentFault → String
  | .emptyNamespace => "namespace must not be empty"
  | .emptyAsyncEntry => "async entry name must not be empty"
  | .clashingNames => "namespace and async entry must have different names"
  | .unknownPrintTarget found => s!"unknown print target '{found}'"
  | .emptyGlobalName => "namespace name must not be empty"
  | .emptyFunctionName => "host function name must not be empty"
  | .reservedName name => s!"'{name}' is reserved for the async entry point"
  | .longFilename => "filename is too long"
  | .nulInFilename => "filename contains a NUL byte"
  | .scriptUnit name => s!"'{name}' is a script, not a module"
  | .other text => text

/-- Why a value does not fit an operation. -/
inductive TypeFault
  | callOnNonObject (name : String)
  | readOfNonObject (name : String)
  | notFunction (name : String)
  | notNumber (found : ValueKind)
  | notPromise
  | other (text : String)
deriving DecidableEq, Repr

/-- The wording of a type fault. -/
def TypeFault.message : TypeFault → String
  | .callOnNonObject name => s!"cannot call '{name}' on a non-object"
  | .readOfNonObject name => s!"cannot read '{name}' of a non-object"
  | .notFunction name => s!"'{name}' is not a function"
  | .notNumber found => s!"expected a number, found {found.text}"
  | .notPromise => "value is not a promise"
  | .other text => text

/-- What is wrong with a configuration document. -/
inductive ConfigFault
  /-- It is not a TOML document. -/
  | malformed
  /-- A print target has a value that is neither a text nor a table. -/
  | badVariant
  | unknownVariant (found : String)
  /-- A value of the kind `found` stands where a text should. -/
  | wrongType (found : String)
  | other (text : String)
deriving DecidableEq, Repr

/-- The wording of a configuration fault. -/
def ConfigFault.message : ConfigFault → String
  | .malformed => "not a TOML document"
  | .badVariant => "wanted string or table"
  | .unknownVariant found =>
    s!"unknown variant \x60{found}\x60, expected one of " ++
      "\x60stdout\x60, \x60log\x60, \x60buffer\x60, \x60discard\x60"
  | .wrongType found => s!"invalid type: {found}, expected a string"
  | .other text => text

/-- A failure of the script engine that no thrown value stands for. -/
inductive EngineFault
  /-- An assignment that the engine refused while it was made for the host. -/
  | refused
  /-- A string has half a surrogate pair at byte `offset`. -/
  | loneSurrogate (offset : Nat)
  /-- A value of the kind `found` stands where the engine needs one of the kind `wanted`. -/
  | conversion (found wanted : String)
  /-- A run was cut off by the bound on its steps. -/
  | exhausted
deriving DecidableEq, Repr

/-- The wording of an engine fault. -/
def EngineFault.message : EngineFault → String
  | .refused => "Exception generated by QuickJS"
  | .loneSurrogate offset =>
    s!"Conversion from string failed: invalid utf-8 sequence of 1 bytes from index {offset}"
  | .conversion found wanted => s!"Error converting from js '{found}' into type '{wanted}'"
  | .exhausted => "the run was cut off"

/-- Why an operation failed. -/
inductive BridgeError
  /-- A source text does not compile. -/
  | compile (filename reason : String)
  /-- A blob is refused. -/
  | deserialize (fault : BlobFault)
  /-- A script threw. -/
  | eval (thrown : ScriptException)
  /-- A host call failed. -/
  | hostCall (thrown : ScriptException)
  /-- A module could not be loaded. -/
  | module (name : String) (stage : ModuleStage) (reason : String)
  /-- A handle names no live value of this bridge. -/
  | invalidHandle (handle : Handle)
  | typeFault (fault : TypeFault)
  | invalidArgument (fault : ArgumentFault)
  | promisePending
  /-- A bridge could not be set up. -/
  | runtimeInit (reason : String)
  | engine (fault : EngineFault)
  | io (reason : String)
  /-- The configuration found at `path` is refused. -/
  | config (path : String) (fault : ConfigFault)
  | json (fault : Json.Error)
deriving DecidableEq, Repr

/-- The classes of errors. -/
inductive ErrorKind
  | compile | deserialize | evalException | module | hostCall | invalidHandle | invalidArgument
  | promisePending | engine | config
deriving DecidableEq, Repr

namespace BridgeError

/-- The error for an exception that no script caught. -/
def ofException (e : ScriptException) : BridgeError := if e.isHostCall then .hostCall e else .eval e

/-- The class of an error. -/
def kind : BridgeError → ErrorKind
  | .compile .. => .compile
  | .deserialize _ => .deserialize
  | .eval _ | .typeFault _ => .evalException
  | .module .. => .module
  | .hostCall _ => .hostCall
  | .invalidHandle _ => .invalidHandle
  | .invalidArgument _ => .invalidArgument
  | .promisePending => .promisePending
  | .runtimeInit _ | .engine _ => .engine
  | .io _ | .config .. | .json _ => .config

/-- The wording of an error. -/
def message : BridgeError → String
  | .compile filename reason => s!"Compile error in '{filename}': {reason}"
  | .deserialize fault => s!"Invalid bytecode: {fault.message}"
  | .eval e => s!"Uncaught {e.message}"
  | .hostCall e => s!"Host call failed: {e.message}"
  | .module name stage reason => s!"Module '{name}' failed during {stage.text}: {reason}"
  | .invalidHandle handle => s!"Invalid value handle {handle.text}"
  | .typeFault fault => s!"TypeError: {fault.message}"
  | .invalidArgument fault => s!"Invalid argument: {fault.message}"
  | .promisePending => "Promise is still pending"
  | .runtimeInit reason => s!"Failed to initialize runtime: {reason}"
  | .engine fault => fault.message
  | .io reason => s!"File system error: {reason}"
  | .config path fault => s!"Invalid configuration in {path}: {fault.message}"
  | .json fault => s!"JSON error: {fault.message}"

/-- The exception inside an error, if a script threw one. -/
def exception? : BridgeError → Option ScriptException
  | .eval e | .hostCall e => some e
  | _ => none

end BridgeError

end ScriptBridge
