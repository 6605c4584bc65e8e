import ScriptBridge.Async.Ledger
import ScriptBridge.Error

/-!
# Status codes

Every exported call returns one integer: zero for success, and a negative number for each class of
failures.  What went wrong in words is kept for the caller to ask for.
-/

namespace ScriptBridge

/-- What an exported call came to. -/
inductive Status
  | ok | compile | deserialize | eval | module | hostCall | invalidHandle
  /-- The thread has no bridge. -/
  | notInitialized
  | invalidArgument
  /-- The call was made while another one was running on the thread. -/
  | busy
  | engine | promisePending
deriving DecidableEq, Repr

namespace Status

/-- The integer that a status is returned as. -/
def code : Status → Int
  | ok => 0
  | compile => -1
  | deserialize => -2
  | eval => -3
  | module => -4
  | hostCall => -5
  | invalidHandle => -6
  | notInitialized => -7
  | invalidArgument => -8
  | busy => -9
  | engine => -10
  | promisePending => -11

/-- The status for a class of errors; a configuration that is refused is a bad argument. -/
def ofKind : ErrorKind → Status
  | .compile => compile
  | .deserialize => deserialize
  | .evalException => eval
  | .module => module
  | .hostCall => hostCall
  | .invalidHandle => invalidHandle
  | .invalidArgument | .config => invalidArgument
  | .promisePending => promisePending
  | .engine => engine

end Status

/-- A failed export: the status to return and the words for it. -/
structure Failure where
  status : Status
  message : String
deriving DecidableEq, Repr

namespace Failure

/-- The failure that an error of the bridge is. -/
def ofError (e : BridgeError) : Failure := ⟨.ofKind e.kind, e.message⟩

/-- An argument that cannot be used. -/
def argument (message : String) : Failure := ⟨.invalidArgument, message⟩

/-- A call that needs a bridge where there is none. -/
def noBridge : Failure := ⟨.notInitialized, "no bridge is initialized on this thread"⟩

end Failure

/-- The integer that says what ending a call did. -/
def CallEnd.code : CallEnd → Nat
  | .resolved => 0
  | .rejected => 1
  | .alreadySettled => 2
  | .unknown => 3

end ScriptBridge
