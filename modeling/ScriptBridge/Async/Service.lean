import ScriptBridge.Bridge.Host

/-!
# Serving async requests

A few host functions are built in: `echo` ends a call with its own payload, and `sleep` with null
once the time is over.  `BridgeM.serve` ends the calls that wait, also those that scripts start
because others have ended, until no request waits.
-/

namespace ScriptBridge

/-- What becomes of requests for functions that are not built in. -/
inductive UnknownPolicy
  /-- They end with an error. -/
  | reject
  /-- They stay pending, and the host gets them. -/
  | hold
deriving DecidableEq, Repr

/-- How a built-in function ends a call. -/
def AsyncRequest.builtin? (r : AsyncRequest) : Option CallOutcome :=
  match r.functionName? with
  | some "echo" => some (.resolveJson r.payload)
  | some "sleep" => some (.resolveJson .null)
  | _ => none

/-- The message for a request that no function serves. -/
def AsyncRequest.refusal (r : AsyncRequest) : String :=
  match r.functionName? with
  | some name => s!"unknown host function '{name}'"
  | none => "request has no function_name"

/-- How a request is ended, unless it is held. -/
def AsyncRequest.ending? (r : AsyncRequest) (policy : UnknownPolicy) : Option CallOutcome :=
  match r.builtin?, policy with
  | some outcome, _ => some outcome
  | none, .reject => some (.reject r.refusal)
  | none, .hold => none

namespace BridgeM

/-- Serves the given requests: those that are held. -/
def serveBatch (policy : UnknownPolicy) : List AsyncRequest → BridgeM (List AsyncRequest)
  | [] => return []
  | r :: rest => do
    match r.ending? policy with
    | some outcome =>
      discard (completeCall r.id outcome)
      serveBatch policy rest
    | none => return r :: (← serveBatch policy rest)

/-- Serves the requests that wait.  If that is not over after `fuel` rounds, it is cut off. -/
def serveFor (policy : UnknownPolicy) : Nat → BridgeM (List AsyncRequest)
  | 0 => do
    modify fun b => { b with isHalted := true }
    throw (.engine .exhausted)
  | fuel + 1 => do
    match ← takeRequests with
    | [] => return []
    | batch =>
      let held ← serveBatch policy batch
      return held ++ (← serveFor policy fuel)

/-- Serves requests until none waits: those that are held. -/
def serve (policy : UnknownPolicy) : BridgeM (List AsyncRequest) := serveFor policy jobLimit

end BridgeM

end ScriptBridge
