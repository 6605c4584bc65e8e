import ScriptBridge.Json.Basic

/-!
# The ledger of async calls

A script starts an async call and gets a promise; the host ends the call later.  The ledger gives
out the numbers of the calls, keeps what is needed to end those that are pending, and keeps the
requests until the host takes them: those made while a dispatcher is installed are its own, and
the others wait in a queue.  A call is unissued, pending or settled, in this order.
-/

namespace ScriptBridge

/-- The request that a script makes of the host when it starts a call. -/
structure AsyncRequest where
  /-- The number of the call. -/
  id : Nat
  /-- The argument that the script gave. -/
  payload : Json
deriving Inhabited

/-- A request that a dispatcher got. -/
structure Delivery extends AsyncRequest where
  /-- The dispatcher, by its number among all that the host has installed. -/
  dispatcher : Nat

/-- The name of the host function that a payload asks for: its field `function_name`, if that is a
text. -/
def Json.functionName? (payload : Json) : Option String :=
  (payload.field? "function_name").bind Json.string?

/-- The name of the host function that a request asks for. -/
def AsyncRequest.functionName? (r : AsyncRequest) : Option String := r.payload.functionName?

/-- What ending a call did. -/
inductive CallEnd
  | resolved
  | rejected
  /-- The call had ended before. -/
  | alreadySettled
  /-- There never was such a call. -/
  | unknown
deriving DecidableEq, Repr

/-- The word for what ending a call did. -/
def CallEnd.text : CallEnd → String
  | .resolved => "Resolved"
  | .rejected => "Rejected"
  | .alreadySettled => "AlreadySettled"
  | .unknown => "Unknown"

/-- The async calls of one bridge; `α` is what is needed to end one. -/
structure Ledger (α : Type) where
  /-- The number of the next call. -/
  next : Nat := 1
  /-- The calls that have not ended, in the order of their numbers. -/
  pending : List (Nat × α) := []
  /-- The requests that wait for the host, the oldest first. -/
  queue : List AsyncRequest := []
  /-- The dispatcher that is installed, if any, by its number. -/
  dispatcher : Option Nat := none
  /-- How many dispatchers the host has installed. -/
  dispatchers : Nat := 0
  /-- The requests that dispatchers got, the oldest first. -/
  dispatched : List Delivery := []

namespace Ledger

variable {α : Type}

/-- The numbers of the calls that have not ended. -/
def pendingIds (l : Ledger α) : List Nat := l.pending.map (·.1)

/-- Gives a call a number, under which it is pending. -/
def register (l : Ledger α) (call : α) (payload : Json) : AsyncRequest × Ledger α :=
  (⟨l.next, payload⟩, { l with next := l.next + 1, pending := l.pending ++ [(l.next, call)] })

/-- Passes a request to the dispatcher, or lets it wait if there is none.  While the dispatcher runs
it is taken out of the ledger. -/
def dispatch (l : Ledger α) (request : AsyncRequest) : Ledger α :=
  match l.dispatcher with
  | some d =>
    let delivery : Delivery := { request with dispatcher := d }
    let l := { l with dispatcher := none }
    let l := { l with dispatched := l.dispatched ++ [delivery] }
    if l.dispatcher.isNone then { l with dispatcher := some d } else l
  | none => { l with queue := l.queue ++ [request] }

/-- Starts a call, and passes its request on. -/
def issue (l : Ledger α) (call : α) (payload : Json) : Ledger α :=
  let (request, l) := l.register call payload
  l.dispatch request

/-- Installs a dispatcher in the place of the one before it, or takes that away. -/
def install (l : Ledger α) (on : Bool) : Ledger α :=
  if on then { l with dispatcher := some l.dispatchers, dispatchers := l.dispatchers + 1 }
  else { l with dispatcher := none }

/-- Takes a pending call out of the ledger; or else, what ending it comes to. -/
def take (l : Ledger α) (id : Nat) : Except CallEnd (α × Ledger α) :=
  match l.pending.lookup id with
  | some call => .ok (call, { l with pending := l.pending.filter fun p => p.1 ≠ id })
  | none => .error (if id ≠ 0 ∧ id < l.next then .alreadySettled else .unknown)

/-- Puts a call into a list in the order of numbers. -/
def insertCall (id : Nat) (call : α) : List (Nat × α) → List (Nat × α)
  | [] => [(id, call)]
  | (i, c) :: rest =>
    if id < i then (id, call) :: (i, c) :: rest else (i, c) :: insertCall id call rest

/-- Puts a call back that was taken out and did not end. -/
def putBack (l : Ledger α) (id : Nat) (call : α) : Ledger α :=
  { l with pending := insertCall id call l.pending }

/-- Takes the requests that wait for the host. -/
def takeQueued (l : Ledger α) : List AsyncRequest × Ledger α := (l.queue, { l with queue := [] })

/-- Takes the requests that dispatchers got. -/
def takeDispatched (l : Ledger α) : List Delivery × Ledger α :=
  (l.dispatched, { l with dispatched := [] })

end Ledger

end ScriptBridge
