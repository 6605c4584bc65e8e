import Mathlib.Data.List.Nodup
import ScriptBridge.Async.Service
import ScriptBridge.Proofs.Async.Delivery

/-!
# What becomes of requests that are served

Serving takes the requests that wait and ends their calls one after the other.  Scripts run at each
end and make new requests, which are found when those are done; and any end may fail, with requests
taken that nobody has come to.

* `Bridge.Serving` : how far it has come, by the host's own operations: what it is done with, and
  what it has taken and not come to.
* `Serving.ends_serveFor` : the program takes these steps, to the end or to one that fails.
* `Serving.account`, `Serving.mem_settledCalls` : **what holds on the way**.
* `service_deals_with_every_request` : at the end each request is ended once, or held.
* `failed_service_strands_requests` : after a failure the requests that were taken and not ended are
  with nobody.
-/

namespace ScriptBridge

namespace AsyncRequest

variable {policy : UnknownPolicy} {r : AsyncRequest} {rs : List AsyncRequest}

/-- How the call of a request is ended, by its number, unless it is held. -/
def ended? (policy : UnknownPolicy) (r : AsyncRequest) : Option (Nat × CallOutcome) :=
  (r.ending? policy).map (r.id, ·)

/-- A request is left to the host. -/
def isHeld (policy : UnknownPolicy) (r : AsyncRequest) : Bool := (r.ending? policy).isNone

theorem isHeld_reject (r : AsyncRequest) : r.isHeld .reject = false := by
  cases h : r.builtin? <;> simp [isHeld, ending?, h]

/-- The host gets what is for no function that is built in. -/
theorem isHeld_hold (r : AsyncRequest) :
    r.isHeld .hold = decide (r.functionName? ≠ some "echo" ∧ r.functionName? ≠ some "sleep") := by
  have hbuiltin : r.isHeld .hold = r.builtin?.isNone := by
    cases h : r.builtin? <;> simp [isHeld, ending?, h]
  rw [hbuiltin, builtin?]
  split <;> simp_all

/-- The calls that are ended are those of the requests that are not held. -/
theorem map_fst_ended (policy : UnknownPolicy) (rs : List AsyncRequest) :
    (rs.filterMap (ended? policy)).map (·.1) =
      (rs.filter fun r => !r.isHeld policy).map (·.id) := by
  induction rs with
  | nil => rfl
  | cons r rs ih =>
    cases h : r.ending? policy with
    | none => simpa [ended?, isHeld, h] using ih
    | some o => simpa [ended?, isHeld, h] using ih

section numbers

variable {all : List AsyncRequest}

/-- Where each call has one request, its number tells which. -/
theorem id_mem_iff (hnodup : (all.map (·.id)).Nodup) (hrs : rs ⊆ all) (hr : r ∈ all) :
    r.id ∈ rs.map (·.id) ↔ r ∈ rs := by
  refine ⟨fun hid => ?_, fun hr => List.mem_map_of_mem hr⟩
  obtain ⟨q, hq, hsame⟩ := List.mem_map.1 hid
  obtain rfl := List.inj_on_of_nodup_map hnodup (hrs hq) hr hsame
  exact hq

theorem ended_iff (hnodup : (all.map (·.id)).Nodup) (hrs : rs ⊆ all) (hr : r ∈ all) :
    r.id ∈ (rs.filterMap (ended? policy)).map (·.1) ↔ r ∈ rs ∧ r.isHeld policy = false := by
  have hfilter : rs.filter (fun r => !r.isHeld policy) ⊆ all :=
    fun _ hq => hrs (List.mem_of_mem_filter hq)
  rw [map_fst_ended, id_mem_iff hnodup hfilter hr, List.mem_filter, Bool.not_eq_true']

/-- A request is held, or its call is ended, once. -/
theorem held_or_ended_once (hnodup : (all.map (·.id)).Nodup) (hr : r ∈ all) :
    (r ∈ all.filter (·.isHeld policy) ∧ r.id ∉ (all.filterMap (ended? policy)).map (·.1)) ∨
      (r ∉ all.filter (·.isHeld policy) ∧
        ((all.filterMap (ended? policy)).map (·.1)).count r.id = 1) := by
  have hended : r.id ∈ (all.filterMap (ended? policy)).map (·.1) ↔ r.isHeld policy = false := by
    rw [ended_iff hnodup (List.Subset.refl all) hr, and_iff_right hr]
  have honce : ((all.filterMap (ended? policy)).map (·.1)).Nodup := by
    rw [map_fst_ended]
    exact hnodup.sublist (List.filter_sublist.map _)
  rw [List.mem_filter, and_iff_right hr]
  cases hheld : r.isHeld policy with
  | true => exact .inl ⟨rfl, mt hended.1 (by simp [hheld])⟩
  | false => exact .inr ⟨Bool.false_ne_true, List.count_eq_one_of_mem honce (hended.2 hheld)⟩

/-- The requests whose calls are not ended: those that are held, and those that nobody has come
to. -/
theorem unended_iff {done taken waiting : List AsyncRequest}
    (hnodup : ((done ++ taken ++ waiting).map (·.id)).Nodup) (hr : r ∈ done ++ taken ++ waiting) :
    r.id ∉ (done.filterMap (ended? policy)).map (·.1) ↔
      r ∈ done.filter (·.isHeld policy) ++ taken ∨ r ∈ waiting := by
  have hsub : done ⊆ done ++ taken ++ waiting := by simp
  have hapart : r ∈ taken ∨ r ∈ waiting → r ∉ done := by
    rw [List.append_assoc] at hnodup
    have hdisjoint := List.disjoint_of_nodup_append hnodup.of_map
    exact fun hr hdone => hdisjoint hdone (List.mem_append.2 hr)
  rw [ended_iff hnodup hsub hr, List.mem_append, List.mem_filter, or_assoc]
  rw [List.mem_append, List.mem_append, or_assoc] at hr
  obtain hdone | hlater := hr
  · have hearlier : ¬ (r ∈ taken ∨ r ∈ waiting) := fun h => hapart h hdone
    simp [hdone, hearlier]
  · simp [hapart hlater, hlater]

end numbers

end AsyncRequest

namespace Bridge

open AsyncRequest (ended?)

/-- How an operation ends a call, by its number. -/
def Operation.ending? : Operation → Option (Nat × CallOutcome)
  | .completeCall id o => some (id, o)
  | _ => none

/-- How operations end calls. -/
def endings (ops : List Operation) : List (Nat × CallOutcome) := ops.filterMap Operation.ending?

/-- A service of the bridge `b` on its way: the operations so far, the requests that it is done
with, and those that it has taken and not come to. -/
inductive Serving (policy : UnknownPolicy) (b : Bridge) :
    List Operation → List AsyncRequest → List AsyncRequest → Prop
  | start : Serving policy b [] [] []
  /-- Once it is done with all that it has taken, it takes what waits then. -/
  | take {ops : List Operation} {done : List AsyncRequest} (h : Serving policy b ops done []) :
    Serving policy b (ops ++ [.takeRequests]) done (b.after ops).ledger.queue
  | hold {ops : List Operation} {done rest : List AsyncRequest} {q : AsyncRequest}
    (h : Serving policy b ops done (q :: rest)) (hq : q.ending? policy = none) :
    Serving policy b ops (done ++ [q]) rest
  | finish {ops : List Operation} {done rest : List AsyncRequest} {q : AsyncRequest}
    {o : CallOutcome} {a : Answer} (h : Serving policy b ops done (q :: rest))
    (hq : q.ending? policy = some o) (ha : ((b.after ops).step (.completeCall q.id o)).1 = .ok a) :
    Serving policy b (ops ++ [.completeCall q.id o]) (done ++ [q]) rest

/-- A service stops at a call that cannot be ended. -/
inductive Stops (policy : UnknownPolicy) (b : Bridge) : BridgeError → Bridge → Prop
  | stop {ops : List Operation} {done rest : List AsyncRequest} {q : AsyncRequest}
    {o : CallOutcome} {e : BridgeError} {b' : Bridge} (h : Serving policy b ops done (q :: rest))
    (hq : q.ending? policy = some o)
    (he : (b.after ops).step (.completeCall q.id o) = (.error e, b')) : Stops policy b e b'

variable {policy : UnknownPolicy} {c : BridgeConfig} {events : List Event} {b b' : Bridge}
  {ops : List Operation} {done rest held : List AsyncRequest} {e : BridgeError}

theorem after_concat (b : Bridge) (ops : List Operation) (op : Operation) :
    b.after (ops ++ [op]) = ((b.after ops).step op).2 := b.after_append ops [op]

theorem history_concat (b : Bridge) (ops : List Operation) (op : Operation) :
    b.history (ops ++ [op]) = b.history ops ++ [⟨op, ((b.after ops).step op).1⟩] :=
  b.history_append ops [op]

/-! ### The program -/

theorem step_takeRequests (b : Bridge) : b.step .takeRequests =
    (.ok (.requests b.ledger.queue), { b with ledger := { b.ledger with queue := [] } }) := rfl

theorem ends_discard_completeCall (b : Bridge) (id : Nat) (o : CallOutcome) :
    Ends (discard (BridgeM.completeCall id o)) b fun r b' =>
      ∃ answer, b.step (.completeCall id o) = (answer, b') ∧ r = answer.map fun _ => ⟨⟩ := by
  rw [Ends, exec_discard]
  refine ⟨_, step_completeCall b id o, ?_⟩
  cases (exec (BridgeM.completeCall id o) b).1 <;> rfl

namespace Serving

/-- Serving what it has taken, a service comes to the end of it, or stops. -/
theorem ends_serveBatch (h : Serving policy b ops done rest) :
    Ends (BridgeM.serveBatch policy rest) (b.after ops) fun r b' =>
      (∃ ops', Serving policy b ops' (done ++ rest) [] ∧ b' = b.after ops' ∧
        r = .ok (rest.filter (·.isHeld policy))) ∨
      ∃ e, r = .error e ∧ Stops policy b e b' := by
  induction rest generalizing ops done with
  | nil => exact .pure (.inl ⟨ops, by rwa [List.append_nil], rfl, rfl⟩)
  | cons q rest ih =>
    rw [BridgeM.serveBatch, List.append_cons]
    cases hq : q.ending? policy with
    | none =>
      -- the bridge stays as it is, and `q` comes before what is held of the rest
      have hheld : q.isHeld policy = true := by rw [AsyncRequest.isHeld, hq, Option.isNone_none]
      refine Ends.bind (ih (h.hold hq)) ?_ ?_
      · rintro held b' (⟨ops', h', rfl, hr⟩ | ⟨e, ⟨⟩, -⟩)
        cases hr
        exact .pure (.inl ⟨ops', h', rfl, by rw [List.filter_cons_of_pos hheld]⟩)
      · rintro e b' (⟨_, _, _, ⟨⟩⟩ | ⟨e', hr, hstops⟩)
        exact .inr ⟨e', hr, hstops⟩
    | some o =>
      have hheld : ¬ q.isHeld policy = true := by simp [AsyncRequest.isHeld, hq]
      refine Ends.bind (ends_discard_completeCall (b.after ops) q.id o) ?_ ?_
      · rintro ⟨⟩ b₁ ⟨answer, hstep, hr⟩
        cases answer with
        | error e => cases hr
        | ok a =>
          have h' := h.finish hq (congrArg Prod.fst hstep)
          have hafter : b₁ = b.after (ops ++ [.completeCall q.id o]) := by
            rw [after_concat, hstep]
          rw [hafter, List.filter_cons_of_neg hheld]
          exact ih h'
      · rintro e b₁ ⟨answer, hstep, hr⟩
        cases answer with
        | error e' =>
          cases hr
          exact .inr ⟨e, rfl, .stop h hq hstep⟩
        | ok a => cases hr

/-- A service comes to where no request waits, or stops, unless it is cut off. -/
theorem ends_serveFor (rounds : Nat) (h : Serving policy b ops done []) :
    Ends (BridgeM.serveFor policy rounds) (b.after ops) fun r b' =>
      (∃ ops' more, Serving policy b ops' (done ++ more) [] ∧ b' = b.after ops' ∧
        b'.ledger.queue = [] ∧ r = .ok (more.filter (·.isHeld policy))) ∨
      ∃ e, r = .error e ∧ (Stops policy b e b' ∨ b'.isHalted = true) := by
  induction rounds generalizing ops done with
  | zero => exact .modify_bind (.throw (.inr ⟨_, rfl, .inr rfl⟩))
  | succ rounds ih =>
    have htake : Ends BridgeM.takeRequests (b.after ops) fun r b' =>
        r = .ok (b.after ops).ledger.queue ∧ b' = b.after (ops ++ [.takeRequests]) :=
      ⟨rfl, by rw [after_concat]; rfl⟩
    refine Ends.bind htake ?_ ?_
    · rintro batch b₁ ⟨hbatch, rfl⟩
      cases hbatch
      have htaken := h.take
      cases hqueue : (b.after ops).ledger.queue with
      | nil =>
        -- nothing was taken, which ends the service
        rw [hqueue] at htaken
        refine .pure (.inl ⟨_, [], by rwa [List.append_nil], rfl, ?_, rfl⟩)
        rw [after_concat]
        rfl
      | cons q rest =>
        rw [hqueue] at htaken
        refine Ends.bind htaken.ends_serveBatch ?_ ?_
        · rintro held b₂ (⟨ops', h', rfl, hr⟩ | ⟨e, ⟨⟩, -⟩)
          cases hr
          refine Ends.bind (ih h') ?_ ?_
          · rintro held b' (⟨ops'', more, h'', hb', hempty, hr⟩ | ⟨e, ⟨⟩, -⟩)
            cases hr
            refine .pure (.inl ⟨ops'', (q :: rest) ++ more, ?_, hb', hempty, ?_⟩)
            · rwa [← List.append_assoc]
            · rw [List.filter_append]
          · rintro e b' (⟨_, _, _, _, _, ⟨⟩⟩ | ⟨e', hr, hstops⟩)
            exact .inr ⟨e', hr, hstops⟩
        · rintro e b₂ (⟨_, _, _, ⟨⟩⟩ | ⟨e', hr, hstops⟩)
          exact .inr ⟨e', hr, .inl hstops⟩
    · rintro e b₁ ⟨⟨⟩, -⟩

/-- A service from its start on. -/
theorem of_exec {rounds : Nat} {r : Except BridgeError (List AsyncRequest)}
    (h : exec (BridgeM.serveFor policy rounds) b = (r, b')) :
    (∃ ops done, Serving policy b ops done [] ∧ b' = b.after ops ∧ b'.ledger.queue = [] ∧
        r = .ok (done.filter (·.isHeld policy))) ∨
      ∃ e, r = .error e ∧ (Stops policy b e b' ∨ b'.isHalted = true) := by
  have hends : Ends (BridgeM.serveFor policy rounds) b _ := Serving.start.ends_serveFor rounds
  rw [Ends, h] at hends
  exact hends

end Serving

/-! ### What holds on the way -/

/-- The operations take requests and end calls, and all of them succeed. -/
structure Serves (b : Bridge) (ops : List Operation) : Prop where
  only : ∀ op ∈ ops, op = .takeRequests ∨ op.ending?.isSome
  answered : ∀ event ∈ b.history ops, ∃ a, event.answer = .ok a

/-- What is known of a service on its way; `made` are the requests that scripts have made since it
began. -/
structure Account (policy : UnknownPolicy) (b : Bridge) (ops : List Operation)
    (done rest made : List AsyncRequest) : Prop where
  serves : Serves b ops
  taken : takenRequests (b.history ops) = done ++ rest
  ended : endings ops = done.filterMap (ended? policy)
  /-- What it has taken stands before what waits, as if it had never been taken. -/
  sent : b.ledger.Sends
    { (b.after ops).ledger with queue := done ++ rest ++ (b.after ops).ledger.queue } made

theorem serves_nil (b : Bridge) : Serves b [] where
  only _ hop := absurd hop List.not_mem_nil
  answered _ hevent := absurd hevent List.not_mem_nil

theorem Serves.concat {op : Operation} {a : Answer} (h : Serves b ops)
    (hop : op = .takeRequests ∨ op.ending?.isSome) (ha : ((b.after ops).step op).1 = .ok a) :
    Serves b (ops ++ [op]) where
  only := by simpa [or_imp, forall_and] using ⟨h.only, hop⟩
  answered := by
    rw [history_concat]
    simpa [or_imp, forall_and] using ⟨h.answered, a, ha⟩

theorem endings_concat (ops : List Operation) (op : Operation) :
    endings (ops ++ [op]) = endings ops ++ op.ending?.toList := by
  rw [endings, List.filterMap_append]
  cases h : op.ending? <;> simp [endings, h]

/-- Requests that are sent meanwhile add to those made before. -/
theorem Account.sends {made rs : List AsyncRequest} (h : Account policy b ops done rest made)
    (hrs : Sends (b.after ops) b' rs) :
    b.ledger.Sends { b'.ledger with queue := done ++ rest ++ b'.ledger.queue } (made ++ rs) :=
  h.sent.trans (hrs.behind _)

/-- **What holds of a service wherever it is.** -/
theorem Serving.account (h : Serving policy b ops done rest) :
    ∃ made, Account policy b ops done rest made := by
  induction h with
  | start => exact ⟨[], serves_nil b, rfl, rfl, .of_eq rfl rfl rfl rfl rfl⟩
  | @take ops done h ih =>
    obtain ⟨made, ih⟩ := ih
    refine ⟨made, ih.serves.concat (.inl rfl) (congrArg Prod.fst (step_takeRequests _)), ?_, ?_, ?_⟩
    · rw [history_concat, takenRequests_concat, ih.taken, List.append_nil]
      rfl
    · rw [endings_concat, ih.ended]
      exact List.append_nil _
    · rw [after_concat, step_takeRequests]
      simpa using ih.sent
  | @hold ops done rest q h hq ih =>
    obtain ⟨made, ih⟩ := ih
    refine ⟨made, ih.serves, ?_, ?_, ?_⟩
    · rw [ih.taken, List.append_cons]
    · rw [ih.ended, List.filterMap_append]
      simp [ended?, hq]
    · rw [← List.append_cons]
      exact ih.sent
  | @finish ops done rest q o a h hq ha ih =>
    obtain ⟨made, ih⟩ := ih
    -- what scripts send when the call ends waits behind all that was made before
    obtain ⟨rs, hrs⟩ := sends_completeCall (b.after ops) q.id o
    refine ⟨made ++ rs, ih.serves.concat (.inr rfl) ha, ?_, ?_, ?_⟩
    · rw [history_concat, takenRequests_concat, ih.taken, List.append_cons, ha]
      exact List.append_nil _
    · rw [endings_concat, ih.ended, List.filterMap_append]
      simp [ended?, hq, Operation.ending?]
    · rw [after_concat, ← List.append_cons]
      exact ih.sends hrs

/-- A call that was started has ended once an attempt to end it succeeds. -/
theorem Books.mem_settledCalls_concat {r : AsyncRequest} {o : CallOutcome} {a : Answer} {id : Nat}
    (h : Books events b) (hr : r ∈ takenRequests events)
    (ha : (b.step (.completeCall r.id o)).1 = .ok a) :
    id ∈ settledCalls (events ++ [⟨.completeCall r.id o, (b.step (.completeCall r.id o)).1⟩]) ↔
      id ∈ settledCalls events ∨ id = r.id := by
  have h₁ : Books events (b.afterOutcome o) := h.issues (b.starts_afterOutcome o)
  have hends := Books.ends_completeCall r.id o h₁ rfl
  rw [step_completeCall] at ha ⊢
  obtain ⟨-, -, htells⟩ := hends
  rw [settledCalls_concat, List.mem_append, Option.mem_toList]
  dsimp only at ha htells ⊢
  rw [ha] at htells ⊢
  -- the call was started before its outcome was made, so the answer is not that there is none
  have hissued : phase events (b.afterOutcome o) r.id ≠ .unissued := by
    rw [Ne, h₁.phase_eq_unissued, not_not, ← h₁.mem_requests]
    exact List.mem_map_of_mem (List.mem_append_left _ (List.mem_append_left _ hr))
  cases a with
  | ended e =>
    cases e with
    | resolved => simp [Event.settled?, eq_comm]
    | rejected => simp [Event.settled?, eq_comm]
    | alreadySettled =>
      have hbefore := phase_eq_settled.1 htells.1
      simp only [Event.settled?, reduceCtorEq, or_false]
      exact ⟨.inl, fun hid => hid.elim (fun h => h) fun hid => hid ▸ hbefore⟩
    | unknown => exact absurd htells.1 hissued
  | _ => exact htells.elim

theorem takenRequests_append (events events' : List Event) :
    takenRequests (events ++ events') = takenRequests events ++ takenRequests events' :=
  List.flatMap_append

/-- What a service has taken is among all that the host has taken. -/
theorem Serving.mem_takenRequests (h : Serving policy b ops done rest) {r : AsyncRequest}
    (hr : r ∈ done ++ rest) (events : List Event) :
    r ∈ takenRequests (events ++ b.history ops) := by
  obtain ⟨made, haccount⟩ := h.account
  rw [takenRequests_append, haccount.taken]
  exact List.mem_append_right _ hr

/-- **The calls that have ended meanwhile are those that it has ended.** -/
theorem Serving.mem_settledCalls (run : Run c events b) (h : Serving policy b ops done rest)
    {id : Nat} : id ∈ settledCalls (events ++ b.history ops) ↔
      id ∈ settledCalls events ∨ id ∈ (endings ops).map (·.1) := by
  induction h with
  | start => simp [history, endings]
  | take h ih =>
    rw [history_concat, ← List.append_assoc, settledCalls_concat, endings_concat]
    simpa [Event.settled?, Operation.ending?] using ih
  | hold h hq ih => exact ih
  | @finish ops done rest q o a h hq ha ih =>
    have htaken := h.mem_takenRequests (List.mem_append_right done (List.mem_cons_self ..)) events
    have hbooks := (run.goes_on ops).books
    rw [history_concat, ← List.append_assoc, hbooks.mem_settledCalls_concat htaken ha, ih,
      endings_concat, List.map_append, List.mem_append, or_assoc]
    simp [Operation.ending?]

/-! ### A service that comes to its end -/

/-- What comes of a service of the bridge `b` that does not fail: `b'` is the bridge then, `held`
are the requests that the host gets back, `ops` is what was done, and `made` are the requests that
scripts have made meanwhile. -/
structure Served (policy : UnknownPolicy) (events : List Event) (b b' : Bridge)
    (held : List AsyncRequest) (ops : List Operation) (made : List AsyncRequest) : Prop where
  /-- All that was done is that requests were taken and calls ended. -/
  after : b' = b.after ops
  serves : Serves b ops
  /-- It has taken the requests that waited, and all that were made meanwhile, in order. -/
  taken : takenRequests (b.history ops) = b.ledger.queue ++ made
  numbered : made.map (·.id) = List.range' b.ledger.next made.length
  next : b'.ledger.next = b.ledger.next + made.length
  sorted : ((b.ledger.queue ++ made).map (·.id)).Pairwise (· < ·)
  empty : b'.ledger.queue = []
  /-- It has ended their calls one after the other, but for those that it holds. -/
  ended : endings ops = (b.ledger.queue ++ made).filterMap (ended? policy)
  settled : ∀ id, id ∈ settledCalls (events ++ b.history ops) ↔
    id ∈ settledCalls events ∨ id ∈ (endings ops).map (·.1)
  once : ∀ r ∈ b.ledger.queue ++ made, (r ∈ held ∧ r.id ∉ (endings ops).map (·.1)) ∨
    (r ∉ held ∧ ((endings ops).map (·.1)).count r.id = 1)
  reject : policy = .reject → held = []
  hold : policy = .hold → held = (b.ledger.queue ++ made).filter fun r =>
    r.functionName? ≠ some "echo" ∧ r.functionName? ≠ some "sleep"
  /-- What was pending and did not wait still is, and so is what is held and had not ended
  before. -/
  pending : ∀ id, id ∈ b'.ledger.pendingIds ↔
    (id ∈ b.ledger.pendingIds ∧ id ∉ b.ledger.queue.map (·.id)) ∨
      (id ∈ held.map (·.id) ∧ id ∉ settledCalls events)

/-- The requests that wait are known. -/
theorem Books.mem_numbers_of_queue (h : Books events b) {r : AsyncRequest}
    (hr : r ∈ b.ledger.queue) : r.id ∈ b.ledger.numbers :=
  h.requested.mem_iff.1 (List.mem_map_of_mem (List.mem_append_left _ (List.mem_append_right _ hr)))

/-- Requests that are sent stand behind those that waited, in the order of calls. -/
theorem Books.sorted_of_sends (h : Books events b) {l : Ledger Script.Ref}
    {made : List AsyncRequest}
    (hsent : b.ledger.Sends l made) : (l.queue.map (·.id)).Pairwise (· < ·) :=
  hsent.queue_sorted h.queue_sorted fun _ hr => (Ledger.mem_numbers.1 (h.mem_numbers_of_queue hr)).2

/-- The calls that are pending when all requests are dealt with. -/
theorem Serving.mem_pendingIds (run : Run c events b) (h : Serving policy b ops done [])
    {made : List AsyncRequest} (haccount : Account policy b ops done [] made)
    (hdone : done = b.ledger.queue ++ made) (hnodup : (done.map (·.id)).Nodup) (id : Nat) :
    id ∈ (b.after ops).ledger.pendingIds ↔
      (id ∈ b.ledger.pendingIds ∧ id ∉ b.ledger.queue.map (·.id)) ∨
        (id ∈ (done.filter (·.isHeld policy)).map (·.id) ∧ id ∉ settledCalls events) := by
  have hbooks := run.books
  have hnumbers :
      id ∈ (b.after ops).ledger.numbers ↔ id ∈ b.ledger.numbers ∨ id ∈ made.map (·.id) :=
    haccount.sent.mem_numbers hbooks.next_pos
  have hnew : id ∈ b.ledger.numbers → id ∉ made.map (·.id) := haccount.sent.not_mem_of_mem_numbers
  have hqueue : id ∈ b.ledger.queue.map (·.id) → id ∈ b.ledger.numbers := by
    intro hid
    obtain ⟨r, hr, rfl⟩ := List.mem_map.1 hid
    exact hbooks.mem_numbers_of_queue hr
  have hids : id ∈ done.map (·.id) ↔ id ∈ b.ledger.queue.map (·.id) ∨ id ∈ made.map (·.id) := by
    rw [hdone, List.map_append, List.mem_append]
  rw [hbooks.mem_pendingIds, (run.goes_on ops).books.mem_pendingIds, h.mem_settledCalls run,
    haccount.ended, hnumbers]
  by_cases hid : id ∈ done.map (·.id)
  · -- the call of a request that it is done with is pending only if it is held
    obtain ⟨r, hr, rfl⟩ := List.mem_map.1 hid
    have hknown := (hids.1 hid).imp_left hqueue
    have hgone : ¬ ((r.id ∈ b.ledger.numbers ∧ r.id ∉ settledCalls events) ∧
        r.id ∉ b.ledger.queue.map (·.id)) :=
      fun h => h.2 ((hids.1 hid).resolve_right (hnew h.1.1))
    rw [AsyncRequest.ended_iff hnodup (List.Subset.refl done) hr,
      AsyncRequest.id_mem_iff hnodup (List.filter_subset_self _) hr, List.mem_filter,
      and_iff_right hr, and_iff_right hr, or_iff_right hgone, and_iff_right hknown, not_or,
      Bool.not_eq_false, and_comm]
  · -- nothing has become of the others
    obtain ⟨hwaits, hmade⟩ := not_or.1 (mt hids.2 hid)
    have hnone (p : AsyncRequest → Bool) : id ∉ (done.filter p).map (·.id) :=
      fun hmem => hid (List.map_subset _ (List.filter_subset_self done) hmem)
    rw [AsyncRequest.map_fst_ended, or_iff_left hmade, or_iff_left (hnone _), and_iff_left hwaits,
      or_iff_left fun h => hnone _ h.1]

/-- **Where no dispatcher is installed, a service that does not fail deals with every request**: it
ends the call of each that waited, or was made meanwhile, once, but for those that it holds.  This
is so for any number of rounds. -/
theorem service_deals_with_every_request (run : Run c events b) (hnone : b.ledger.dispatcher = none)
    {rounds : Nat} (h : exec (BridgeM.serveFor policy rounds) b = (.ok held, b')) :
    ∃ ops made, Served policy events b b' held ops made := by
  obtain ⟨ops, done, hserving, rfl, hempty, ⟨⟩⟩ | ⟨e, ⟨⟩, -⟩ := Serving.of_exec h
  obtain ⟨made, haccount⟩ := hserving.account
  have hdone : done = b.ledger.queue ++ made := by
    simpa [hempty, hnone] using haccount.sent.queue
  have hsorted : ((b.ledger.queue ++ made).map (·.id)).Pairwise (· < ·) := by
    simpa [hempty, hdone] using run.books.sorted_of_sends haccount.sent
  have hnodup : ((b.ledger.queue ++ made).map (·.id)).Nodup := hsorted.imp Nat.ne_of_lt
  refine ⟨ops, made, rfl, haccount.serves, ?_, haccount.sent.numbered, haccount.sent.next, hsorted,
    hempty, ?_, fun _ => hserving.mem_settledCalls run, fun r hr => ?_, ?_, ?_, ?_⟩
  · rw [haccount.taken, List.append_nil, hdone]
  · rw [haccount.ended, hdone]
  · rw [haccount.ended, hdone]
    exact AsyncRequest.held_or_ended_once hnodup hr
  · rintro rfl
    exact List.filter_eq_nil_iff.2 fun r _ => by simp [AsyncRequest.isHeld_reject]
  · rintro rfl
    rw [hdone]
    exact List.filter_congr fun r _ => r.isHeld_hold
  · exact hserving.mem_pendingIds run haccount hdone (hdone ▸ hnodup)

/-- The host makes `Error` an object that is no constructor, so that no call can be rejected, and
starts three calls, the first of them of `echo`. -/
def unrejectable : List Operation :=
  [.createNamespace "Error", .hostNamespace,
    .fromJson (.object [("function_name", .string "echo")]),
    .callMethod (.make 1 1 1) "callHostAsync" [.make 1 1 2],
    .callMethod (.make 1 1 1) "callHostAsync" [], .callMethod (.make 1 1 1) "callHostAsync" []]

/-- What a host sees of a service: the requests that it gets back, unless the service fails; those
that wait then, and the calls that are pending; and whether it was cut off. -/
structure ServiceReport where
  held : Option (List Nat)
  waiting : List Nat
  pending : List Nat
  isHalted : Bool
deriving DecidableEq

def serviceReport (policy : UnknownPolicy) (b : Bridge) : ServiceReport :=
  let (r, b') := exec (BridgeM.serve policy) b
  ⟨r.toOption.map (·.map (·.id)), b'.ledger.queue.map (·.id), b'.ledger.pendingIds, b'.isHalted⟩

set_option maxRecDepth 100000 in
theorem serviceReport_unrejectable : (create {} {}).toOption.map (fun r =>
    let b := r.1.after unrejectable
    (b.ledger.queue.map (·.id), b.ledger.dispatcher, serviceReport .hold b,
      serviceReport .reject b)) =
    some ([1, 2, 3], none, ⟨some [2, 3], [], [2, 3], false⟩, ⟨none, [], [2, 3], false⟩) := by
  decide +kernel

/-- There is a bridge on which three requests wait, and a service ends the first one, and fails at
the second one unless it holds it. -/
theorem exists_unrejectable :
    ∃ events b, Run {} events b ∧ events.map (·.operation) = unrejectable ∧
    b.ledger.queue.map (·.id) = [1, 2, 3] ∧ b.ledger.dispatcher = none ∧
    serviceReport .hold b = ⟨some [2, 3], [], [2, 3], false⟩ ∧
    serviceReport .reject b = ⟨none, [], [2, 3], false⟩ := by
  have hreport := serviceReport_unrejectable
  obtain ⟨b, tags, hcreate⟩ := exists_create
  have run : Run {} [] b := .create hcreate
  obtain ⟨events, hops, run'⟩ := run.after unrejectable
  rw [hcreate] at hreport
  dsimp only [Except.toOption, Option.map] at hreport
  generalize b.after unrejectable = b' at hreport run'
  rw [Option.some.injEq, Prod.mk.injEq, Prod.mk.injEq, Prod.mk.injEq] at hreport
  exact ⟨events, b', run', hops, hreport⟩

/-- It holds of a service that ends one call and holds two. -/
theorem service_deals_with_every_request_held : ∃ events b held b' ops made, Run {} events b ∧
    events.map (·.operation) = unrejectable ∧ b.ledger.queue.map (·.id) = [1, 2, 3] ∧
    exec (BridgeM.serve .hold) b = (.ok held, b') ∧ held.map (·.id) = [2, 3] ∧
    Served .hold events b b' held ops made := by
  obtain ⟨events, b, run, hops, hqueue, hnone, hhold, -⟩ := exists_unrejectable
  rw [serviceReport] at hhold
  rcases hserve : exec (BridgeM.serve .hold) b with ⟨e | held, b'⟩
  · rw [hserve] at hhold
    cases hhold
  · rw [hserve] at hhold
    obtain ⟨ops, made, hserved⟩ := service_deals_with_every_request run hnone hserve
    exact ⟨events, b, held, b', ops, made, run, hops, hqueue, hserve,
      Option.some.inj (congrArg ServiceReport.held hhold), hserved⟩

/-! ### A service that fails -/

/-- What a service leaves behind that fails at the request `q`: the requests that it held, this one,
and those that it has not come to. -/
def stranded (policy : UnknownPolicy) (done : List AsyncRequest) (q : AsyncRequest)
    (rest : List AsyncRequest) : List AsyncRequest :=
  done.filter (·.isHeld policy) ++ q :: rest

theorem mem_of_stranded {q r : AsyncRequest} (hr : r ∈ stranded policy done q rest) :
    r ∈ done ++ q :: rest :=
  List.mem_append.2 ((List.mem_append.1 hr).imp_left List.mem_of_mem_filter)

/-- What comes of a service of the bridge `b` that fails: `b'` is the bridge then, `ops` is what was
done before, `done` are the requests that were dealt with, `q` is the one whose call could not be
ended, `rest` had been taken like these, and `made` are the requests that scripts have made
meanwhile. -/
structure Failed (policy : UnknownPolicy) (events : List Event) (b b' : Bridge) (e : BridgeError)
    (ops : List Operation) (done : List AsyncRequest) (q : AsyncRequest)
    (rest made : List AsyncRequest) : Prop where
  serves : Serves b ops
  ended : endings ops = done.filterMap (ended? policy)
  failed : ∃ o, q.ending? policy = some o ∧
    (b.after ops).step (.completeCall q.id o) = (.error e, b')
  /-- These are the requests that have ever waited since the service began. -/
  waited : done ++ q :: rest ++ b'.ledger.queue =
    b.ledger.queue ++ if b.ledger.dispatcher.isNone then made else []
  numbered : made.map (·.id) = List.range' b.ledger.next made.length
  next : b'.ledger.next = b.ledger.next + made.length
  /-- Those whose calls are pending, now as before, are stranded or wait. -/
  pending : ∀ r ∈ done ++ q :: rest ++ b'.ledger.queue, r.id ∈ b'.ledger.pendingIds ↔
    r.id ∉ settledCalls events ∧ (r ∈ stranded policy done q rest ∨ r ∈ b'.ledger.queue)
  /-- What is stranded is not in the queue, and the host gets it by nothing that it does later. -/
  lost : ∀ r ∈ stranded policy done q rest, ∀ more,
    r.id ∉ (takenRequests (b'.history more)).map (·.id) ∧
      r.id ∉ (b'.after more).ledger.queue.map (·.id)
  /-- So the host has a way to all that is pending exactly if what is stranded had ended before. -/
  reachable : (∀ r ∈ done ++ q :: rest ++ b'.ledger.queue, r.id ∈ b'.ledger.pendingIds →
      r ∈ b'.ledger.queue) ↔
    ∀ r ∈ stranded policy done q rest, r.id ∈ settledCalls events

/-- The host gets a request once. -/
theorem Run.not_taken_again (run : Run c events b) {r : AsyncRequest}
    (hr : r ∈ takenRequests events)
    (more : List Operation) : r.id ∉ (takenRequests (b.history more)).map (·.id) ∧
      r.id ∉ (b.after more).ledger.queue.map (·.id) := by
  have hnodup : ((requests (events ++ b.history more) (b.after more)).map (·.id)).Nodup :=
    (run.goes_on more).books.requested.nodup_iff.2 (List.nodup_range' 1)
  rw [requests, takenRequests_append, List.append_assoc, List.append_assoc, List.map_append]
    at hnodup
  have hapart := List.disjoint_of_nodup_append hnodup (List.mem_map_of_mem hr)
  rw [List.map_append, List.map_append, List.mem_append, List.mem_append] at hapart
  exact ⟨fun hid => hapart (.inl hid), fun hid => hapart (.inr (.inl hid))⟩

namespace Serving

variable {q : AsyncRequest} {o : CallOutcome} (h : Serving policy b ops done (q :: rest))
  (he : (b.after ops).step (.completeCall q.id o) = (.error e, b'))

include he

omit h in
/-- The run goes on with the operation that fails. -/
theorem run_of_error (run : Run c events b) :
    Run c (events ++ b.history ops ++ [⟨.completeCall q.id o, .error e⟩]) b' := by
  have hrun := (run.goes_on ops).step (.completeCall q.id o)
  rwa [he] at hrun

include h

/-- What scripts have sent before the failure, and at it. -/
theorem sent_of_error : ∃ made, b.ledger.Sends
    { b'.ledger with queue := done ++ q :: rest ++ b'.ledger.queue } made := by
  obtain ⟨made, haccount⟩ := h.account
  obtain ⟨rs, hrs⟩ := sends_completeCall (b.after ops) q.id o
  rw [he] at hrs
  exact ⟨made ++ rs, haccount.sends hrs⟩

theorem pending_of_error (run : Run c events b) {r : AsyncRequest}
    (hr : r ∈ done ++ q :: rest ++ b'.ledger.queue) : r.id ∈ b'.ledger.pendingIds ↔
      r.id ∉ settledCalls events ∧ (r ∈ stranded policy done q rest ∨ r ∈ b'.ledger.queue) := by
  obtain ⟨made, hsent⟩ := h.sent_of_error he
  obtain ⟨_, haccount⟩ := h.account
  have hbooks := (run_of_error he run).books
  have hnodup : ((done ++ q :: rest ++ b'.ledger.queue).map (·.id)).Nodup :=
    (run.books.sorted_of_sends hsent).imp Nat.ne_of_lt
  -- the failure settles nothing: the call was started, and only an end before can have settled it
  have hnumber : r.id ∈ b'.ledger.numbers := by
    rw [← hbooks.mem_requests, requests, takenRequests_concat]
    refine List.mem_map_of_mem (List.mem_append_left _ (List.mem_append.2 ?_))
    exact (List.mem_append.1 hr).imp_left fun hr =>
      List.mem_append_left _ (h.mem_takenRequests hr events)
  have hsettled : r.id ∈ settledCalls
      (events ++ b.history ops ++ [⟨.completeCall q.id o, .error e⟩]) ↔
        r.id ∈ settledCalls events ∨ r.id ∈ (done.filterMap (ended? policy)).map (·.1) := by
    rw [settledCalls_concat, ← haccount.ended, ← h.mem_settledCalls run]
    exact iff_of_eq (congrArg _ (List.append_nil _))
  rw [hbooks.mem_pendingIds, and_iff_right hnumber, hsettled, not_or,
    AsyncRequest.unended_iff hnodup hr, stranded]

theorem lost_of_error (run : Run c events b) {r : AsyncRequest}
    (hr : r ∈ stranded policy done q rest) (more : List Operation) :
    r.id ∉ (takenRequests (b'.history more)).map (·.id) ∧
      r.id ∉ (b'.after more).ledger.queue.map (·.id) := by
  refine (run_of_error he run).not_taken_again ?_ more
  rw [takenRequests_concat]
  exact List.mem_append_left _ (h.mem_takenRequests (mem_of_stranded hr) events)

end Serving

/-- **What a service that fails leaves behind.**  Unless it was cut off, one call could not be
ended.  The requests that had been taken and whose calls are not ended are stranded then: the host
has no way to them, and their calls are pending, if they had not ended before.  This is so for any
number of rounds. -/
theorem failed_service_strands_requests (run : Run c events b) {rounds : Nat}
    (h : exec (BridgeM.serveFor policy rounds) b = (.error e, b'))
    (hrunning : b'.isHalted = false) :
    ∃ ops done q rest made, Failed policy events b b' e ops done q rest made := by
  obtain ⟨_, _, _, _, _, ⟨⟩⟩ | ⟨_, ⟨⟩, hstops | hhalted⟩ := Serving.of_exec h
  · obtain @⟨ops, done, rest, q, o, e, b', hserving, hq, he⟩ := hstops
    obtain ⟨_, haccount⟩ := hserving.account
    obtain ⟨made, hsent⟩ := hserving.sent_of_error he
    refine ⟨ops, done, q, rest, made, haccount.serves, haccount.ended, ⟨o, hq, he⟩,
      hsent.queue, hsent.numbered, hsent.next, fun r => hserving.pending_of_error he run,
      fun r => hserving.lost_of_error he run, ?_⟩
    constructor
    · -- a stranded request that is pending would wait, but it has been taken
      intro hreachable r hr
      by_contra hunsettled
      have hmem := List.mem_append_left b'.ledger.queue (mem_of_stranded hr)
      have hqueue :=
        hreachable r hmem ((hserving.pending_of_error he run hmem).2 ⟨hunsettled, .inl hr⟩)
      exact (hserving.lost_of_error he run hr []).2 (List.mem_map_of_mem hqueue)
    · intro hsettled r hr hpending
      obtain ⟨hunsettled, hstranded | hqueue⟩ := (hserving.pending_of_error he run hr).1 hpending
      · exact absurd (hsettled r hstranded) hunsettled
      · exact hqueue
  · rw [hhalted] at hrunning
    cases hrunning

/-- It holds of a service that fails at the second of three requests: two calls are pending then,
and no request waits. -/
theorem failed_service_strands_requests_unrejectable : ∃ events b e b' ops done q rest made,
    Run {} events b ∧ events.map (·.operation) = unrejectable ∧
    exec (BridgeM.serve .reject) b = (.error e, b') ∧ b'.isHalted = false ∧
    b'.ledger.pendingIds = [2, 3] ∧ b'.ledger.queue = [] ∧
    Failed .reject events b b' e ops done q rest made := by
  obtain ⟨events, b, run, hops, -, -, -, hreject⟩ := exists_unrejectable
  rw [serviceReport] at hreject
  rcases hserve : exec (BridgeM.serve .reject) b with ⟨e | held, b'⟩
  · rw [hserve] at hreject
    have hrunning : b'.isHalted = false := congrArg ServiceReport.isHalted hreject
    obtain ⟨ops, done, q, rest, made, hfailed⟩ :=
      failed_service_strands_requests run hserve hrunning
    exact ⟨events, b, e, b', ops, done, q, rest, made, run, hops, hserve, hrunning,
      congrArg ServiceReport.pending hreject,
      List.map_eq_nil_iff.1 (congrArg ServiceReport.waiting hreject), hfailed⟩
  · rw [hserve] at hreject
    cases hreject

end Bridge

end ScriptBridge
