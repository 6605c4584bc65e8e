import ScriptBridge.Proofs.Async.Ledger
import ScriptBridge.Proofs.Bridge.Run

/-!
# The life of an async call

What a host sees of async calls is what happened in its run: the requests that scripts made, and the
calls that it ended.  From these alone every call is unissued, pending or settled
(`Bridge.phase`).

* `Bridge.frame_starts` : the engine changes the ledger only by **starting calls**.
* `Bridge.ends_completeCall` : what an attempt to end a call comes to, and the ledger then.
* `Bridge.Books.faithful_iff` : such an attempt is **reported as it went**, unless the making of the
  outcome started the call itself.
* `Bridge.Books.phase_rank_le` : no operation takes a call back to an earlier phase.
* `Bridge.call_lifecycle` : **throughout every run** the numbers are given out one after the other,
  each call is settled once at most, and the host sees which ones are pending.
-/

namespace ScriptBridge

open Script

namespace Bridge

/-- Scripts have started calls. -/
def Starts (b b' : Bridge) : Prop := Ledger.Issues b.ledger b'.ledger

instance : IsPreorder Bridge Starts where
  refl b := .refl b.ledger
  trans _ _ _ h h' := trans_of Ledger.Issues h h'

theorem engineFrame_starts : BridgeM.EngineFrame Starts where
  world _ _ := .refl _
  suspended _ _ := .refl _
  halt _ _ _ := .refl _
  insert _ _ := .refl _
  released _ _ _ _ := .refl _
  functions _ _ := .refl _
  descriptors _ _ := .refl _
  output _ _ := .refl _
  stdout _ _ := .refl _
  failures _ _ := .refl _
  issue b call payload := (Ledger.Issues.refl b.ledger).issue call payload
  table _ _ := .refl _

/-- The engine changes the ledger only by starting calls. -/
theorem frame_starts : BridgeM.Frame Starts :=
  engineFrame_starts.frame

/-- An operation that is not about calls only starts some. -/
theorem Operation.starts (op : Operation) (hop : op.handlesCalls = false) (b : Bridge) :
    Starts b (b.step op).2 :=
  op.keeps frame_starts (fun hc => by simp [hop] at hc)
    (fun hm => op.keeps_of_handlesModules frame_starts.toCoreFrame hm (fun _ _ => .refl _)
      (fun _ _ => .refl _) fun _ _ => .refl _) b

/-! ### Ending one call -/

/-- The bridge when the outcome of a call is made, and the call is not looked up yet. -/
def afterOutcome (b : Bridge) (o : CallOutcome) : Bridge := (exec (BridgeM.outcomeValue o) b).2

/-- An outcome that is a handle or a message is made without the engine. -/
theorem afterOutcome_eq {b : Bridge} {o : CallOutcome} (ho : ∀ j, o ≠ .resolveJson j) :
    b.afterOutcome o = b := by
  cases o with
  | resolve handle =>
    rw [afterOutcome, BridgeM.outcomeValue, exec_bind, BridgeM.value, exec_bind, exec_get]
    simp only [exec_ofExcept]
    cases b.handles.get handle with
    | error e => rfl
    | ok v => rfl
  | resolveJson j => exact absurd rfl (ho j)
  | reject message => rfl

theorem starts_afterOutcome (b : Bridge) (o : CallOutcome) : Starts b (b.afterOutcome o) :=
  frame_starts.outcomeValue o b

/-- How an attempt to end a call goes: making the outcome fails; or the call is not pending; or its
promise is settled; or it is not, and the call is pending again. -/
theorem ends_completeCall (id : Nat) (o : CallOutcome) {b b₁ : Bridge}
    (hmade : b.afterOutcome o = b₁) :
    Ends (BridgeM.completeCall id o) b fun r b' =>
      (∃ e, r = .error e ∧ b' = b₁) ∨
      (∃ e, b₁.ledger.take id = .error e ∧ r = .ok e ∧ b' = b₁) ∨
      ∃ cap l, b₁.ledger.take id = .ok (cap, l) ∧
        ((r = .ok .resolved ∨ r = .ok .rejected) ∧ Ledger.Issues l b'.ledger ∨
          ∃ e l', r = .error e ∧ Ledger.Issues l l' ∧ b'.ledger = l'.putBack id cap) := by
  refine Ends.bind (P := fun _ b' => b' = b₁) hmade ?_ ?_
  · rintro result b₁ rfl
    refine .get_bind ?_
    cases ht : b₁.ledger.take id with
    | error e => exact .inr (.inl ⟨e, rfl, rfl, rfl⟩)
    | ok taken =>
      obtain ⟨cap, l⟩ := taken
      refine .modify_bind ?_
      have hsettle : Keeps Starts (BridgeM.settleCall cap result) :=
        (frame_starts.evaluate _).bind fun _ => .modify fun _ => .refl _
      refine Ends.bind (P := fun r b' =>
        (r = .ok () ∧ Ledger.Issues l b'.ledger) ∨
          ∃ e l', r = .error e ∧ Ledger.Issues l l' ∧ b'.ledger = l'.putBack id cap) ?_ ?_ ?_
      · exact Ends.tryCatch (hsettle.ends _) (fun _ _ h => .inl ⟨rfl, h⟩)
          fun e b' h => .modify_bind (.throw (.inr ⟨e, _, rfl, h, rfl⟩))
      · rintro ⟨⟩ b₂ (⟨-, hstarts⟩ | ⟨e, l', ⟨⟩, -⟩)
        have hdrain : Ends (discard BridgeM.drain) b₂ fun r b' =>
            (∃ a, r = .ok a) ∧ Starts b₂ b' :=
          ⟨BridgeM.succeeds_drain.discard b₂, frame_starts.drain.discard b₂⟩
        refine hdrain.bind (fun _ b₃ h => .pure ?_) ?_
        · refine .inr (.inr ⟨cap, l, rfl, .inl ⟨?_, trans_of Ledger.Issues hstarts h.2⟩⟩)
          cases result with
          | ok v => exact .inl rfl
          | error message => exact .inr rfl
        · rintro e _ ⟨⟨_, ⟨⟩⟩, -⟩
      · rintro e b₂ (⟨⟨⟩, -⟩ | ⟨e', l', h, hstarts, hback⟩)
        cases h
        exact .inr (.inr ⟨cap, l, rfl, .inr ⟨e, l', rfl, hstarts, hback⟩⟩)
  · exact fun e _ h => .inl ⟨e, rfl, h⟩

/-! ### What has happened to calls -/

/-- The call that the host ended. -/
def Event.settled? : Event → Option Nat
  | ⟨.completeCall id _, .ok (.ended .resolved)⟩ => some id
  | ⟨.completeCall id _, .ok (.ended .rejected)⟩ => some id
  | _ => none

/-- The requests that the host took. -/
def Event.taken : Event → List AsyncRequest
  | ⟨.takeRequests, .ok (.requests rs)⟩ => rs
  | ⟨.takeDispatched, .ok (.deliveries ds)⟩ => ds.map (·.toAsyncRequest)
  | _ => []

/-- The calls that the host has ended. -/
def settledCalls (events : List Event) : List Nat := events.filterMap Event.settled?

/-- The requests that the host has taken. -/
def takenRequests (events : List Event) : List AsyncRequest := events.flatMap Event.taken

/-- The requests that scripts have made: those that the host has taken, and those that wait. -/
def requests (events : List Event) (b : Bridge) : List AsyncRequest :=
  takenRequests events ++ b.ledger.queue ++ b.ledger.dispatched.map (·.toAsyncRequest)

theorem step_completeCall (b : Bridge) (id : Nat) (o : CallOutcome) :
    b.step (.completeCall id o) = ((exec (BridgeM.completeCall id o) b).1.map .ended,
      (exec (BridgeM.completeCall id o) b).2) := by
  rw [Bridge.step, Operation.program, exec_map]

/-- How far a call has come. -/
inductive Phase
  | unissued
  | pending
  | settled
deriving DecidableEq, Repr

/-- The place of a phase in the life of a call. -/
def Phase.rank : Phase → Nat
  | unissued => 0
  | pending => 1
  | settled => 2

/-- The phase of a call: it is settled if the host has ended it, and else pending if a script has
made a request with its number. -/
def phase (events : List Event) (b : Bridge) (id : Nat) : Phase :=
  if id ∈ settledCalls events then .settled
  else if id ∈ (requests events b).map (·.id) then .pending
  else .unissued

/-- The ledger of a bridge agrees with what has happened. -/
def Books (events : List Event) (b : Bridge) : Prop :=
  b.ledger.Balanced (takenRequests events) (settledCalls events)

/-- What the answer to an attempt to end a call says of the phases of the call before and after. -/
def Tells : Except BridgeError Answer → Phase → Phase → Prop
  | .ok (.ended .resolved), before, after => before = .pending ∧ after = .settled
  | .ok (.ended .rejected), before, after => before = .pending ∧ after = .settled
  | .ok (.ended .alreadySettled), before, after => before = .settled ∧ after = .settled
  | .ok (.ended .unknown), before, after => before = .unissued ∧ after = .unissued
  | .ok _, _, _ => False
  | .error _, before, after => after = before

variable {events : List Event} {b : Bridge} {id : Nat}

theorem settledCalls_concat (e : Event) :
    settledCalls (events ++ [e]) = settledCalls events ++ e.settled?.toList := by
  rw [settledCalls, List.filterMap_append]
  cases h : e.settled? with
  | none => simp [settledCalls, h]
  | some id => simp [settledCalls, h]

theorem settledCalls_cons (e : Event) :
    settledCalls (e :: events) = e.settled?.toList ++ settledCalls events := by
  rw [settledCalls, List.filterMap_cons]
  cases e.settled? <;> rfl

theorem takenRequests_concat (e : Event) :
    takenRequests (events ++ [e]) = takenRequests events ++ e.taken := by
  simp [takenRequests]

theorem books_concat (e : Event) : Books (events ++ [e]) b ↔
    b.ledger.Balanced (takenRequests events ++ e.taken)
      (settledCalls events ++ e.settled?.toList) := by
  rw [Books, settledCalls_concat, takenRequests_concat]

/-- An event that neither ends a call nor takes requests leaves the books as they are. -/
theorem books_concat_of_none {e : Event} (hsettled : e.settled? = none) (htaken : e.taken = []) :
    Books (events ++ [e]) b ↔ Books events b := by
  rw [books_concat, hsettled, htaken, Option.toList_none, List.append_nil, List.append_nil, Books]

theorem books_concat_of_some {e : Event} (hsettled : e.settled? = some id) (htaken : e.taken = []) :
    Books (events ++ [e]) b ↔
      b.ledger.Balanced (takenRequests events) (settledCalls events ++ [id]) := by
  rw [books_concat, hsettled, htaken, Option.toList_some, List.append_nil]

theorem phase_concat_of_none {e : Event} (hsettled : e.settled? = none) (htaken : e.taken = []) :
    phase (events ++ [e]) b id = phase events b id := by
  simp [phase, requests, settledCalls_concat, takenRequests_concat, hsettled, htaken]

theorem phase_eq_settled : phase events b id = .settled ↔ id ∈ settledCalls events := by
  rw [phase]
  split_ifs
  all_goals simp_all

namespace Books

variable (h : Books events b)

include h

theorem mem_requests : id ∈ (requests events b).map (·.id) ↔ id ∈ b.ledger.numbers :=
  h.requested.mem_iff

theorem phase_eq_pending : phase events b id = .pending ↔ id ∈ b.ledger.pendingIds := by
  rw [h.mem_pendingIds, ← h.mem_requests, phase]
  split_ifs
  all_goals simp_all

theorem phase_eq_unissued : phase events b id = .unissued ↔ id ∉ b.ledger.numbers := by
  have hissued := h.settled_mem id
  rw [← h.mem_requests] at hissued ⊢
  rw [phase]
  split_ifs
  all_goals simp_all

/-- An event that is not about calls leaves the phase of a call that was started. -/
theorem phase_concat {b' : Bridge} {e : Event} (h' : Books (events ++ [e]) b')
    (hsettled : e.settled? = none) (hphase : phase events b id ≠ .unissued)
    (hnext : b.ledger.next ≤ b'.ledger.next) : phase (events ++ [e]) b' id = phase events b id := by
  have hsame : settledCalls (events ++ [e]) = settledCalls events := by
    rw [settledCalls_concat, hsettled, Option.toList_none, List.append_nil]
  by_cases hs : id ∈ settledCalls events
  · rw [phase_eq_settled.2 hs, phase_eq_settled, hsame]
    exact hs
  · have hid : id ∈ b.ledger.numbers := by
      by_contra hid
      exact hphase (h.phase_eq_unissued.2 hid)
    have hid' : id ∈ b'.ledger.numbers := by
      rw [Ledger.mem_numbers] at hid ⊢
      omega
    rw [h.phase_eq_pending.2 (h.mem_pendingIds.2 ⟨hid, hs⟩), h'.phase_eq_pending, h'.mem_pendingIds,
      hsame]
    exact ⟨hid', hs⟩

omit h in
/-- The answer tells the phase that the call has when the outcome is made. -/
theorem ends_completeCall (id : Nat) (o : CallOutcome) {b₁ : Bridge} (h₁ : Books events b₁)
    (hmade : b.afterOutcome o = b₁) :
    Ends (BridgeM.completeCall id o) b fun r b' =>
      let e : Event := ⟨.completeCall id o, r.map .ended⟩
      Books (events ++ [e]) b' ∧ b₁.ledger.next ≤ b'.ledger.next ∧
        Tells e.answer (phase events b₁ id) (phase (events ++ [e]) b' id) := by
  refine (Bridge.ends_completeCall id o hmade).mono ?_
  intro r b' hr
  obtain ⟨e, rfl, rfl⟩ | ⟨e, htake, rfl, rfl⟩ | ⟨cap, l, htake, hend⟩ := hr
  · exact ⟨(books_concat_of_none rfl rfl).2 h₁, Nat.le_refl _, phase_concat_of_none rfl rfl⟩
  · obtain ⟨hid, rfl⟩ | ⟨hid, rfl⟩ := h₁.take_eq_error.1 htake
    · refine ⟨(books_concat_of_none rfl rfl).2 h₁, Nat.le_refl _, ?_⟩
      have hphase := phase_eq_settled (b := b').2 hid
      exact ⟨hphase, (phase_concat_of_none rfl rfl).trans hphase⟩
    · refine ⟨(books_concat_of_none rfl rfl).2 h₁, Nat.le_refl _, ?_⟩
      have hphase := h₁.phase_eq_unissued.2 hid
      exact ⟨hphase, (phase_concat_of_none rfl rfl).trans hphase⟩
  · -- a call that was pending is settled, or it is put back where settling it fails
    obtain ⟨hnumber, hunsettled, hnext, hl⟩ := h₁.take_eq_ok htake
    have hpending : phase events b₁ id = .pending :=
      h₁.phase_eq_pending.2 (h₁.mem_pendingIds.2 ⟨hnumber, hunsettled⟩)
    obtain ⟨hr, hstarts⟩ | ⟨e, l', rfl, hstarts, hback⟩ := hend
    · have hnext' := hnext ▸ hstarts.next_le
      have hbooks := hl.issues hstarts
      have hsettled (e : Event) (he : e.settled? = some id) :
          phase (events ++ [e]) b' id = .settled := by
        rw [phase_eq_settled, settledCalls_concat, he]
        simp
      obtain rfl | rfl := hr
      · exact ⟨(books_concat_of_some rfl rfl).2 hbooks, hnext', hpending, hsettled _ rfl⟩
      · exact ⟨(books_concat_of_some rfl rfl).2 hbooks, hnext', hpending, hsettled _ rfl⟩
    · have hbooks : Books (events ++ [⟨.completeCall id o, .error e⟩]) b' := by
        rw [books_concat_of_none rfl rfl, Books, hback]
        exact (hl.issues hstarts).putBack cap
      have hnext' : b₁.ledger.next ≤ b'.ledger.next := by
        rw [← hnext, hback]
        exact hstarts.next_le
      exact ⟨hbooks, hnext', h₁.phase_concat hbooks rfl (by simp [hpending]) hnext'⟩

/-- Every operation keeps the books, and takes back no number. -/
theorem step (op : Operation) :
    Books (events ++ [⟨op, (b.step op).1⟩]) (b.step op).2 ∧
      b.ledger.next ≤ (b.step op).2.ledger.next := by
  have hother (hop : op.handlesCalls = false) := op.starts hop b
  cases op with
  | setDispatcher on =>
    refine ⟨(books_concat_of_none rfl rfl).2 (h.install on), Nat.le_of_eq ?_⟩
    cases on <;> rfl
  | takeRequests =>
    refine ⟨(books_concat _).2 ?_, Nat.le_refl _⟩
    rw [show Option.toList _ = [] from rfl, List.append_nil]
    exact h.takeQueued
  | takeDispatched =>
    refine ⟨(books_concat _).2 ?_, Nat.le_refl _⟩
    rw [show Option.toList _ = [] from rfl, List.append_nil]
    exact h.takeDispatched
  | completeCall id o =>
    have hstarts := b.starts_afterOutcome o
    obtain ⟨hbooks, hnext, -⟩ := ends_completeCall id o (h.issues hstarts) rfl
    rw [step_completeCall]
    exact ⟨hbooks, Nat.le_trans hstarts.next_le hnext⟩
  | _ =>
    have hstarts := hother rfl
    exact ⟨(books_concat_of_none rfl rfl).2 (h.issues hstarts), hstarts.next_le⟩

/-- No call goes back to an earlier phase. -/
theorem phase_rank_le (op : Operation) :
    (phase events b id).rank ≤
      (phase (events ++ [⟨op, (b.step op).1⟩]) (b.step op).2 id).rank := by
  obtain ⟨h', hnext⟩ := h.step op
  cases hphase : phase events b id with
  | unissued => exact Nat.zero_le _
  | pending =>
    have hid := (h.mem_pendingIds.1 (h.phase_eq_pending.1 hphase)).1
    have hissued : phase (events ++ [⟨op, (b.step op).1⟩]) (b.step op).2 id ≠ .unissued := by
      rw [Ne, h'.phase_eq_unissued, not_not, Ledger.mem_numbers]
      rw [Ledger.mem_numbers] at hid
      omega
    cases hphase' : phase (events ++ [⟨op, (b.step op).1⟩]) (b.step op).2 id with
    | unissued => exact absurd hphase' hissued
    | pending => exact Nat.le_refl _
    | settled => exact Nat.le_succ _
  | settled =>
    have hsettled : phase (events ++ [⟨op, (b.step op).1⟩]) (b.step op).2 id = .settled := by
      rw [phase_eq_settled, settledCalls_concat]
      exact List.mem_append_left _ (phase_eq_settled.1 hphase)
    exact Nat.le_of_eq (congrArg Phase.rank hsettled.symm)

/-- Scripts take calls only from unissued to pending. -/
theorem phase_of_starts {b' : Bridge} (hstarts : Starts b b') :
    phase events b id = phase events b' id ∨
      phase events b id = .unissued ∧ phase events b' id = .pending := by
  have h' : Books events b' := h.issues hstarts
  have hnext := hstarts.next_le
  cases hphase : phase events b id with
  | settled => exact .inl (phase_eq_settled.2 (phase_eq_settled.1 hphase)).symm
  | pending =>
    have hid := h.mem_pendingIds.1 (h.phase_eq_pending.1 hphase)
    have hid' : id ∈ b'.ledger.numbers := by
      rw [Ledger.mem_numbers] at hid ⊢
      omega
    exact .inl (h'.phase_eq_pending.2 (h'.mem_pendingIds.2 ⟨hid', hid.2⟩)).symm
  | unissued =>
    cases hphase' : phase events b' id with
    | unissued => exact .inl rfl
    | pending => exact .inr ⟨rfl, rfl⟩
    | settled =>
      rw [phase_eq_settled.2 (phase_eq_settled.1 hphase')] at hphase
      cases hphase

end Books

/-! ### The life of every call -/

/-- The outcome that a host gives a call has started that call: scripts run where it is made. -/
def StartedByOutcome (events : List Event) (b : Bridge) (id : Nat) (o : CallOutcome) : Prop :=
  phase events b id = .unissued ∧ phase events (b.afterOutcome o) id = .pending

/-- The host can trust what an attempt to end a call says. -/
def Faithful (events : List Event) (b : Bridge) (id : Nat) (o : CallOutcome) : Prop :=
  let (answer, b') := b.step (.completeCall id o)
  Tells answer (phase events b id) (phase (events ++ [⟨.completeCall id o, answer⟩]) b' id)

/-- The answer and the phase after it leave one phase before it. -/
theorem Tells.unique {r : Except BridgeError Answer} {before before' after : Phase}
    (h : Tells r before after) (h' : Tells r before' after) : before = before' := by
  unfold Tells at h h'
  split at h
  all_goals simp_all

/-- **An attempt to end a call is reported as it went, unless the outcome itself started the
call.** -/
theorem Books.faithful_iff (h : Books events b) (id : Nat) (o : CallOutcome) :
    Faithful events b id o ↔ ¬ StartedByOutcome events b id o := by
  have hstarts := b.starts_afterOutcome o
  have h₁ : Books events (b.afterOutcome o) := h.issues hstarts
  obtain ⟨-, -, htells⟩ := ends_completeCall id o h₁ rfl
  have hfaithful : Faithful events b id o ↔
      phase events b id = phase events (b.afterOutcome o) id := by
    rw [Faithful, step_completeCall]
    constructor
    · exact fun ht => ht.unique htells
    · intro heq
      rw [heq]
      exact htells
  rw [hfaithful]
  constructor
  · rintro heq ⟨hbefore, hafter⟩
    rw [heq, hafter] at hbefore
    cases hbefore
  · exact fun hnot => (h.phase_of_starts hstarts).resolve_right hnot

/-- An attempt to end a call that is not pending, with a handle or a message, changes nothing. -/
theorem Books.step_completeCall_eq (h : Books events b) {o : CallOutcome}
    (hid : phase events b id ≠ .pending) (ho : ∀ j, o ≠ .resolveJson j) :
    (b.step (.completeCall id o)).2 = b := by
  have hends := Bridge.ends_completeCall id o (afterOutcome_eq (b := b) ho)
  rw [step_completeCall]
  obtain ⟨e, -, heq⟩ | ⟨e, -, -, heq⟩ | ⟨cap, l, htake, -⟩ := hends
  · exact heq
  · exact heq
  · obtain ⟨hnumber, hunsettled, -, -⟩ := h.take_eq_ok htake
    exact absurd (h.phase_eq_pending.2 (h.mem_pendingIds.2 ⟨hnumber, hunsettled⟩)) hid

/-- The calls that are pending, in the order of their numbers. -/
def pendingCalls (events : List Event) (b : Bridge) : List Nat :=
  (List.range' 1 (requests events b).length).filter fun id => phase events b id = .pending

/-- What holds of async calls throughout a run. -/
structure Lifecycle (events : List Event) (b : Bridge) : Prop where
  /-- The calls that were started have the numbers 1, 2, 3, …, each once. -/
  numbered : ((requests events b).map (·.id)).Perm (List.range' 1 (requests events b).length)
  /-- Requests wait in the order in which they were made. -/
  queue_sorted : (b.ledger.queue.map (·.id)).Pairwise (· < ·)
  dispatched_sorted : (b.ledger.dispatched.map (·.id)).Pairwise (· < ·)
  /-- No call is ended twice, or without having been started. -/
  settled_nodup : (settledCalls events).Nodup
  settled_mem : ∀ id ∈ settledCalls events, id ∈ (requests events b).map (·.id)
  /-- Calls advance. -/
  advance : ∀ id op, (phase events b id).rank ≤
    (phase (events ++ [⟨op, (b.step op).1⟩]) (b.step op).2 id).rank
  /-- The host can see which calls are pending. -/
  reported : (b.step .pendingCalls).1 = .ok (.ids (pendingCalls events b))
  abandoned : b.shutdown.abandonedCalls = pendingCalls events b
  /-- Attempts to end a call are reported as they went, with one exception. -/
  faithful : ∀ id o, Faithful events b id o ↔ ¬ StartedByOutcome events b id o
  unchanged : ∀ id o, phase events b id ≠ .pending → (∀ j, o ≠ .resolveJson j) →
    (b.step (.completeCall id o)).2 = b

theorem Books.lifecycle (h : Books events b) : Lifecycle events b := by
  have hlength : (requests events b).length = b.ledger.next - 1 := by
    have := h.requested.length_eq
    rwa [List.length_map, Ledger.numbers, List.length_range'] at this
  have hpending : b.ledger.pendingIds = pendingCalls events b := by
    rw [h.pending, pendingCalls, hlength]
    refine List.filter_congr fun id hid => ?_
    have hiff : id ∉ settledCalls events ↔ phase events b id = .pending := by
      rw [h.phase_eq_pending, h.mem_pendingIds]
      exact ⟨fun hs => ⟨hid, hs⟩, And.right⟩
    simp only [hiff]
  refine ⟨?_, h.queue_sorted, h.dispatched_sorted, h.settled_nodup, ?_, fun _ op =>
    h.phase_rank_le op, ?_, hpending, h.faithful_iff, fun _ _ => h.step_completeCall_eq⟩
  · rw [hlength]
    exact h.requested
  · exact fun id hid => h.mem_requests.2 (h.settled_mem id hid)
  · rw [← hpending]
    rfl

theorem books_blank (c : BridgeConfig) : Books [] (blank c) := Ledger.Balanced.new

/-- Setting a bridge up may start calls. -/
theorem Books.setUp (h : Books [] b) {b' : Bridge} {tags tags' : TagSource}
    (hb : b.setUp tags = .ok (b', tags')) : Books [] b' := by
  obtain ⟨tag, ns, rfl⟩ := setUp_eq_ok hb
  exact h.issues (frame_starts.require (installGlobals b.config) b)

/-- In every run the ledger agrees with what has happened. -/
theorem Run.books {c : BridgeConfig} (run : Run c events b) : Books events b := by
  induction run with
  | create h => exact (books_blank c).setUp h
  | step run op ih => exact (ih.step op).1

/-- **Throughout every run, each call is unissued, pending or settled, in this order.** -/
theorem call_lifecycle {c : BridgeConfig} (run : Run c events b) : Lifecycle events b := by
  refine Books.lifecycle ?_
  induction run with
  | create h => exact (books_blank c).setUp h
  | step run op ih => exact (ih.step op).1

/-- What an attempt to end a call came to. -/
def Event.ended? : Event → Option CallEnd
  | ⟨.completeCall _ _, .ok (.ended e)⟩ => some e
  | _ => none

/-- A script starts three calls, the second one while a dispatcher is installed, and the host tries
twice to end the first one. -/
def threeCalls : List Operation :=
  let start : Operation := .callMethod (.make 1 1 0) "callHostAsync" []
  [.hostNamespace, start, .setDispatcher true, start, .setDispatcher false, start,
    .completeCall 1 (.reject "late"), .completeCall 1 (.reject "late")]

set_option maxRecDepth 100000 in
/-- The first call is settled then, and by the first attempt; the next two are pending, and there is
no fourth one.  All the requests wait. -/
theorem history_threeCalls : (create {} {}).toOption.map (fun r =>
    let events := r.1.history threeCalls
    let b := r.1.after threeCalls
    ([1, 2, 3, 4].map (phase events b), events.filterMap Event.ended?,
      b.ledger.queue.map (·.id), b.ledger.dispatched.map (·.id))) =
    some ([.settled, .pending, .pending, .unissued], [.rejected, .alreadySettled], [1, 3],
      [2]) := by
  decide +kernel

/-- It holds after calls that were started, one of which was ended and could not be ended again. -/
theorem call_lifecycle_threeCalls : ∃ events b, Run {} events b ∧
    events.map (·.operation) = threeCalls ∧
    [1, 2, 3, 4].map (phase events b) = [.settled, .pending, .pending, .unissued] ∧
    events.filterMap Event.ended? = [.rejected, .alreadySettled] ∧ Lifecycle events b := by
  have hreport := history_threeCalls
  obtain ⟨b, tags, h⟩ := exists_create
  have run := (Run.create h).goes_on threeCalls
  rw [h] at hreport
  simp only [Except.toOption, Option.map, Option.some.injEq, Prod.mk.injEq] at hreport
  exact ⟨_, _, run, b.map_operation_history threeCalls, hreport.1, hreport.2.1,
    call_lifecycle run⟩

end Bridge

end ScriptBridge
