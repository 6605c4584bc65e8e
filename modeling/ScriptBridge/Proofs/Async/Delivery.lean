import ScriptBridge.Proofs.Async.Lifecycle
import ScriptBridge.Proofs.Script.Request

/-!
# Where requests go

A request goes to the dispatcher that is installed when its call is started, and to the queue that
the host takes requests from if there is none.  Both are channels that only ever get longer:
`Bridge.polled` and `Bridge.delivered` are all that has gone through them, whether or not the host
has taken it.

* `Ledger.Sends` : what starting calls does to the channels; the dispatcher stays installed.
* `Bridge.Channels.adds` : **what an operation adds to the channels**.
* `requests_delivered_once` : in every run each request is in one channel, once, and both are in the
  order of numbers.
-/

namespace ScriptBridge

open Script

namespace Ledger

variable {α : Type} {l l₁ l₂ l₃ : Ledger α}

/-- Requests as a dispatcher gets them. -/
def deliveredTo (d : Nat) (rs : List AsyncRequest) : List Delivery :=
  rs.map fun r => { r with dispatcher := d }

/-- Requests with the next numbers were made, and went to the dispatcher, or to the queue if there
is none. -/
structure Sends (l l' : Ledger α) (rs : List AsyncRequest) : Prop where
  next : l'.next = l.next + rs.length
  numbered : rs.map (·.id) = List.range' l.next rs.length
  dispatcher : l'.dispatcher = l.dispatcher
  dispatchers : l'.dispatchers = l.dispatchers
  queue : l'.queue = l.queue ++ if l.dispatcher.isNone then rs else []
  dispatched : l'.dispatched = l.dispatched ++ (l.dispatcher.map (deliveredTo · rs)).getD []

/-- What is pending does not matter. -/
theorem Sends.of_eq (hnext : l₂.next = l₁.next) (hqueue : l₂.queue = l₁.queue)
    (hdispatched : l₂.dispatched = l₁.dispatched) (hdispatcher : l₂.dispatcher = l₁.dispatcher)
    (hdispatchers : l₂.dispatchers = l₁.dispatchers) : Sends l₁ l₂ [] where
  next := hnext
  numbered := rfl
  dispatcher := hdispatcher
  dispatchers := hdispatchers
  queue := by simp [hqueue]
  dispatched := by cases l₁.dispatcher <;> simp [hdispatched, deliveredTo]

theorem Sends.trans {rs rs' : List AsyncRequest} (h : Sends l₁ l₂ rs) (h' : Sends l₂ l₃ rs') :
    Sends l₁ l₃ (rs ++ rs') where
  next := by
    rw [h'.next, h.next, List.length_append]
    omega
  numbered := by
    rw [List.map_append, h.numbered, h'.numbered, h.next, List.length_append, List.range'_append_1]
  dispatcher := h'.dispatcher.trans h.dispatcher
  dispatchers := h'.dispatchers.trans h.dispatchers
  queue := by
    rw [h'.queue, h.queue, h.dispatcher, List.append_assoc]
    cases l₁.dispatcher <;> rfl
  dispatched := by
    rw [h'.dispatched, h.dispatched, h.dispatcher, List.append_assoc]
    cases l₁.dispatcher <;> simp [deliveredTo]

/-- What stands before both queues does not matter. -/
theorem Sends.behind {rs : List AsyncRequest} (h : Sends l₁ l₂ rs) (before : List AsyncRequest) :
    Sends { l₁ with queue := before ++ l₁.queue } { l₂ with queue := before ++ l₂.queue } rs where
  next := h.next
  numbered := h.numbered
  dispatcher := h.dispatcher
  dispatchers := h.dispatchers
  queue := by rw [h.queue, List.append_assoc]
  dispatched := h.dispatched

/-- What is sent stands behind what waits, in the order of numbers. -/
theorem Sends.queue_sorted {rs : List AsyncRequest} (h : Sends l₁ l₂ rs)
    (hsorted : (l₁.queue.map (·.id)).Pairwise (· < ·)) (hlt : ∀ r ∈ l₁.queue, r.id < l₁.next) :
    (l₂.queue.map (·.id)).Pairwise (· < ·) := by
  rw [h.queue, List.map_append, List.pairwise_append]
  have hnew {id : Nat} (hid : id ∈ (if l₁.dispatcher.isNone then rs else []).map (·.id)) :
      id ∈ List.range' l₁.next rs.length := by
    rw [← h.numbered]
    split_ifs at hid
    · exact hid
    · cases hid
  refine ⟨hsorted, ?_, fun i hi j hj => ?_⟩
  · split_ifs
    · rw [h.numbered]
      exact List.pairwise_lt_range' 1
    · exact .nil
  · obtain ⟨r, hr, rfl⟩ := List.mem_map.1 hi
    exact Nat.lt_of_lt_of_le (hlt r hr) (List.mem_range'_1.1 (hnew hj)).1

theorem Sends.mem_numbers {rs : List AsyncRequest} (h : Sends l₁ l₂ rs) (hpos : 1 ≤ l₁.next)
    {id : Nat} : id ∈ l₂.numbers ↔ id ∈ l₁.numbers ∨ id ∈ rs.map (·.id) := by
  rw [h.numbered, Ledger.mem_numbers, Ledger.mem_numbers, List.mem_range'_1, h.next]
  omega

/-- What is sent is new. -/
theorem Sends.not_mem_of_mem_numbers {rs : List AsyncRequest} (h : Sends l₁ l₂ rs) {id : Nat}
    (hid : id ∈ l₁.numbers) : id ∉ rs.map (·.id) := by
  rw [Ledger.mem_numbers] at hid
  rw [h.numbered, List.mem_range'_1]
  omega

theorem sends_issue (l : Ledger α) (call : α) (payload : Json) :
    Sends l (l.issue call payload) [⟨l.next, payload⟩] := by
  have hdispatchers : (l.issue call payload).dispatchers = l.dispatchers := by
    cases hd : l.dispatcher <;> simp [issue, register, dispatch, hd]
  obtain ⟨hnext, -, hdispatcher, ⟨hd, hqueue, hdispatched⟩ | ⟨d, hd, hqueue, hdispatched⟩⟩ :=
    l.issue_spec call payload
  · exact ⟨hnext, rfl, hdispatcher, hdispatchers, by simp [hqueue, hd], by simp [hdispatched, hd]⟩
  · exact ⟨hnext, rfl, hdispatcher, hdispatchers, by simp [hqueue, hd],
      by simp [hdispatched, hd, deliveredTo]⟩

/-- The calls that were started have sent their requests. -/
theorem Issues.sends (h : Issues l₁ l₂) : ∃ rs, Sends l₁ l₂ rs := by
  induction h with
  | refl => exact ⟨[], .of_eq rfl rfl rfl rfl rfl⟩
  | @issue l₂ _ call payload ih =>
    obtain ⟨rs, hrs⟩ := ih
    exact ⟨_, hrs.trans (l₂.sends_issue call payload)⟩

theorem sends_take {id : Nat} {call : α} (ht : l₁.take id = .ok (call, l₂)) : Sends l₁ l₂ [] := by
  unfold take at ht
  split at ht
  · cases ht
    exact .of_eq rfl rfl rfl rfl rfl
  · cases ht

theorem sends_putBack (l : Ledger α) (id : Nat) (call : α) : Sends l (l.putBack id call) [] :=
  .of_eq rfl rfl rfl rfl rfl

end Ledger

namespace Bridge

/-! ### Operations -/

/-- Scripts have sent requests. -/
def Sends (b b' : Bridge) (rs : List AsyncRequest) : Prop := b.ledger.Sends b'.ledger rs

variable {b b' : Bridge}

theorem Starts.sends (h : Starts b b') : ∃ rs, Sends b b' rs := Ledger.Issues.sends h

/-- An attempt to end a call sends what scripts send meanwhile, and nothing else. -/
theorem sends_completeCall (b : Bridge) (id : Nat) (o : CallOutcome) :
    ∃ rs, Sends b (b.step (.completeCall id o)).2 rs := by
  obtain ⟨rs, hrs⟩ := (b.starts_afterOutcome o).sends
  have hends := ends_completeCall id o (b := b) rfl
  rw [step_completeCall]
  obtain ⟨e, -, heq⟩ | ⟨e, -, -, heq⟩ | ⟨call, l, ht, hend⟩ := hends
  · exact ⟨rs, by rwa [heq]⟩
  · exact ⟨rs, by rwa [heq]⟩
  · have htaken := hrs.trans (Ledger.sends_take ht)
    obtain ⟨-, hstarts⟩ | ⟨e, l', -, hstarts, hback⟩ := hend
    · obtain ⟨rs', hrs'⟩ := hstarts.sends
      exact ⟨_, htaken.trans hrs'⟩
    · obtain ⟨rs', hrs'⟩ := hstarts.sends
      have hputBack := (htaken.trans hrs').trans (l'.sends_putBack id call)
      exact ⟨_, by rwa [← hback] at hputBack⟩

/-- Whether an operation changes what the host has of requests: their dispatcher, or the channels
that it takes them from. -/
def Operation.handlesRequests : Operation → Bool
  | .setDispatcher _ | .takeRequests | .takeDispatched => true
  | _ => false

/-- Every other operation sends the requests that scripts make meanwhile. -/
theorem Operation.sends (op : Operation) (hop : op.handlesRequests = false) (b : Bridge) :
    ∃ rs, Sends b (b.step op).2 rs := by
  have hother (hcalls : op.handlesCalls = false) := (op.starts hcalls b).sends
  cases op with
  | completeCall id o => exact sends_completeCall b id o
  | setDispatcher _ | takeRequests | takeDispatched => cases hop
  | _ => exact hother rfl

/-! ### The channels of a run -/

/-- Whether the host has installed a dispatcher, or has taken it away. -/
def Event.installs? : Event → Option Bool
  | ⟨.setDispatcher on, _⟩ => some on
  | _ => none

/-- The requests that the host has taken from the queue. -/
def Event.polled : Event → List AsyncRequest
  | ⟨.takeRequests, .ok (.requests rs)⟩ => rs
  | _ => []

/-- The requests that the host has taken from its dispatchers. -/
def Event.delivered : Event → List Delivery
  | ⟨.takeDispatched, .ok (.deliveries ds)⟩ => ds
  | _ => []

/-- How the host has installed dispatchers and taken them away. -/
def installs (events : List Event) : List Bool := events.filterMap Event.installs?

/-- The dispatcher that the host has installed last, by its number, unless it has taken it away. -/
def installed (events : List Event) : Option Nat :=
  match (installs events).getLast? with
  | some true => some ((installs events).count true - 1)
  | _ => none

/-- All requests that went to the queue: those that the host has taken from it, and those that are
still there. -/
def polled (events : List Event) (b : Bridge) : List AsyncRequest :=
  events.flatMap Event.polled ++ b.ledger.queue

/-- All requests that went to dispatchers. -/
def delivered (events : List Event) (b : Bridge) : List Delivery :=
  events.flatMap Event.delivered ++ b.ledger.dispatched

/-- What is added to the channels: requests with the next numbers, all of them behind those of the
dispatcher that is installed, or behind those in the queue if there is none. -/
structure Adds (events : List Event) (b : Bridge) (events' : List Event) (b' : Bridge)
    (rs : List AsyncRequest) : Prop where
  next : b'.ledger.next = b.ledger.next + rs.length
  numbered : rs.map (·.id) = List.range' b.ledger.next rs.length
  polled : polled events' b' = polled events b ++ if (installed events).isNone then rs else []
  delivered : delivered events' b' =
    delivered events b ++ ((installed events).map (Ledger.deliveredTo · rs)).getD []

/-- What is known of the channels throughout a run. -/
structure Channels (events : List Event) (b : Bridge) : Prop where
  next_pos : 1 ≤ b.ledger.next
  dispatcher : b.ledger.dispatcher = installed events
  dispatchers : b.ledger.dispatchers = (installs events).count true
  once : ((polled events b).map (·.id) ++ (delivered events b).map (·.id)).Perm b.ledger.numbers
  polled_sorted : ((polled events b).map (·.id)).Pairwise (· < ·)
  delivered_sorted : ((delivered events b).map (·.id)).Pairwise (· < ·)

variable {events : List Event}

theorem installs_concat (e : Event) :
    installs (events ++ [e]) = installs events ++ e.installs?.toList := by
  rw [installs, List.filterMap_append]
  cases h : e.installs? with
  | none => simp [installs, h]
  | some on => simp [installs, h]

theorem installed_concat_of_none {e : Event} (h : e.installs? = none) :
    installed (events ++ [e]) = installed events := by
  rw [installed, installs_concat, h, Option.toList_none, List.append_nil, installed]

/-- Where the host takes nothing, what scripts send is added. -/
theorem Sends.adds {events' : List Event} {rs : List AsyncRequest} (h : Sends b b' rs)
    (hdispatcher : b.ledger.dispatcher = installed events)
    (hpolled : events'.flatMap Event.polled = events.flatMap Event.polled)
    (hdelivered : events'.flatMap Event.delivered = events.flatMap Event.delivered) :
    Adds events b events' b' rs where
  next := h.next
  numbered := h.numbered
  polled := by rw [polled, polled, h.queue, hpolled, List.append_assoc, hdispatcher]
  delivered := by rw [delivered, delivered, h.dispatched, hdelivered, List.append_assoc,
    hdispatcher]

namespace Channels

variable (h : Channels events b)

include h

/-- **What every operation adds to the channels.** -/
theorem adds (op : Operation) :
    ∃ rs, Adds events b (events ++ [⟨op, (b.step op).1⟩]) (b.step op).2 rs := by
  have hother (hop : op.handlesRequests = false) := op.sends hop b
  -- what the host takes counts for the channel that it has gone through, as it did before
  have hsame {e : Event} {b' : Bridge} (hnext : b'.ledger.next = b.ledger.next)
      (hpolled : polled (events ++ [e]) b' = polled events b)
      (hdelivered : delivered (events ++ [e]) b' = delivered events b) :
      Adds events b (events ++ [e]) b' [] := by
    refine ⟨hnext, rfl, ?_, ?_⟩
    · rw [hpolled]
      simp
    · rw [hdelivered]
      cases installed events <;> simp [Ledger.deliveredTo]
  cases op with
  | setDispatcher on =>
    refine ⟨[], hsame ?_ ?_ ?_⟩
    · cases on <;> rfl
    · rw [polled, List.flatMap_append]
      cases on <;> exact congrArg (· ++ _) (List.append_nil _)
    · rw [delivered, List.flatMap_append]
      cases on <;> exact congrArg (· ++ _) (List.append_nil _)
  | takeRequests =>
    refine ⟨[], hsame rfl ?_ ?_⟩
    · rw [polled, List.flatMap_append, List.flatMap_singleton]
      exact List.append_nil _
    · rw [delivered, List.flatMap_append]
      exact congrArg (· ++ _) (List.append_nil _)
  | takeDispatched =>
    refine ⟨[], hsame rfl ?_ ?_⟩
    · rw [polled, List.flatMap_append]
      exact congrArg (· ++ _) (List.append_nil _)
    · rw [delivered, List.flatMap_append, List.flatMap_singleton]
      exact List.append_nil _
  | _ =>
    obtain ⟨rs, hrs⟩ := hother rfl
    refine ⟨rs, hrs.adds h.dispatcher ?_ ?_⟩
    all_goals
      rw [List.flatMap_append]
      exact List.append_nil _

/-- The dispatcher is the one that the host has installed last. -/
theorem step_dispatcher (op : Operation) :
    (b.step op).2.ledger.dispatcher = installed (events ++ [⟨op, (b.step op).1⟩]) ∧
      (b.step op).2.ledger.dispatchers =
        (installs (events ++ [⟨op, (b.step op).1⟩])).count true := by
  have hother (hop : op.handlesRequests = false) := op.sends hop b
  have hsame {e : Event} {b' : Bridge} (he : e.installs? = none)
      (hdispatcher : b'.ledger.dispatcher = b.ledger.dispatcher)
      (hdispatchers : b'.ledger.dispatchers = b.ledger.dispatchers) :
      b'.ledger.dispatcher = installed (events ++ [e]) ∧
        b'.ledger.dispatchers = (installs (events ++ [e])).count true := by
    rw [installed_concat_of_none he, installs_concat, he, hdispatcher, hdispatchers, h.dispatcher,
      h.dispatchers]
    exact ⟨rfl, by simp⟩
  cases op with
  | setDispatcher on =>
    have hinstalls (r : Except BridgeError Answer) :
        installs (events ++ [⟨.setDispatcher on, r⟩]) = installs events ++ [on] :=
      installs_concat _
    rw [installed, hinstalls, List.getLast?_concat, List.count_append, ← h.dispatchers]
    cases on <;> exact ⟨rfl, rfl⟩
  | takeRequests => exact hsame rfl rfl rfl
  | takeDispatched => exact hsame rfl rfl rfl
  | _ =>
    obtain ⟨rs, hrs⟩ := hother rfl
    exact hsame rfl hrs.dispatcher hrs.dispatchers

/-- What was sent before has smaller numbers. -/
theorem lt_next {id : Nat}
    (hid : id ∈ (polled events b).map (·.id) ∨ id ∈ (delivered events b).map (·.id)) :
    id < b.ledger.next :=
  (Ledger.mem_numbers.1 (h.once.mem_iff.1 (List.mem_append.2 hid))).2

/-- The channels stay as they should be when something is added to them. -/
theorem add {events' : List Event} {b' : Bridge} {rs : List AsyncRequest}
    (hadds : Adds events b events' b' rs) (hdispatcher : b'.ledger.dispatcher = installed events')
    (hdispatchers : b'.ledger.dispatchers = (installs events').count true) :
    Channels events' b' := by
  have hpos := h.next_pos
  have hnumbers : b'.ledger.numbers = b.ledger.numbers ++ rs.map (·.id) := by
    rw [hadds.numbered, Ledger.numbers, Ledger.numbers, hadds.next,
      show b.ledger.next + rs.length - 1 = b.ledger.next - 1 + rs.length by omega,
      ← List.range'_append_1, show 1 + (b.ledger.next - 1) = b.ledger.next by omega]
  -- all that was sent before has smaller numbers
  have hsorted {ids : List Nat} (hids : ids.Pairwise (· < ·))
      (hlt : ∀ id ∈ ids, id < b.ledger.next) : (ids ++ rs.map (·.id)).Pairwise (· < ·) := by
    rw [hadds.numbered, List.pairwise_append]
    refine ⟨hids, List.pairwise_lt_range' 1, fun id hid id' hid' => ?_⟩
    exact Nat.lt_of_lt_of_le (hlt id hid) (List.mem_range'_1.1 hid').1
  have hnext : 1 ≤ b'.ledger.next := by
    rw [hadds.next]
    omega
  have hpolled := hadds.polled
  have hdelivered := hadds.delivered
  cases hd : installed events with
  | none =>
    rw [hd] at hpolled hdelivered
    simp only [Option.isNone_none, if_true, Option.map_none, Option.getD_none,
      List.append_nil] at hpolled hdelivered
    refine ⟨hnext, hdispatcher, hdispatchers, ?_, ?_, ?_⟩
    · rw [hnumbers, hpolled, hdelivered, List.map_append, List.append_assoc]
      refine List.Perm.trans ?_ (h.once.append_right _)
      rw [List.append_assoc]
      exact List.perm_append_comm.append_left _
    · rw [hpolled, List.map_append]
      exact hsorted h.polled_sorted fun id hid => h.lt_next (.inl hid)
    · rw [hdelivered]
      exact h.delivered_sorted
  | some d =>
    rw [hd] at hpolled hdelivered
    simp only [Option.isNone_some, if_false, Option.map_some, Option.getD_some,
      List.append_nil, Bool.false_eq_true] at hpolled hdelivered
    have hids : (Ledger.deliveredTo d rs).map (·.id) = rs.map (·.id) := by
      rw [Ledger.deliveredTo, List.map_map]
      rfl
    refine ⟨hnext, hdispatcher, hdispatchers, ?_, ?_, ?_⟩
    · rw [hnumbers, hpolled, hdelivered, List.map_append, hids, ← List.append_assoc]
      exact h.once.append_right _
    · rw [hpolled]
      exact h.polled_sorted
    · rw [hdelivered, List.map_append, hids]
      exact hsorted h.delivered_sorted fun id hid => h.lt_next (.inr hid)

theorem step (op : Operation) : Channels (events ++ [⟨op, (b.step op).1⟩]) (b.step op).2 := by
  obtain ⟨rs, hadds⟩ := h.adds op
  obtain ⟨hdispatcher, hdispatchers⟩ := h.step_dispatcher op
  exact h.add hadds hdispatcher hdispatchers

end Channels

theorem channels_blank (c : BridgeConfig) : Channels [] (blank c) where
  next_pos := Nat.le_refl 1
  dispatcher := rfl
  dispatchers := rfl
  once := .refl _
  polled_sorted := .nil
  delivered_sorted := .nil

/-- Setting a bridge up may send requests. -/
theorem Channels.setUp (h : Channels [] b) {b' : Bridge} {tags tags' : TagSource}
    (hb : b.setUp tags = .ok (b', tags')) : Channels [] b' := by
  obtain ⟨tag, ns, rfl⟩ := setUp_eq_ok hb
  obtain ⟨rs, hrs⟩ := Starts.sends (frame_starts.require (installGlobals b.config) b)
  have hset := h.add (hrs.adds h.dispatcher rfl rfl) (hrs.dispatcher.trans h.dispatcher)
    (hrs.dispatchers.trans h.dispatchers)
  exact ⟨hset.next_pos, hset.dispatcher, hset.dispatchers, hset.once, hset.polled_sorted,
    hset.delivered_sorted⟩

/-- What holds of requests throughout a run. -/
structure DeliveredOnce (events : List Event) (b : Bridge) : Prop where
  /-- The request of each call that was started is in one of the channels, once. -/
  once : ((polled events b).map (·.id) ++ (delivered events b).map (·.id)).Perm b.ledger.numbers
  /-- Each channel has its requests in the order of their numbers. -/
  polled_sorted : ((polled events b).map (·.id)).Pairwise (· < ·)
  delivered_sorted : ((delivered events b).map (·.id)).Pairwise (· < ·)
  /-- The host is handed all that waits in the queue, and nothing waits then: whatever has gone to
  the queue was handed out. -/
  handed : b.step .takeRequests =
    (.ok (.requests b.ledger.queue), { b with ledger := { b.ledger with queue := [] } })
  polled_taken :
    (events ++ [Event.mk .takeRequests (b.step .takeRequests).1]).flatMap Event.polled =
    polled events b
  /-- So it is with what has gone to dispatchers. -/
  handed_dispatched : b.step .takeDispatched =
    (.ok (.deliveries b.ledger.dispatched), { b with ledger := { b.ledger with dispatched := [] } })
  delivered_taken :
    (events ++ [Event.mk .takeDispatched (b.step .takeDispatched).1]).flatMap Event.delivered =
      delivered events b
  /-- The dispatcher in use is the one that the host has installed, also after it was used. -/
  dispatcher : b.ledger.dispatcher = installed events
  /-- An operation adds the requests that scripts make meanwhile, and takes nothing away. -/
  adds : ∀ op, ∃ rs, Adds events b (events ++ [⟨op, (b.step op).1⟩]) (b.step op).2 rs
  /-- A call that is started makes one request, for which the host is asked. -/
  started : ∀ w payload, Sends b (b.serve w (.startAsync payload)).2.2 [⟨b.ledger.next, payload⟩]
  /-- Nothing else that scripts ask of the host starts a call. -/
  unstarted : ∀ w call, (∀ payload, call ≠ .startAsync payload) →
    (b.serve w call).2.2.ledger = b.ledger
  /-- The function that starts calls asks the host once if it returns, for what it was given. -/
  returned : ∀ args w qs v, (Proc.startHostCall args w).Comes qs (.ok v) →
    ∃ qs' payload, (Proc.payloadOf args w).Comes qs' (.ok payload) ∧ (∀ q ∈ qs', ¬ q.IsHost) ∧
      qs = qs' ++ [.host (.startAsync payload)]
  /-- It does not ask the host if it throws, as it does where the payload cannot be made. -/
  thrown : ∀ args w qs v, (Proc.startHostCall args w).Comes qs (.error v) → ∀ q ∈ qs, ¬ q.IsHost

theorem Channels.deliveredOnce (h : Channels events b) : DeliveredOnce events b where
  once := h.once
  polled_sorted := h.polled_sorted
  delivered_sorted := h.delivered_sorted
  handed := rfl
  polled_taken := by
    rw [List.flatMap_append, List.flatMap_singleton]
    rfl
  handed_dispatched := rfl
  delivered_taken := by
    rw [List.flatMap_append, List.flatMap_singleton]
    rfl
  dispatcher := h.dispatcher
  adds := h.adds
  started _ payload := b.ledger.sends_issue _ payload
  unstarted w call hcall := by
    cases call with
    | print line =>
      rw [serve, printLine]
      split <;> rfl
    | startAsync payload => exact absurd rfl (hcall payload)
    | call id args =>
      rw [serve]
      split <;> rfl
    | modules c => rfl
  returned args w qs v h := by
    obtain ⟨_, ⟨⟩, -⟩ | ⟨qs', payload, r, hpayload, hfree, hqs, -⟩ := Proc.comes_startHostCall h
    exact ⟨qs', payload, hpayload, hfree, hqs⟩
  thrown args w qs v h := by
    obtain ⟨_, -, hfree⟩ | ⟨qs', payload, r, -, -, -, ⟨⟩⟩ := Proc.comes_startHostCall h
    exact hfree

/-- **In every run each request is delivered once**: to the dispatcher that was installed when its
call was started, or to the queue if there was none. -/
theorem requests_delivered_once {c : BridgeConfig} (run : Run c events b) :
    DeliveredOnce events b := by
  refine Channels.deliveredOnce ?_
  induction run with
  | create h => exact (channels_blank c).setUp h
  | step run op ih => exact ih.step op

/-- It holds after calls with a dispatcher and without one, of which two wait in the queue, and when
the host has taken these. -/
theorem requests_delivered_once_dispatched : ∃ events b, Run {} events b ∧
    events.map (·.operation) = threeCalls ∧ b.ledger.queue.map (·.id) = [1, 3] ∧
    b.ledger.dispatched.map (·.id) = [2] ∧ DeliveredOnce events b ∧
    ∃ rs, (b.step .takeRequests).1 = .ok (.requests rs) ∧ rs.map (·.id) = [1, 3] ∧
      (b.step .takeRequests).2.ledger.queue = [] ∧
      DeliveredOnce (events ++ [⟨.takeRequests, .ok (.requests rs)⟩]) (b.step .takeRequests).2 := by
  have hreport := history_threeCalls
  obtain ⟨b, tags, h⟩ := exists_create
  have run := (Run.create h).goes_on threeCalls
  rw [h] at hreport
  simp only [Except.toOption, Option.map, Option.some.injEq, Prod.mk.injEq] at hreport
  obtain ⟨-, -, hqueue, hdispatched⟩ := hreport
  have hdelivered := requests_delivered_once run
  have hanswer : ((b.after threeCalls).step .takeRequests).1 =
      .ok (.requests (b.after threeCalls).ledger.queue) := congrArg Prod.fst hdelivered.handed
  have run' := run.step .takeRequests
  rw [hanswer] at run'
  exact ⟨_, _, run, b.map_operation_history threeCalls, hqueue, hdispatched, hdelivered, _, hanswer,
    hqueue, congrArg (·.2.ledger.queue) hdelivered.handed, requests_delivered_once run'⟩

end Bridge

end ScriptBridge
