import Mathlib.Data.List.DropRight
import Mathlib.Data.List.Forall2
import ScriptBridge.Proofs.Async.Delivery
import ScriptBridge.Proofs.Export.Generation

/-!
# Polling for requests

A thread takes requests from the queue of its bridge, keeps those that it has not handed out yet,
and hands out one with each take.  Seen from the outside these two queues are one: what was handed
out since the bridge was set up, what the thread still keeps and what still waits in the bridge are,
one behind the other, all that the scripts of this bridge have queued.

* `ExportCall.perform_takeRequest` : what a take comes to.
* `Thread.Follows.replace`, `Thread.Follows.stay` : **one call** keeps what was handed out and what
  is kept together what was taken from the bridge.
* `Thread.polling_is_a_queue` : **in every run** the requests are handed out in their order, each
  once, and none of a bridge that was dropped.
-/

namespace ScriptBridge

open Script
open Bridge (Operation)

/-! ### What is handed out -/

/-- The request that a call has handed out. -/
def ExportEvent.handed? (e : ExportEvent) : Option AsyncRequest :=
  match e.answer with
  | (.ok, some (.request r)) => r
  | _ => none

/-- The requests that were handed out since a call last dropped the bridge. -/
def handedOut (calls : List ExportEvent) : List AsyncRequest :=
  (calls.rtakeWhile fun e => !e.call.replaces).filterMap ExportEvent.handed?

/-- The number that a take writes; no request has the number 0. -/
def AsyncRequest.number (r : Option AsyncRequest) : Nat := (r.map (·.id)).getD 0

/-- The requests that the scripts of a bridge have queued, the oldest first. -/
def Generation.queued (g : Generation) : List AsyncRequest := Bridge.polled g.events g.bridge

/-- The requests that wait to be handed out, the oldest first. -/
def Thread.waiting (t : Thread) : List AsyncRequest :=
  t.requests ++ ((t.bridge.map (·.ledger.queue)).getD [])

/-- Whether a call takes requests. -/
def ExportCall.takes : ExportCall → Bool
  | takeRequest _ => true
  | _ => false

theorem handedOut_concat_of_replaces (calls : List ExportEvent) {e : ExportEvent}
    (he : e.call.replaces = true) : handedOut (calls ++ [e]) = [] := by
  rw [handedOut, List.rtakeWhile_concat_neg _ _ _ (by simp [he])]
  rfl

theorem handedOut_concat (calls : List ExportEvent) {e : ExportEvent}
    (he : e.call.replaces = false) :
    handedOut (calls ++ [e]) = handedOut calls ++ e.handed?.toList := by
  rw [handedOut, List.rtakeWhile_concat_pos _ _ _ (by simp [he]), List.filterMap_append, handedOut]
  cases h : e.handed? <;> simp [h]

/-! ### The requests that a thread keeps -/

namespace ExportM

variable {α β : Type} {p : ExportM α} {t : Thread}

/-- The requests that the thread keeps are not touched. -/
def SameRequests (t t' : Thread) : Prop := t'.requests = t.requests

instance : IsPreorder Thread SameRequests where
  refl _ := rfl
  trans _ _ _ h h' := h'.trans h

theorem keepsRequests_ofArgument (r : Except Failure α) : Keeps SameRequests (ofArgument r) :=
  fun _ => rfl

theorem keepsRequests_onBridge (p : BridgeM α) : Keeps SameRequests (onBridge p) := by
  intro t
  rw [exec_onBridge]
  cases t.bridge <;> rfl

theorem keepsRequests_writes (outs : List OutPointer) (a : α) :
    Keeps SameRequests (do outs.forM write; return a : ExportM α) :=
  (keeps_writes (fun _ _ => rfl) outs).bind fun _ => .pure a

theorem keepsRequests_guarded (outs : List OutPointer) (arguments : Except Failure β)
    (p : β → BridgeM α) : Keeps SameRequests (guarded outs arguments p) :=
  (keepsRequests_ofArgument _).bind fun _ => (keepsRequests_ofArgument _).bind fun x =>
    (keepsRequests_onBridge (p x)).bind (keepsRequests_writes outs)

theorem requests_deliver (t : Thread) : (deliver t).requests = t.requests := by
  unfold deliver
  cases t.bridge <;> rfl

/-- What a call leaves of the requests is what its body does. -/
theorem requests_run (p : ExportM α) (hidle : t.isRunning = false) :
    (run p t).2.requests = (exec p { t with isRunning := true, written := 0 }).2.requests := by
  obtain ⟨e, hrun⟩ := run_eq p hidle
  rw [hrun]
  exact requests_deliver _

theorem requests_run_of_keeps (hp : Keeps SameRequests p) (hidle : t.isRunning = false) :
    (run p t).2.requests = t.requests := (requests_run p hidle).trans (hp _)

end ExportM

namespace ExportCall

open ExportM

variable {c : ExportCall} {t : Thread} {outs : List OutPointer}

/-- Every call but a take, and but those that drop the bridge, leaves the requests that are kept. -/
theorem requests_perform (htakes : c.takes = false) (hreplaces : c.replaces = false)
    (hidle : t.isRunning = false) : (c.perform t).2.requests = t.requests := by
  have hrefused (hsetsUp : c.setsUp = true) : (c.perform t).2.requests = t.requests := by
    obtain rfl | ⟨config, -, hinstalls, -⟩ | ⟨f, -, -, hperform⟩ := setsUp_cases hsetsUp
    · cases hreplaces
    · rw [hinstalls] at hreplaces
      cases hreplaces
    · rw [hperform]
      exact requests_run_of_keeps (.throw f : Keeps SameRequests (throw f : ExportM Unit)) hidle
  cases c with
  | init var => exact hrefused rfl
  | initWithConfig document => exact hrefused rfl
  | shutdown => cases hreplaces
  | release h =>
    have hsame := requests_run_of_keeps (keepsRequests_onBridge (BridgeM.release h)) hidle
    exact hsame
  | setDispatcher on =>
    have hsame := requests_run_of_keeps (keepsRequests_onBridge (BridgeM.setDispatcher on)) hidle
    exact hsame
  | endCall id value rejected out =>
    refine requests_run_of_keeps ((keepsRequests_onBridge _).bind fun done => ?_) hidle
    cases out with
    | null => exact .pure done
    | valid => exact keepsRequests_writes [.valid] done
  | registerHost name arity f =>
    refine requests_run_of_keeps ((keepsRequests_ofArgument _).bind fun name => ?_) hidle
    cases f with
    | none => exact .throw _
    | some f => exact (keepsRequests_onBridge _).discard
  | lastErrorText outs =>
    exact requests_run_of_keeps ((keepsRequests_ofArgument _).bind fun _ =>
      Keeps.get.bind fun t => keepsRequests_writes outs _) hidle
  | takeRequest outs => cases htakes
  | _ => exact requests_run_of_keeps (keepsRequests_guarded _ _ _) hidle

/-- What the body of a call that sets a bridge up leaves of the requests. -/
theorem requests_install (config : BridgeConfig) (t : Thread) :
    (exec (Thread.install config) t).2.requests = [] := by
  rw [Thread.install, exec_bind, exec_get]
  simp only [exec_bind, exec_set]
  cases Bridge.create config (deliver t).tags <;> rfl

/-- A call that drops the bridge drops the requests that are kept. -/
theorem requests_perform_of_replaces (hreplaces : c.replaces = true) (hidle : t.isRunning = false)
    (hnone : t.bridge = none → t.requests = []) : (c.perform t).2.requests = [] := by
  obtain rfl | ⟨config, -, -, hperform⟩ | ⟨f, -, hkeeps, -⟩ :=
    setsUp_cases (setsUp_of_replaces hreplaces)
  · refine (requests_run _ hidle).trans ?_
    obtain ⟨hbridge, hsame⟩ | hdropped := ends_shutdown { t with isRunning := true, written := 0 }
    · exact (congrArg Thread.requests hsame).trans (hnone hbridge)
    · exact congrArg Thread.requests hdropped
  · rw [hperform]
    exact (requests_run _ hidle).trans (requests_install config _)
  · rw [hkeeps] at hreplaces
    cases hreplaces

/-! ### Takes -/

/-- The body of a take hands out the oldest request that waits, if there is a bridge. -/
theorem ends_takeRequest (houts : .null ∉ outs) (t : Thread) : Ends (do
    ofArgument (requireOuts outs)
    let fresh ← onBridge BridgeM.takeRequests
    let t ← get
    let next ← match t.requests ++ fresh with
      | [] => pure none
      | r :: rest => do
        set { t with requests := rest }
        pure (some r)
    outs.forM write
    return next : ExportM (Option AsyncRequest)) t fun r t' =>
      (t.bridge = none → r = .error .noBridge ∧ t' = t) ∧
        (t.bridge.isSome → r = .ok t.waiting.head? ∧ t'.requests = t.waiting.tail) := by
  rw [Ends, exec_bind, exec_ofArgument, requireOuts_eq, if_neg houts]
  simp only
  rw [exec_bind, exec_onBridge]
  cases hb : t.bridge with
  | none => exact ⟨fun _ => ⟨rfl, rfl⟩, by rintro ⟨⟩⟩
  | some b =>
    refine ⟨by rintro ⟨⟩, fun _ => ?_⟩
    have htake : exec BridgeM.takeRequests b = (.ok b.ledger.queue, b.after [.takeRequests]) := rfl
    have hwaiting : t.waiting = t.requests ++ b.ledger.queue := by rw [Thread.waiting, hb]; rfl
    simp only [Option.elim_some, htake, Except.mapError, exec_bind, exec_get]
    rw [hwaiting]
    -- the places for the results were checked first, so that writing them does not fail
    cases hall : t.requests ++ b.ledger.queue with
    | nil =>
      rw [pure_bind]
      simp only [exec_bind, exec_writes houts, exec_pure]
      exact ⟨rfl, (List.append_eq_nil_iff.1 hall).1⟩
    | cons r rest =>
      simp only [exec_bind, exec_set, exec_pure, exec_writes houts]
      exact ⟨rfl, rfl⟩

/-- **What a take comes to** where there is a bridge: the other requests wait on. -/
theorem perform_takeRequest (houts : .null ∉ outs) (hidle : t.isRunning = false)
    (hb : t.bridge.isSome) :
    ((takeRequest outs).perform t).1 = (.ok, some (.request t.waiting.head?)) ∧
      ((takeRequest outs).perform t).2.requests = t.waiting.tail := by
  obtain ⟨hbusy, -⟩ | ⟨-, r, t₁, m, h, hrun⟩ :=
    run_cases (ends_takeRequest houts { t with isRunning := true, written := 0 })
  · rw [hidle] at hbusy
    cases hbusy
  · obtain ⟨rfl, hrequests⟩ := h.2 hb
    have htake : Thread.takeRequest outs t = _ := hrun
    rw [perform, Export.map, htake]
    exact ⟨rfl, (requests_deliver t₁).trans hrequests⟩

/-- **A take that fails** hands nothing out. -/
theorem perform_takeRequest_of_refused (h : .null ∈ outs ∨ t.bridge = none)
    (hidle : t.isRunning = false) (hquiet : t.IsQuiet) : ∃ status words, status ≠ .ok ∧
      (takeRequest outs).perform t =
        ((status, none), { t with lastError := words, written := 0 }) := by
  by_cases hnull : .null ∈ outs
  · have hmalformed : (takeRequest outs).Malformed := .inl hnull
    obtain ⟨words, hwords⟩ := perform_of_malformed hmalformed t hidle hquiet
    exact ⟨.invalidArgument, words, by decide, hwords⟩
  · obtain ⟨hresult, hthread⟩ :=
      (ends_takeRequest hnull { t with isRunning := true, written := 0 }).1 (h.resolve_left hnull)
    obtain ⟨words, hrun⟩ := run_of_error hidle hquiet (Prod.ext hresult hthread)
    have htake : Thread.takeRequest outs t = _ := hrun
    refine ⟨.notInitialized, words, by decide, ?_⟩
    rw [perform, Export.map, htake]
    rfl

/-- Only takes hand requests out. -/
theorem handed?_perform (htakes : c.takes = false) (t : Thread) :
    (ExportEvent.mk c (c.perform t).1).handed? = none := by
  have hother {α : Type} (e : Export α) (f : α → ExportResult) (hf : ∀ a r, f a ≠ .request r) :
      (ExportEvent.mk c (Export.map f e t).1).handed? = none := by
    rw [Export.map]
    rcases e t with ⟨⟨status, _ | a⟩, t'⟩
    · cases status <;> rfl
    · rw [ExportEvent.handed?]
      split
      · rename_i r heq
        exact absurd (Option.some.inj (Prod.mk.inj heq).2) (hf a r)
      · rfl
  cases c with
  | takeRequest outs => cases htakes
  | _ => exact hother _ _ (by rintro _ _ ⟨⟩)

/-- A configuration is refused with a status of its own, wherever it is read from. -/
theorem status_ne_ok_of_configuration {f : Failure} (h : c.configuration = .error f) :
    f.status ≠ .ok := by
  cases c with
  | init var => exact mapError_status_ne_ok h
  | initWithConfig document =>
    cases htext : document.text with
    | error g =>
      rw [configuration, htext] at h
      cases h
      rw [checks_text document f htext]
      decide
    | ok text =>
      rw [configuration, htext] at h
      exact mapError_status_ne_ok h
  | _ =>
    cases h
    decide

/-- **A call that is to set a bridge up and is refused its configuration** leaves the bridge and the
requests as they were. -/
theorem perform_of_refused_configuration (hsetsUp : c.setsUp = true)
    (hreplaces : c.replaces = false)
    (hidle : t.isRunning = false) (hquiet : t.IsQuiet) : ∃ status words, status ≠ .ok ∧
      c.perform t = ((status, none), { t with lastError := words, written := 0 }) := by
  obtain rfl | ⟨config, -, hinstalls, -⟩ | ⟨f, hf, -, hperform⟩ := setsUp_cases hsetsUp
  · cases hreplaces
  · rw [hinstalls] at hreplaces
    cases hreplaces
  · obtain ⟨words, hrun⟩ := run_of_error (p := (throw f : ExportM Unit)) hidle hquiet rfl
    refine ⟨f.status, words, status_ne_ok_of_configuration hf, ?_⟩
    rw [hperform, Export.map, hrun]
    rfl

/-! ### The operations of a call -/

theorem mem_checkedOperations {β : Type} {r : Except Failure β} {ops : β → List Operation}
    {op : Operation} (h : op ∈ checkedOperations r ops) : ∃ x, op ∈ ops x := by
  cases r with
  | error f => cases h
  | ok x => exact ⟨x, h⟩

theorem operations_takeRequest (outs : List OutPointer) (b : Bridge) :
    operations b (.takeRequest outs) = if .null ∈ outs then [] else [.takeRequests] := by
  rw [operations, guardedOperations, requireOuts_eq]
  split_ifs <;> rfl

/-- Only takes take requests from the bridge. -/
theorem takeRequests_not_mem_operations (htakes : c.takes = false) (b : Bridge) :
    .takeRequests ∉ c.operations b := by
  intro h
  have hguarded {β : Type} {outs : List OutPointer} {r : Except Failure β}
      {ops : β → List Operation} (h : .takeRequests ∈ guardedOperations outs r ops) :
      ∃ x, .takeRequests ∈ ops x := by
    obtain ⟨-, h⟩ := mem_checkedOperations h
    exact mem_checkedOperations h
  cases c with
  | takeRequest outs => cases htakes
  | init var | initWithConfig document | shutdown => cases h
  | compile filename source isModule outs | lastErrorText outs => cases h
  | release h' | setDispatcher on => cases List.mem_singleton.1 h
  | endCall id value rejected out =>
    obtain h | h := List.mem_append.1 h
    · unfold conversion at h
      split_ifs at h
      · cases List.mem_singleton.1 h
      · cases h
    · unfold ending at h
      split at h
      · cases List.mem_singleton.1 h
      · cases h
  | registerHost name arity f =>
    obtain ⟨name, h⟩ := mem_checkedOperations h
    cases f with
    | none => cases h
    | some f => cases List.mem_singleton.1 h
  | _ =>
    obtain ⟨x, h⟩ := hguarded h
    cases List.mem_singleton.1 h

end ExportCall

/-! ### The queue of a bridge -/

namespace Bridge

variable {b : Bridge} {ops : List Operation}

/-- Without taking requests a host gets none. -/
theorem polled_history (h : .takeRequests ∉ ops) : (b.history ops).flatMap Event.polled = [] := by
  induction ops generalizing b with
  | nil => rfl
  | cons op ops ih =>
    rw [List.mem_cons, not_or] at h
    rw [history, List.flatMap_cons, ih h.2, List.append_nil]
    cases op with
    | takeRequests => exact absurd rfl h.1
    | _ => rfl

end Bridge

namespace Generation

variable {g : Generation} {ops : List Operation}

/-- The requests that were taken from the queue of the bridge. -/
def taken (g : Generation) : List AsyncRequest := g.events.flatMap Bridge.Event.polled

theorem queued_eq (g : Generation) : g.queued = g.taken ++ g.bridge.ledger.queue := rfl

theorem Lived.deliveredOnce (h : g.Lived) : Bridge.DeliveredOnce g.events g.bridge := by
  obtain ⟨c, run⟩ := h
  exact Bridge.requests_delivered_once run

/-- No call has the number 0. -/
theorem Lived.id_pos (h : g.Lived) {r : AsyncRequest} (hr : r ∈ g.queued) : 1 ≤ r.id := by
  have hid : r.id ∈ (Bridge.polled g.events g.bridge).map (·.id) := List.mem_map_of_mem hr
  have hnumber := h.deliveredOnce.once.mem_iff.1 (List.mem_append_left _ hid)
  exact (Ledger.mem_numbers.1 hnumber).1

theorem taken_after (h : .takeRequests ∉ ops) : (g.after ops).taken = g.taken := by
  rw [taken, after, List.flatMap_append, Bridge.polled_history h, List.append_nil, taken]

/-- A take empties the queue. -/
theorem taken_after_take (g : Generation) :
    (g.after [.takeRequests, .takeDispatched]).taken = g.taken ++ g.bridge.ledger.queue := by
  have hhistory : (g.bridge.history [.takeRequests, .takeDispatched]).flatMap Bridge.Event.polled =
      g.bridge.ledger.queue := List.append_nil _
  rw [taken, after, List.flatMap_append, hhistory, taken]

end Generation

/-! ### Runs -/

namespace Thread

open ExportCall

variable {calls : List ExportEvent} {l : Lineage} {t : Thread}

/-- The requests of the bridges of a thread have been handed out in their order, and the thread
keeps what it has taken and not handed out. -/
structure Follows (calls : List ExportEvent) (l : Lineage) (t : Thread) : Prop where
  now : ∀ g, l.now = some g → g.taken = handedOut calls ++ t.requests
  unset : l.now = none → handedOut calls = [] ∧ t.requests = []
  past : ∃ parts, List.Forall₂ (fun part g => part <+: g.queued) parts l.past ∧
    calls.filterMap ExportEvent.handed? = parts.flatten ++ handedOut calls

theorem filterMap_concat_of_none {e : ExportEvent} (he : e.handed? = none) :
    (calls ++ [e]).filterMap ExportEvent.handed? = calls.filterMap ExportEvent.handed? := by
  rw [List.filterMap_append]
  simp [he]

/-- **A call that drops the bridge** drops what waits, and nothing of it is handed out. -/
theorem Follows.replace (h : Follows calls l t) (hd : Describes l t) (hidle : t.isRunning = false)
    {c : ExportCall} (hc : c.replaces = true) :
    Follows (calls ++ [⟨c, (c.perform t).1⟩]) (c.turn t.tags l) (c.perform t).2 := by
  have htakes : c.takes = false := by
    cases c with
    | takeRequest outs => cases hc
    | _ => rfl
  have hhanded := handed?_perform htakes t
  have hempty := handedOut_concat_of_replaces calls (e := ⟨c, (c.perform t).1⟩) hc
  have hrequests : (c.perform t).2.requests = [] := by
    refine requests_perform_of_replaces hc hidle fun hnone => (h.unset ?_).2
    rw [hd.current, Option.map_eq_none_iff] at hnone
    exact hnone
  rw [turn, if_pos hc]
  refine ⟨fun g hg => ?_, fun _ => ⟨hempty, hrequests⟩, ?_⟩
  · obtain ⟨b, -, rfl⟩ := Option.map_eq_some_iff.1 hg
    rw [hempty, hrequests]
    exact Generation.taken_after (by simp)
  · obtain ⟨parts, hparts, hall⟩ := h.past
    rw [filterMap_concat_of_none hhanded, hempty, hall]
    cases hnow : l.now with
    | none =>
      refine ⟨parts, ?_, by rw [(h.unset hnow).1]⟩
      simpa using hparts
    | some g =>
      refine ⟨parts ++ [handedOut calls],
        List.rel_append hparts (List.Forall₂.cons ?_ .nil), by simp⟩
      -- what was handed out was taken from the queue of the bridge that is dropped
      have htaken : (g.after [.takeDispatched]).taken = g.taken := Generation.taken_after (by simp)
      rw [Generation.queued_eq, htaken, h.now g hnow, List.append_assoc]
      exact List.prefix_append _ _

/-- What a call that leaves the bridge there moves from one queue to the other, and hands out:
nothing comes from elsewhere, and nothing is lost. -/
theorem exists_moved (hd : Describes l t) (hidle : t.isRunning = false) (hquiet : t.IsQuiet)
    {c : ExportCall} (hc : c.replaces = false) : ∃ moved,
      (∀ g, l.now = some g →
        (g.after (c.operations g.bridge ++ [.takeDispatched])).taken = g.taken ++ moved) ∧
      (l.now = none → moved = []) ∧
      t.requests ++ moved =
        (ExportEvent.mk c (c.perform t).1).handed?.toList ++ (c.perform t).2.requests := by
  cases htakes : c.takes with
  | false =>
    refine ⟨[], fun g _ => ?_, fun _ => rfl, ?_⟩
    · rw [List.append_nil]
      refine Generation.taken_after fun h => ?_
      obtain h | h := List.mem_append.1 h
      · exact takeRequests_not_mem_operations htakes g.bridge h
      · cases List.mem_singleton.1 h
    · rw [handed?_perform htakes, requests_perform htakes hc hidle, List.append_nil]
      rfl
  | true =>
    obtain ⟨outs, rfl⟩ : ∃ outs, c = .takeRequest outs := by
      cases c with
      | takeRequest outs => exact ⟨outs, rfl⟩
      | _ => cases htakes
    by_cases hrefused : .null ∈ outs ∨ t.bridge = none
    · -- nothing is taken from the bridge, or there is none
      obtain ⟨status, words, hstatus, hperform⟩ :=
        perform_takeRequest_of_refused hrefused hidle hquiet
      refine ⟨[], fun g hg => ?_, fun _ => rfl, ?_⟩
      · have hnull : .null ∈ outs := by
          refine hrefused.resolve_right fun hnone => ?_
          rw [hd.current, hg] at hnone
          cases hnone
        have hops : operations g.bridge (.takeRequest outs) = [] := by
          rw [operations, ExportM.guardedOperations, ExportM.requireOuts_eq, if_pos hnull]
          rfl
        rw [hops, List.append_nil]
        exact Generation.taken_after (by simp)
      · rw [hperform, List.append_nil]
        cases status <;> rfl
    · -- all that waits in the bridge comes behind what the thread keeps, and the first goes out
      rw [not_or] at hrefused
      obtain ⟨houts, hbridge⟩ := hrefused
      obtain ⟨hanswer, hrequests⟩ :=
        perform_takeRequest houts hidle (Option.isSome_iff_ne_none.2 hbridge)
      refine ⟨((t.bridge.map (·.ledger.queue)).getD []), fun g hg => ?_, fun hnone => ?_, ?_⟩
      · rw [operations_takeRequest, if_neg houts, hd.current, hg]
        exact g.taken_after_take
      · rw [hd.current, hnone] at hbridge
        exact absurd rfl hbridge
      · rw [hanswer, hrequests]
        change t.waiting = t.waiting.head?.toList ++ t.waiting.tail
        cases t.waiting <;> rfl

/-- **A call that leaves the bridge there** hands out the first of what waits, or nothing. -/
theorem Follows.stay (h : Follows calls l t) (hd : Describes l t) (hidle : t.isRunning = false)
    (hquiet : t.IsQuiet) {c : ExportCall} (hc : c.replaces = false) :
    Follows (calls ++ [⟨c, (c.perform t).1⟩]) (c.turn t.tags l) (c.perform t).2 := by
  obtain ⟨moved, hmoved, hunset, hbalance⟩ := exists_moved hd hidle hquiet hc
  have hhanded := handedOut_concat calls (e := ⟨c, (c.perform t).1⟩) hc
  rw [turn, hc, if_neg Bool.false_ne_true]
  refine ⟨fun g hg => ?_, fun hnone => ?_, ?_⟩
  · -- what is handed out goes from the front of what is kept to the end of what was handed out
    obtain ⟨g₀, hg₀, rfl⟩ := Option.map_eq_some_iff.1 hg
    rw [hhanded, List.append_assoc, ← hbalance, ← List.append_assoc, ← h.now g₀ hg₀]
    exact hmoved g₀ hg₀
  · obtain ⟨hnothing, hrequests⟩ := h.unset (Option.map_eq_none_iff.1 hnone)
    rw [hunset (Option.map_eq_none_iff.1 hnone), hrequests] at hbalance
    obtain ⟨hnone', hrequests'⟩ := List.append_eq_nil_iff.1 hbalance.symm
    rw [hhanded, hnothing, hnone', hrequests']
    exact ⟨rfl, rfl⟩
  · obtain ⟨parts, hparts, hall⟩ := h.past
    refine ⟨parts, hparts, ?_⟩
    rw [List.filterMap_append, hall, hhanded, List.append_assoc]
    cases he : (ExportEvent.mk c (c.perform t).1).handed? <;> simp [he]

/-- **In every run** the two queues are one. -/
theorem Story.follows (story : Story calls l t) : Follows calls l t := by
  induction story with
  | new tags => exact ⟨by rintro _ ⟨⟩, fun _ => ⟨rfl, rfl⟩, [], .nil, rfl⟩
  | call story c ih =>
    have hsound := story.run.sound
    cases hc : c.replaces with
    | true => exact ih.replace story.describes hsound.idle hc
    | false => exact ih.stay story.describes hsound.idle hsound.quiet hc
  | aside story tags delivered ih => exact ⟨ih.now, ih.unset, ih.past⟩

/-! ### What a caller can rely on -/

/-- What waits in a thread was queued by its bridge. -/
theorem Follows.queued_eq (h : Follows calls l t) (hd : Describes l t) {g : Generation}
    (hg : l.now = some g) : g.queued = handedOut calls ++ t.waiting := by
  have hbridge : t.bridge = some g.bridge := by rw [hd.current, hg]; rfl
  rw [g.queued_eq, h.now g hg, waiting, hbridge, List.append_assoc]
  rfl

/-- All that was handed out, bridge by bridge. -/
theorem Follows.exists_parts (h : Follows calls l t) (hd : Describes l t) : ∃ parts,
    List.Forall₂ (fun part g => part <+: g.queued) parts l.bridges ∧
      calls.filterMap ExportEvent.handed? = parts.flatten := by
  obtain ⟨parts, hparts, hall⟩ := h.past
  cases hnow : l.now with
  | none =>
    refine ⟨parts, ?_, by rw [hall, (h.unset hnow).1, List.append_nil]⟩
    simpa [Lineage.bridges, hnow] using hparts
  | some g =>
    refine ⟨parts ++ [handedOut calls], ?_, by simp [hall]⟩
    rw [Lineage.bridges, hnow]
    refine List.rel_append hparts (List.Forall₂.cons ?_ .nil)
    rw [h.queued_eq hd hnow]
    exact List.prefix_append _ _

/-- The number 0 is written where nothing waits, and only there. -/
theorem Follows.number_eq_zero (h : Follows calls l t) (hd : Describes l t) :
    AsyncRequest.number t.waiting.head? = 0 ↔ t.waiting = [] := by
  constructor
  · intro hzero
    cases hwaiting : t.waiting with
    | nil => rfl
    | cons r rest =>
      rw [hwaiting] at hzero
      cases hnow : l.now with
      | none =>
        have hbridge : t.bridge = none := by rw [hd.current, hnow]; rfl
        rw [waiting, (h.unset hnow).2, hbridge] at hwaiting
        cases hwaiting
      | some g =>
        have hlived : g.Lived := hd.lived g (List.mem_append_right _ (Option.mem_toList.2 hnow))
        have hr : r ∈ g.queued := by
          rw [h.queued_eq hd hnow, hwaiting]
          exact List.mem_append_right _ List.mem_cons_self
        -- calls are numbered from 1 on
        have hpos := hlived.id_pos hr
        change r.id = 0 at hzero
        omega
  · intro hnil
    rw [hnil]
    rfl

/-- What a caller can rely on when it polls a thread that has had the bridges of a lineage. -/
structure PollsInOrder (calls : List ExportEvent) (l : Lineage) (t : Thread) : Prop where
  current : t.bridge = l.now.map (·.bridge)
  lived : ∀ g ∈ l.bridges, g.Lived
  /-- Each bridge queues the requests of calls in their order, each once. -/
  queues : ∀ g ∈ l.bridges, Bridge.DeliveredOnce g.events g.bridge
  /-- What was handed out since the bridge was set up, and then what waits, is all that its scripts
  have queued. -/
  handed : ∀ g, l.now = some g → g.queued = handedOut calls ++ t.waiting
  unset : l.now = none → handedOut calls = []
  /-- All that was ever handed out is a beginning of what the first bridge has queued, then one of
  what the second has, and so on. -/
  apart : ∃ parts, List.Forall₂ (fun part g => part <+: g.queued) parts l.bridges ∧
    calls.filterMap ExportEvent.handed? = parts.flatten
  /-- A take hands out the oldest request that waits, and the others wait on. -/
  take : ∀ outs, .null ∉ outs → t.bridge.isSome →
    ((ExportCall.takeRequest outs).perform t).1 = (.ok, some (.request t.waiting.head?)) ∧
      ((ExportCall.takeRequest outs).perform t).2.waiting = t.waiting.tail
  /-- The number 0 is written where nothing waits, and only there. -/
  zero : AsyncRequest.number t.waiting.head? = 0 ↔ t.waiting = []
  /-- A take without a place for a result, or without a bridge, leaves only its words. -/
  failed : ∀ outs, .null ∈ outs ∨ t.bridge = none → ∃ status words, status ≠ .ok ∧
    (ExportCall.takeRequest outs).perform t =
      ((status, none), { t with lastError := words, written := 0 })
  /-- So does a call that is to set a bridge up and is refused its configuration. -/
  refused : ∀ c : ExportCall, c.setsUp = true → c.replaces = false → ∃ status words, status ≠ .ok ∧
    c.perform t = ((status, none), { t with lastError := words, written := 0 })
  /-- A call that is made while another one runs does nothing. -/
  busy : ∀ c : ExportCall,
    c.perform { t with isRunning := true } = ((.busy, none), { t with isRunning := true })

theorem waiting_takeRequest {outs : List OutPointer} (houts : .null ∉ outs)
    (hidle : t.isRunning = false) (hb : t.bridge.isSome) :
    ((ExportCall.takeRequest outs).perform t).2.waiting = t.waiting.tail := by
  have hbridge := bridge_perform (c := .takeRequest outs) rfl hidle
  rw [waiting, (perform_takeRequest houts hidle hb).2, hbridge]
  obtain ⟨b, hb⟩ := Option.isSome_iff_exists.1 hb
  rw [hb, Option.map_some, operations_takeRequest, if_neg houts]
  exact List.append_nil _

/-- **Polling is a queue**, whatever is called in between and whichever bridges a thread has had. -/
theorem polling_is_a_queue (run : Run calls t) :
    (∃ l, Story calls l t) ∧ ∀ l, Story calls l t → PollsInOrder calls l t := by
  refine ⟨run.story, fun l story => ?_⟩
  have hidle := run.sound.idle
  have hd := story.describes
  have hfollows := story.follows
  exact {
    current := hd.current
    lived := hd.lived
    queues := fun g hg => (hd.lived g hg).deliveredOnce
    handed := fun g hg => hfollows.queued_eq hd hg
    unset := fun hnow => (hfollows.unset hnow).1
    apart := hfollows.exists_parts hd
    take := fun outs houts hb =>
      ⟨(perform_takeRequest houts hidle hb).1, waiting_takeRequest houts hidle hb⟩
    zero := hfollows.number_eq_zero hd
    failed := fun outs h => perform_takeRequest_of_refused h hidle run.sound.quiet
    refused := fun c hsetsUp hreplaces =>
      perform_of_refused_configuration hsetsUp hreplaces hidle run.sound.quiet
    busy := (exports_fail_cleanly run).busy }

/-- One request waits after a call was started on a new bridge. -/
theorem waiting_started :
    (after {} (defaultInit :: starting 1)).bridge.isSome ∧
      (after {} (defaultInit :: starting 1)).waiting.map (·.id) = [1] := by
  have hrun := run_twice
  simp only [Prod.mk.injEq, Option.map_eq_some_iff] at hrun
  obtain ⟨⟨b, hb, -, hqueue⟩, hrequests, -⟩ := hrun
  refine ⟨Option.isSome_iff_exists.2 ⟨b, hb⟩, ?_⟩
  rw [Thread.waiting, hb, List.map_append, hrequests]
  exact hqueue

/-- It holds of a thread on which a call was started, and of the take that hands its request out. -/
theorem polling_is_a_queue_started : ∃ calls l t, Story calls l t ∧
    calls.map (·.call) = defaultInit :: starting 1 ∧ PollsInOrder calls l t ∧
    ∃ r, r.id = 1 ∧ ((ExportCall.takeRequest [.valid]).perform t).1 =
      (.ok, some (.request (some r))) ∧
      ((ExportCall.takeRequest [.valid]).perform t).2.waiting = [] := by
  obtain ⟨calls, l, hcalls, -, story⟩ := (Story.new {}).after (defaultInit :: starting 1)
  have hpolls := (polling_is_a_queue story.run).2 l story
  obtain ⟨hbridge, hwaiting⟩ := waiting_started
  obtain ⟨hanswer, hrest⟩ := hpolls.take [.valid] (by decide) hbridge
  obtain ⟨r, rest, hr, hid, hnil⟩ := List.map_eq_cons_iff.1 hwaiting
  refine ⟨calls, l, _, story, hcalls, hpolls, r, hid, ?_, ?_⟩
  · rw [hanswer, hr]
    rfl
  · rw [hrest, hr]
    exact List.map_eq_nil_iff.1 hnil

end Thread

end ScriptBridge
