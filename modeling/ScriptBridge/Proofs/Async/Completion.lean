import ScriptBridge.Proofs.Async.Promise
import ScriptBridge.Proofs.Script.Failure

/-!
# Completing async calls

When a host ends a call, the promise of that call is settled by a verdict on what the host gave: a
value is looked at for a method `then`, and the message of a failure becomes an error.

* `BridgeM.exec_evaluate_verdict` : the verdict on a value is what is made of its `then`.
* `Sound.after` : whatever the host does, promises that were settled stay as they are, and calls
  that it does not end stay pending.
* `promises_settled_by_host` : **in every run each promise is pending until its own call is ended**,
  and then it is settled by what the host gave.
-/

namespace ScriptBridge

open Script

/-! ### What a promise is settled by -/

namespace Script

/-- Whether a value can be called in a world. -/
def World.isCallable (w : World) : Value → Bool
  | .object r => (w.objects.getD r default).isCallable
  | _ => false

/-- The property `then` of a value, which only objects have. -/
def Proc.thenOf : Value → Proc Value
  | .object r => getOf r (Key.ofString "then")
  | _ => pure .undefined

/-- What a promise is settled by when it is resolved with a value, once its `then` was read. -/
def Verdict.ofThen (v : Value) : Except Value Value → World → Verdict
  | .error e, _ => .reject e
  | .ok method, w => if w.isCallable method then .follow v method else .fulfill v

/-- The state in which a verdict leaves a promise, if it settles it at once. -/
def Verdict.state? : Verdict → Option PromiseState
  | .fulfill v => some (.fulfilled v)
  | .reject v => some (.rejected v)
  | .follow .. => none

theorem Proc.run_resolution {p : Ref} {v : Value} (hv : v ≠ .object p) (w : World) :
    Proc.resolution p v w = (Proc.thenOf v w).finish fun r w => .ok (Verdict.ofThen v r w) := by
  cases v with
  | object r =>
    have hne : (r == p) = false := by
      rw [beq_eq_false_iff_ne]
      rintro rfl
      exact hv rfl
    rw [Proc.resolution, hne, thenOf]
    simp only [Bool.false_eq_true, if_false]
    rw [run_bind, run_attempt]
    refine Outcome.bind_finish _ _ fun e w => ?_
    rcases e with e | method
    · rfl
    · cases method <;> rfl
  | _ => rfl

end Script

namespace BridgeM

/-- Whether the `then` of a value cannot be called, read on a bridge as it is. -/
def LacksThen (b : Bridge) (v : Value) : Prop :=
  ∃ method b', exec (outcome (Proc.thenOf v)) b = (.ok (.ok method), b') ∧
    b'.world.isCallable method = false

/-- Only objects have a `then`. -/
theorem lacksThen_of_not_object {b : Bridge} (hb : b.isHalted = false) {v : Value}
    (hv : ∀ r, v ≠ .object r) : LacksThen b v := by
  have hthen : Proc.thenOf v = pure .undefined := by
    cases v with
    | object r => exact absurd rfl (hv r)
    | _ => rfl
  refine ⟨.undefined, b, ?_, rfl⟩
  rw [hthen, outcome, exec_perform_ofExcept (r := .ok (.ok (.ok .undefined))) hb rfl]
  rfl

/-- The verdict on a value is what is made of its `then`. -/
theorem exec_evaluate_verdict {p : Ref} {v : Value} (hv : v ≠ .object p) (b : Bridge) :
    exec (evaluate (verdict p (.ok v))) b =
      match exec (outcome (Proc.thenOf v)) b with
      | (.ok r, b') => (.ok (Verdict.ofThen v r b'.world), b')
      | (.error e, b') => (.error e, b') := by
  have hresult (w : World) : (verdict p (.ok v)).run w =
      (Proc.thenOf v w).finish fun r w => .ok (.ok (Verdict.ofThen v r w)) := by
    change (Proc.resolution p v w).bind (fun a w => .done (Except.ok a) w) = _
    rw [Proc.run_resolution hv]
    exact Outcome.bind_finish _ _ fun _ _ => rfl
  rw [evaluate, exec_perform_of_finish (p := Proc.thenOf v)
    (d := fun r w => .ok (Verdict.ofThen v r w)) fun w => ?_]
  · rcases exec (outcome (Proc.thenOf v)) b with ⟨_ | _, _⟩ <;> rfl
  · rw [Proc.run_bind, Proc.run_attempt, hresult, Outcome.finish_finish]
    exact Outcome.bind_finish _ _ fun _ _ => rfl

/-- A value without a `then` fulfills the promise. -/
theorem LacksThen.verdict {b : Bridge} {p : Ref} {v : Value} (h : LacksThen b v)
    (hv : v ≠ .object p) : (exec (evaluate (verdict p (.ok v))) b).1 = .ok (.fulfill v) := by
  obtain ⟨method, b', hthen, hmethod⟩ := h
  simp only [exec_evaluate_verdict hv, hthen, Verdict.ofThen, hmethod]
  rfl

end BridgeM

namespace Bridge

variable {b b' : Bridge}

/-! ### One operation after the other -/

/-- What operations leave of promises that were settled, and of pending calls, when they have ended
some. -/
structure Leaves (ended : List Nat) (b b' : Bridge) : Prop where
  sound : b'.Sound
  settled : ∀ p s, b.world.promise? p = some s → s.isSettled = true → b'.world.promise? p = some s
  pending : ∀ c ∈ b.ledger.pending, c.1 ∈ ended ∨ c ∈ b'.ledger.pending

theorem Leaves.of_carries (hsound : b'.Sound) (h : Carries b b') : Leaves [] b b' :=
  ⟨hsound, h.world.settled, fun c hc => .inr (h.pending c hc)⟩

theorem Leaves.trans {ended ended' : List Nat} {b₁ b₂ b₃ : Bridge} (h : Leaves ended b₁ b₂)
    (h' : Leaves ended' b₂ b₃) : Leaves (ended ++ ended') b₁ b₃ where
  sound := h'.sound
  settled p s hs hsettled := h'.settled p s (h.settled p s hs hsettled) hsettled
  pending c hc := by
    obtain hc | hc := h.pending c hc
    · exact .inl (List.mem_append_left _ hc)
    · exact (h'.pending c hc).imp_left (List.mem_append_right _)

/-- A call that has ended leaves the other calls pending. -/
theorem SettledBy.leaves {id : Nat} {p : Ref} {l : Ledger Ref} {result : Except String Value}
    {v : Verdict} {b₂ b₃ : Bridge} (ht : b.ledger.take id = .ok (p, l))
    (h : SettledBy { b with ledger := l } p result v b₂ b₃) : Leaves [id] b b₃ := by
  obtain ⟨-, hl⟩ := mem_pending_of_take ht
  rw [h.settles]
  refine ⟨h.detached.conclude v, fun q s hs hsettled => ?_, fun c hc => ?_⟩
  · exact World.settled_conclude h.detached.held v
      (h.carries.world.settled q s hs hsettled) hsettled
  · by_cases hid : c.1 = id
    · exact .inl (List.mem_singleton.2 hid)
    · refine .inr (h.carries.pending c ?_)
      rw [hl, List.mem_filter]
      exact ⟨hc, by simpa using hid⟩

/-- Ending a call leaves all other calls pending, and the call itself if that fails. -/
theorem ends_completeCall_leaves (id : Nat) (o : CallOutcome) (hb : b.Sound)
    (hids : (b.afterOutcome o).ledger.pendingIds.Nodup) :
    Ends (BridgeM.completeCall id o) b fun r b' =>
      Leaves (Event.settled? ⟨.completeCall id o, r.map .ended⟩).toList b b' := by
  obtain ⟨hsound, hcarries⟩ := frame_advances.outcomeValue o b hb
  have hmade : Leaves [] b (b.afterOutcome o) := .of_carries hsound hcarries
  refine (ends_completeCall_promise id o rfl hsound hids).mono fun r b' h => ?_
  obtain ⟨hsound', hcarries', hr⟩ | ⟨result, p, l, v, b₂, b₃, -, ht, hsettled, rfl, hdrain⟩ := h
  · have hleaves := hmade.trans (.of_carries hsound' hcarries')
    have hnone : Event.settled? ⟨.completeCall id o, r.map .ended⟩ = none := by
      rcases r with _ | e
      · rfl
      · obtain rfl | rfl := Ledger.eq_of_take_eq_error (hr e rfl) <;> rfl
    rw [hnone]
    exact hleaves
  · have hended := hsettled.leaves ht
    obtain ⟨hsound', hcarries'⟩ := hdrain hended.sound
    have hsome :
        Event.settled? ⟨.completeCall id o, (Except.ok (BridgeM.endOf result)).map .ended⟩ =
        some id := by
      cases result <;> rfl
    rw [hsome]
    exact (hmade.trans hended).trans (.of_carries hsound' hcarries')

/-- **Every operation leaves the promises of pending calls alone**, unless it ends one. -/
theorem Sound.step {events : List Event} (h : Books events b) (hb : b.Sound) (op : Operation) :
    Leaves (Event.settled? ⟨op, (b.step op).1⟩).toList b (b.step op).2 := by
  by_cases hop : ∃ id o, op = .completeCall id o
  · obtain ⟨id, o, rfl⟩ := hop
    rw [step_completeCall]
    have hmade := Ledger.Balanced.issues h (b.starts_afterOutcome o)
    exact ends_completeCall_leaves id o hb hmade.nodup_pendingIds
  · have hno : ∀ id o, op ≠ .completeCall id o := fun id o heq => hop ⟨id, o, heq⟩
    have hnone : Event.settled? ⟨op, (b.step op).1⟩ = none := by
      cases op with
      | completeCall id o => exact absurd rfl (hno id o)
      | _ => rfl
    obtain ⟨hsound, hcarries⟩ := op.advances hno b hb
    rw [hnone]
    exact .of_carries hsound hcarries

/-- The same of many operations. -/
theorem Sound.after {events : List Event} (h : Books events b) (hb : b.Sound)
    (ops : List Operation) : Leaves (settledCalls (b.history ops)) b (b.after ops) := by
  induction ops generalizing events b with
  | nil => exact .of_carries hb (.refl b)
  | cons op ops ih =>
    have hstep := hb.step h op
    rw [history, settledCalls_cons]
    exact hstep.trans (ih (h.step op).1 hstep.sound)

/-! ### What settles the promise of a call -/

/-- The bridge when a call is taken out. -/
def without (b : Bridge) (id : Nat) : Bridge :=
  { b with ledger := { b.ledger with pending := b.ledger.pending.filter fun c => c.1 ≠ id } }

/-- The promise of a pending call. -/
def IsPromiseOf (b : Bridge) (id : Nat) (p : Ref) : Prop := (id, p) ∈ b.ledger.pending

theorem without_of_take {id : Nat} {p : Ref} {l : Ledger Ref} (ht : b.ledger.take id = .ok (p, l)) :
    { b with ledger := l } = b.without id := by
  unfold Ledger.take at ht
  split at ht
  · cases ht
    rfl
  · cases ht

/-- A verdict that settles a promise at once leaves it in its state. -/
theorem SettledBy.promise? {p : Ref} {result : Except String Value} {v : Verdict} {b₂ b₃ : Bridge}
    (h : SettledBy b p result v b₂ b₃) {s : PromiseState} (hs : v.state? = some s) :
    b₃.world.promise? p = some s := by
  rw [h.settles]
  cases v with
  | fulfill u =>
    cases hs
    exact (World.promise?_settle h.detached.held false u p).trans (if_pos rfl)
  | reject u =>
    cases hs
    exact (World.promise?_settle h.detached.held true u p).trans (if_pos rfl)
  | follow thenable method => cases hs

section ended

variable {events : List Event} {id : Nat} {o : CallOutcome}

/-- A call that the host has ended was settled by the verdict on what the host gave. -/
theorem Sound.settled_of_ended (hb : b.Sound) (h : Books events b) {e : CallEnd}
    (he : e = .resolved ∨ e = .rejected)
    (hanswer : (b.step (.completeCall id o)).1 = .ok (.ended e)) :
    ∃ result p v b₂ b₃, (exec (BridgeM.outcomeValue o) b).1 = .ok result ∧
      e = BridgeM.endOf result ∧ (b.afterOutcome o).IsPromiseOf id p ∧
      SettledBy ((b.afterOutcome o).without id) p result v b₂ b₃ ∧
      Leaves [] b₃ (b.step (.completeCall id o)).2 := by
  have hmade := Ledger.Balanced.issues h (b.starts_afterOutcome o)
  have hsound := (frame_advances.outcomeValue o b hb).1
  have hends := ends_completeCall_promise id o rfl hsound hmade.nodup_pendingIds
  rw [step_completeCall] at hanswer ⊢
  have hr : (exec (BridgeM.completeCall id o) b).1 = .ok e := by
    cases hr : (exec (BridgeM.completeCall id o) b).1 with
    | error e' =>
      rw [hr] at hanswer
      cases hanswer
    | ok e' =>
      rw [hr] at hanswer
      cases hanswer
      rfl
  obtain ⟨-, -, hnone⟩ | ⟨result, p, l, v, b₂, b₃, hresult, ht, hsettled, hend, hdrain⟩ := hends
  · obtain rfl | rfl := he <;> obtain h | h := Ledger.eq_of_take_eq_error (hnone _ hr) <;> cases h
  · have hleaves := hdrain (hsettled.leaves ht).sound
    rw [hr] at hend
    rw [without_of_take ht] at hsettled
    exact ⟨result, p, v, b₂, b₃, hresult, Except.ok.inj hend, (mem_pending_of_take ht).1, hsettled,
      .of_carries hleaves.1 hleaves.2⟩

end ended

/-- Nothing is evaluated where the engine was cut off. -/
theorem isHalted_of_evaluate {α : Type} {p : Crossing α} {a : α}
    (h : exec (BridgeM.evaluate p) b = (.ok a, b')) : b.isHalted = false := by
  rw [BridgeM.evaluate, BridgeM.exec_perform] at h
  cases hb : b.isHalted with
  | false => rfl
  | true =>
    rw [hb, if_pos rfl] at h
    cases h

/-! ### Throughout a run -/

/-- What holds of the promises of async calls throughout a run. -/
structure PromisesSettledByHost (b : Bridge) : Prop where
  /-- A script that starts a call gets a new promise, and that is the promise of the call. -/
  started : ∀ w payload, ∃ p, w.objects.size = p ∧
    (b.serve w (.startAsync payload)).1 = .value (.object p) ∧
    (b.serve w (.startAsync payload)).2.1.promise? p = some (.pending [] []) ∧
    (b.serve w (.startAsync payload)).2.2.IsPromiseOf b.ledger.next p
  /-- The promise of a pending call is pending. -/
  held : ∀ id p, b.IsPromiseOf id p → b.world.Holds p
  /-- Calls have promises of their own. -/
  distinct : ∀ id id' p p', b.IsPromiseOf id p → b.IsPromiseOf id' p' → (id = id' ↔ p = p')
  /-- Whatever the host does, a call that it does not end keeps its promise, which is pending. -/
  lasting : ∀ id p ops, b.IsPromiseOf id p →
    id ∈ settledCalls (b.history ops) ∨ (b.after ops).IsPromiseOf id p ∧ (b.after ops).world.Holds p
  /-- A promise that was settled stays as it is. -/
  settled : ∀ p s ops, b.world.promise? p = some s → s.isSettled = true →
    (b.after ops).world.promise? p = some s
  /-- A call that is rejected rejects its promise with the error that is made of the message then,
  and where the global `Error` makes errors, that is an error for a failed host call. -/
  rejected : ∀ id message,
    (b.step (.completeCall id (.reject message))).1 = .ok (.ended .rejected) →
    ∃ p e b₁, b.IsPromiseOf id p ∧
      exec (BridgeM.evaluate (Exchange.hostCallError message)) (b.without id) = (.ok e, b₁) ∧
      (∀ ctor proto, b.world.MakesErrors ctor proto → b₁.world.IsHostCallError e message) ∧
      (b.step (.completeCall id (.reject message))).2.world.promise? p = some (.rejected e)
  /-- A call that is resolved fulfills its promise with the value, unless that has a method `then`,
  or is the promise itself. -/
  resolved : ∀ id o, (b.step (.completeCall id o)).1 = .ok (.ended .resolved) →
    ∃ p v, (b.afterOutcome o).IsPromiseOf id p ∧
      (exec (BridgeM.outcomeValue o) b).1 = .ok (.ok v) ∧
      ((∀ r, v ≠ .object r) ∨
          v ≠ .object p ∧ BridgeM.LacksThen ((b.afterOutcome o).without id) v →
        (b.step (.completeCall id o)).2.world.promise? p = some (.fulfilled v))

theorem Sound.promisesSettledByHost {events : List Event} (hb : b.Sound) (h : Books events b) :
    PromisesSettledByHost b where
  started w payload := by
    refine ⟨w.objects.size, rfl, rfl, ?_, ?_⟩
    · rw [serve, World.promise?_eq_some_iff, World.kind?_push, if_pos rfl]
      rfl
    · rw [IsPromiseOf, serve, (b.ledger.issue_spec _ _).2.1]
      exact List.mem_append_right _ (List.mem_singleton_self _)
  held id p hp := hb.held _ hp
  distinct id id' p p' hp hp' := by
    constructor
    · rintro rfl
      exact congrArg Prod.snd (List.inj_on_of_nodup_map h.nodup_pendingIds hp hp' rfl)
    · rintro rfl
      exact congrArg Prod.fst (List.inj_on_of_nodup_map hb.distinct hp hp' rfl)
  lasting id p ops hp := by
    have hleaves := hb.after h ops
    exact (hleaves.pending _ hp).imp_right fun hp' => ⟨hp', hleaves.sound.held _ hp'⟩
  settled p s ops hs hsettled := (hb.after h ops).settled p s hs hsettled
  rejected id message hanswer := by
    obtain ⟨result, p, v, b₂, b₃, hresult, -, hp, hsettled, hleaves⟩ :=
      hb.settled_of_ended h (.inr rfl) hanswer
    obtain rfl : result = .error message := (Except.ok.inj hresult).symm
    -- the promise was settled by the error that was made for the message
    have hreached : exec (BridgeM.evaluate (Verdict.reject <$> Exchange.hostCallError message))
        (b.without id) = (.ok v, b₂) := hsettled.reached
    rw [BridgeM.exec_evaluate_map] at hreached
    rcases hmade : exec (BridgeM.evaluate (Exchange.hostCallError message)) (b.without id) with
      ⟨e' | e, b₁⟩
    · rw [hmade] at hreached
      cases hreached
    · rw [hmade] at hreached
      cases hreached
      refine ⟨p, e, b₁, hp, rfl, fun ctor proto hmakes => ?_, ?_⟩
      · obtain ⟨e', b', hmade', herror⟩ :=
          BridgeM.exec_hostCallError (isHalted_of_evaluate hmade) hmakes message
        rw [hmade] at hmade'
        cases hmade'
        exact herror
      · exact hleaves.settled p _ (hsettled.promise? rfl) rfl
  resolved id o hanswer := by
    obtain ⟨result, p, v, b₂, b₃, hresult, hend, hp, hsettled, hleaves⟩ :=
      hb.settled_of_ended h (.inl rfl) hanswer
    cases result with
    | error message => cases hend
    | ok u =>
      refine ⟨p, u, hp, hresult, fun hu => ?_⟩
      -- a value that lacks `then` fulfils the promise as it is
      have hlacks : u ≠ .object p ∧ BridgeM.LacksThen ((b.afterOutcome o).without id) u := by
        obtain hu | hu := hu
        · exact ⟨hu p, BridgeM.lacksThen_of_not_object (isHalted_of_evaluate hsettled.reached) hu⟩
        · exact hu
      have hverdict := hlacks.2.verdict hlacks.1
      rw [hsettled.reached] at hverdict
      cases hverdict
      exact hleaves.settled p _ (hsettled.promise? rfl) rfl

/-- **In every run the promise of a call is pending until the host ends that call**, and then it is
settled by what the host gave. -/
theorem promises_settled_by_host {c : BridgeConfig} {events : List Event} (run : Run c events b) :
    PromisesSettledByHost b := by
  suffices b.Sound ∧ Books events b from this.1.promisesSettledByHost this.2
  induction run with
  | create h => exact ⟨(sound_blank c).setUp h, (books_blank c).setUp h⟩
  | step run op ih => exact ⟨(ih.1.step ih.2 op).sound, (ih.2.step op).1⟩

/-- It holds of a new bridge, and after the host has called the function that starts async calls and
has rejected the first call. -/
theorem promises_settled_by_host_rejected : ∃ b, Run {} [] b ∧ PromisesSettledByHost b ∧
    ∃ events b', Run {} events b' ∧ events.map (·.operation) =
      [.hostNamespace, .callMethod (b.handles.insert .undefined).1 "callHostAsync" [],
        .completeCall 1 (.reject "boom")] ∧ PromisesSettledByHost b' := by
  obtain ⟨b, tags, h⟩ := exists_create
  have run : Run {} [] b := .create h
  obtain ⟨events, hops, run'⟩ := run.after
    [.hostNamespace, .callMethod (b.handles.insert .undefined).1 "callHostAsync" [],
      .completeCall 1 (.reject "boom")]
  exact ⟨b, run, promises_settled_by_host run, events, _, run', hops, promises_settled_by_host run'⟩

end Bridge

end ScriptBridge
