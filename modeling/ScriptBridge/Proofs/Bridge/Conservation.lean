import Mathlib.Logic.Function.Basic
import ScriptBridge.Proofs.Bridge.Run
import ScriptBridge.Proofs.Handle.Count

/-!
# Handles are conserved

What an operation of a bridge does to the live handles can be read off its outcome, whatever scripts
and jobs it runs and wherever it fails (`Bridge.Transfer`): a failure leaves them alone, a handle in
the answer is the only new one, a release takes away the one that it names, and everything else
leaves them alone.

* `Bridge.transfer_step` : **one operation** is such a transfer.
* `Bridge.Run.counts` : **in every run** the number of live handles is that of the handles that
  were given out, less that of the releases.
* `Bridge.handles_conserved` : both, for what a host sees of the handles.

A handle has an index of thirty-two bits, so the new handle is one of its own as long as fewer than
`2 ^ 32` are live.  The count needs no such bound.
-/

namespace ScriptBridge

open Script

namespace Bridge

variable {b b' : Bridge} {op : Operation}

/-- The live handles, and the value that each of them names: every operation that takes a handle
looks it up there. -/
def live (b : Bridge) (h : Handle) : Option Value := b.handles.get? h

/-! ### One operation -/

/-- Whether a handle is released. -/
def Operation.isRelease : Operation → Bool
  | release _ => true
  | _ => false

/-- Whether a handle is given out. -/
def Answer.isHandle : Answer → Bool
  | handle _ => true
  | _ => false

/-- What an operation may do to the handles, and with what outcome. -/
inductive Transfer (t : HandleTable Value) :
    Operation → Except BridgeError Answer → HandleTable Value → Prop
  /-- A failure leaves the handles alone. -/
  | failed (op : Operation) (e : BridgeError) : Transfer t op (.error e) t
  /-- A new handle is for one value. -/
  | given (op : Operation) (v : Value) (hop : op.isRelease = false) :
    Transfer t op (.ok (.handle (t.insert v).1)) (t.insert v).2
  /-- A release is of the handle that it names. -/
  | released (h : Handle) (t' : HandleTable Value) (ht : t.release? h = some t') :
    Transfer t (.release h) (.ok .done) t'
  /-- Every other success leaves the handles alone. -/
  | left (op : Operation) (a : Answer) (hop : op.isRelease = false) (ha : a.isHandle = false) :
    Transfer t op (.ok a) t

namespace Transfer

variable {t t' : HandleTable Value}

theorem of_error {e : BridgeError} (h : Transfer t op (.error e) t') : t' = t := by
  cases h
  rfl

theorem of_handle {h : Handle} (ht : Transfer t op (.ok (.handle h)) t') :
    ∃ v, h = (t.insert v).1 ∧ t' = (t.insert v).2 := by
  cases ht with
  | given _ v => exact ⟨v, rfl, rfl⟩
  | left _ _ _ ha => cases ha

theorem of_release {h : Handle} {a : Answer} (ht : Transfer t (.release h) (.ok a) t') :
    t.release? h = some t' := by
  cases ht with
  | given _ _ hop => cases hop
  | released _ _ ht => exact ht
  | left _ _ hop => cases hop

theorem of_left {a : Answer} (h : Transfer t op (.ok a) t') (hop : op.isRelease = false)
    (ha : a.isHandle = false) : t' = t := by
  cases h with
  | given => cases ha
  | released => cases hop
  | left => rfl

end Transfer

/-- The handles are as they were. -/
def SameHandles (b b' : Bridge) : Prop := b'.handles = b.handles

instance : IsPreorder Bridge SameHandles where
  refl _ := rfl
  trans _ _ _ h h' := h'.trans h

/-- Scripts do not come to the handles, and neither do jobs. -/
theorem inner_sameHandles : BridgeM.Inner SameHandles :=
  BridgeM.InnerEngine.inner {
    world := fun _ _ => rfl
    suspended := fun _ _ => rfl
    halt := fun _ _ _ => rfl
    functions := fun _ _ => rfl
    descriptors := fun _ _ => rfl
    output := fun _ _ => rfl
    stdout := fun _ _ => rfl
    failures := fun _ _ => rfl
    issue := fun _ _ _ => rfl
    table := fun _ _ => rfl }

/-- An operation whose program gives out a handle. -/
theorem transfer_of_gives {p : BridgeM Handle} (hp : BridgeM.Gives SameHandles p)
    (hop : op.isRelease = false) (b : Bridge) :
    Ends (Answer.handle <$> p) b fun r b' => Transfer b.handles op r b'.handles := by
  refine .map ((hp b).mono fun r b' hr => ?_)
  cases r with
  | error e =>
    have hsame : b'.handles = b.handles := hr
    rw [hsame]
    exact .failed op e
  | ok h =>
    obtain ⟨b₁, v, h₁, rfl, h₂⟩ := hr
    have hsame : b'.handles = (b₁.handles.insert v).2 := h₂
    have hbefore : b₁.handles = b.handles := h₁
    rw [hsame, hbefore]
    exact .given op v hop

/-- An operation whose program leaves the handles alone. -/
theorem transfer_of_keeps {α : Type} {p : BridgeM α} (hp : Keeps SameHandles p) {f : α → Answer}
    (hop : op.isRelease = false) (hf : ∀ a, (f a).isHandle = false) (b : Bridge) :
    Ends (f <$> p) b fun r b' => Transfer b.handles op r b'.handles := by
  refine .map ((hp.ends b).mono fun r b' hr => ?_)
  have hsame : b'.handles = b.handles := hr
  rw [hsame]
  cases r with
  | error e => exact .failed op e
  | ok a => exact .left op (f a) hop (hf a)

theorem transfer_release (h : Handle) (b : Bridge) :
    Ends (Operation.release h).program b fun r b' =>
      Transfer b.handles (.release h) r b'.handles := by
  refine .map (.get_bind ?_)
  cases ht : b.handles.release? h with
  | some t => exact .released h t ht
  | none => exact .failed _ _

/-- **One operation** does to the handles what its outcome tells. -/
theorem transfer_step (b : Bridge) (op : Operation) :
    Transfer b.handles op (b.step op).1 (b.step op).2.handles := by
  -- scripts and jobs leave the handles alone, so only what the operation itself does to them counts
  have F := inner_sameHandles
  change Ends op.program b fun r b' => Transfer b.handles op r b'.handles
  cases op with
  | createNamespace name => exact transfer_of_gives (F.createNamespace name) rfl b
  | globalObject => exact transfer_of_gives (.keep _) rfl b
  | hostNamespace => exact transfer_of_gives (.bind .get fun _ => .keep _) rfl b
  | evalSource filename source isModule =>
    exact transfer_of_gives (F.evalSource (fun _ _ => rfl) (fun _ _ => rfl) _ _ _) rfl b
  | eval source => exact transfer_of_gives (F.eval source) rfl b
  | evaluateUnit u => exact transfer_of_gives (F.evaluateUnit (fun _ _ => rfl) u) rfl b
  | evalBlob blob =>
    exact transfer_of_gives (F.evalBlob (fun _ _ => rfl) (fun _ _ => rfl) blob) rfl b
  | loadBlob blob =>
    have hload := F.loadBlob (fun _ _ => rfl) (fun _ _ => rfl) (fun _ _ => rfl) blob
    exact transfer_of_gives hload rfl b
  | loadSource filename source =>
    exact transfer_of_gives (F.loadSource (fun _ _ => rfl) (fun _ _ => rfl) _ _) rfl b
  | registerModule blob =>
    exact transfer_of_keeps (BridgeM.Core.registerModule (fun _ _ => rfl) blob) rfl (fun _ => rfl) b
  | loadedModules => exact transfer_of_keeps (Keeps.get.bind fun _ => .pure _) rfl (fun _ => rfl) b
  | callMethod target name args => exact transfer_of_gives (F.callMethod _ _ _) rfl b
  | getProperty target name => exact transfer_of_gives (F.getProperty _ _) rfl b
  | getString h => exact transfer_of_keeps (F.getString h) rfl (fun _ => rfl) b
  | newString text => exact transfer_of_gives (.keep _) rfl b
  | getNumber h => exact transfer_of_keeps (F.getNumber h) rfl (fun _ => rfl) b
  | newNumber x => exact transfer_of_gives (.keep _) rfl b
  | toJson h => exact transfer_of_keeps (F.toJson h) rfl (fun _ => rfl) b
  | fromJson j => exact transfer_of_gives (F.fromJson j) rfl b
  | valueKind h => exact transfer_of_keeps (F.valueKind h) rfl (fun _ => rfl) b
  | release h => exact transfer_release h b
  | liveHandles => exact transfer_of_keeps (Keeps.get.bind fun _ => .pure _) rfl (fun _ => rfl) b
  | promiseResult h => exact transfer_of_gives (F.promiseResult h) rfl b
  | promiseStatus h => exact transfer_of_keeps (F.promiseStatus h) rfl (fun _ => rfl) b
  | awaitPromise h => exact transfer_of_gives (F.awaitPromise h) rfl b
  | registerHost name arity f => exact transfer_of_keeps (F.registerHost _ _ f) rfl (fun _ => rfl) b
  | hostFunctions => exact transfer_of_keeps (Keeps.get.bind fun _ => .pure _) rfl (fun _ => rfl) b
  | setDispatcher on =>
    exact transfer_of_keeps (BridgeM.Core.updateLedger (fun _ _ => rfl) _) rfl (fun _ => rfl) b
  | takeRequests =>
    exact transfer_of_keeps (BridgeM.Core.updateLedger (fun _ _ => rfl) _) rfl (fun _ => rfl) b
  | takeDispatched =>
    exact transfer_of_keeps (BridgeM.Core.updateLedger (fun _ _ => rfl) _) rfl (fun _ => rfl) b
  | pendingCalls => exact transfer_of_keeps (Keeps.get.bind fun _ => .pure _) rfl (fun _ => rfl) b
  | completeCall id outcome =>
    have hend := F.completeCall (fun _ _ => rfl) (fun _ _ _ => rfl) id outcome
    exact transfer_of_keeps hend rfl (fun _ => rfl) b
  | drain => exact transfer_of_keeps F.drain rfl (fun _ => rfl) b
  | takeFailures => exact transfer_of_keeps F.takeFailures rfl (fun _ => rfl) b
  | takeOutput => exact transfer_of_keeps F.takeOutput rfl (fun _ => rfl) b
  | takeStdout => exact transfer_of_keeps F.takeStdout rfl (fun _ => rfl) b

/-! ### Counting in a run -/

/-- The operation has given out a handle. -/
def Event.gives (e : Event) : Bool :=
  match e.answer with
  | .ok a => a.isHandle
  | .error _ => false

/-- The operation has released a handle. -/
def Event.releases (e : Event) : Bool := e.operation.isRelease && e.answer.isOk

/-- The number of handles that were given out. -/
def gifts (events : List Event) : Nat := events.countP Event.gives

/-- The number of handles that were released. -/
def releases (events : List Event) : Nat := events.countP Event.releases

theorem gifts_concat (events : List Event) (e : Event) :
    gifts (events ++ [e]) = gifts events + e.gives.toNat := by
  cases he : e.gives <;> simp [gifts, List.countP_append, he]

theorem releases_concat (events : List Event) (e : Event) :
    releases (events ++ [e]) = releases events + e.releases.toNat := by
  cases he : e.releases <;> simp [releases, List.countP_append, he]

/-- The table counts right, and its handles are those that were given out and not released. -/
structure Counts (events : List Event) (t : HandleTable Value) : Prop where
  counted : t.Counted
  balance : t.size + releases events = gifts events

/-- One step keeps the balance. -/
theorem Transfer.counts {t t' : HandleTable Value} {events : List Event}
    {r : Except BridgeError Answer} (h : Transfer t op r t') (ht : Counts events t) :
    Counts (events ++ [⟨op, r⟩]) t' := by
  obtain ⟨hcounted, hbalance⟩ := ht
  cases h with
  | failed _ e =>
    have hr : (Event.mk op (.error e)).releases = false := Bool.and_false _
    refine ⟨hcounted, ?_⟩
    rw [gifts_concat, releases_concat, hr]
    exact hbalance
  | given _ v hop =>
    have hr : (Event.mk op (.ok (.handle (t.insert v).1))).releases = false := by
      rw [Event.releases, hop, Bool.false_and]
    refine ⟨hcounted.insert, ?_⟩
    rw [gifts_concat, releases_concat, hr, hcounted.size_insert]
    change t.size + 1 + releases events = gifts events + 1
    omega
  | released h t' ht =>
    have hsize : t'.size + 1 = t.size := (hcounted.size_release? ht).1
    refine ⟨hcounted.release? ht, ?_⟩
    rw [gifts_concat, releases_concat]
    change t'.size + (releases events + 1) = gifts events
    omega
  | left _ a hop ha =>
    have hr : (Event.mk op (.ok a)).releases = false := by rw [Event.releases, hop, Bool.false_and]
    have hg : (Event.mk op (.ok a)).gives = false := ha
    refine ⟨hcounted, ?_⟩
    rw [gifts_concat, releases_concat, hr, hg]
    exact hbalance

/-- **In every run** the handles that are live were given out and not released. -/
theorem Run.counts {c : BridgeConfig} {events : List Event} (run : Run c events b) :
    Counts events b.handles := by
  induction run with
  | create h =>
    obtain ⟨tag, ns, rfl⟩ := setUp_eq_ok h
    exact ⟨.empty tag, rfl⟩
  | step run op ih => exact (transfer_step _ op).counts ih

/-! ### What a host sees -/

/-- What a host can rely on for the handles of a bridge on which `events` have happened. -/
structure ConservesHandles (events : List Event) (b : Bridge) : Prop where
  /-- A failure leaves the live handles alone, and what they name. -/
  failed : ∀ op e, (b.step op).1 = .error e → (b.step op).2.live = b.live
  /-- A handle in an answer is the only new one, if there is an index for it. -/
  given : ∀ op h, (b.step op).1 = .ok (.handle h) → b.handles.size < 2 ^ 32 →
    b.live h = none ∧ ∃ v, (b.step op).2.live = Function.update b.live h (some v)
  /-- A release takes away the handle that it names, which was live. -/
  released : ∀ h a, (b.step (.release h)).1 = .ok a →
    b.live h ≠ none ∧ (b.step (.release h)).2.live = Function.update b.live h none
  /-- Every other success leaves the live handles alone, and what they name. -/
  left : ∀ op a, (b.step op).1 = .ok a → op.isRelease = false → a.isHandle = false →
    (b.step op).2.live = b.live
  /-- No more handles were released than given out, -/
  balance : releases events ≤ gifts events
  /-- the bridge counts those that are left, -/
  count : (b.step .liveHandles).1 = .ok (.count (gifts events - releases events))
  /-- and reports them when it is shut down. -/
  report : b.shutdown.liveHandles = gifts events - releases events

/-- What handles name after an insertion, if there is an index for it. -/
theorem live_insert (hc : b.handles.Counted) (hsize : b.handles.size < 2 ^ 32) {v : Value}
    (hb' : b'.handles = (b.handles.insert v).2) :
    b.live (b.handles.insert v).1 = none ∧
      b'.live = Function.update b.live (b.handles.insert v).1 (some v) := by
  have hroom := hc.hasRoom hsize
  refine ⟨hc.get?_insert_fresh hroom, ?_⟩
  funext g
  rw [live, hb', hc.get?_insert hroom, Function.update_apply]
  rfl

theorem Counts.live_insert {events : List Event} (h : Counts events b.handles)
    (hsize : b.handles.size < 2 ^ 32) {v : Value} (hb' : b'.handles = (b.handles.insert v).2) :
    b.live (b.handles.insert v).1 = none ∧
      b'.live = Function.update b.live (b.handles.insert v).1 (some v) :=
  Bridge.live_insert h.counted hsize hb'

/-- What handles name after a release. -/
theorem live_release? {h : Handle} (ht : b.handles.release? h = some b'.handles) :
    b.live h ≠ none ∧ b'.live = Function.update b.live h none := by
  obtain ⟨v, hv⟩ := HandleTable.contains_iff.1 (HandleTable.release?_eq_some ht).1
  refine ⟨fun hnone => ?_, ?_⟩
  · rw [live, hv] at hnone
    cases hnone
  · funext g
    rw [live, HandleTable.get?_release? ht, Function.update_apply]
    rfl

theorem live_of_eq (h : b'.handles = b.handles) : b'.live = b.live := by
  funext g
  rw [live, live, h]

/-- **Handles are conserved** by every operation in every run, whatever it comes to. -/
theorem handles_conserved {c : BridgeConfig} {events : List Event} (run : Run c events b) :
    ConservesHandles events b := by
  have hcounts : Counts events b.handles := run.counts
  have hsize : b.handles.size = gifts events - releases events := by
    have hbalance := hcounts.balance
    omega
  exact {
    failed := fun op e he => live_of_eq (he ▸ transfer_step b op).of_error
    given := fun op h hh hroom => by
      obtain ⟨v, rfl, hv⟩ := (hh ▸ transfer_step b op).of_handle
      obtain ⟨hfresh, hlive⟩ := hcounts.live_insert hroom hv
      exact ⟨hfresh, v, hlive⟩
    released := fun h a ha => live_release? (ha ▸ transfer_step b (.release h)).of_release
    left := fun op a ha hop hanswer => live_of_eq ((ha ▸ transfer_step b op).of_left hop hanswer)
    balance := hcounts.balance ▸ Nat.le_add_left _ _
    count := congrArg (fun n => Except.ok (Answer.count n)) hsize
    report := hsize }

/-- It holds of a new bridge, and after the first text was put under a handle, which is live
then. -/
theorem handles_conserved_newString : ∃ b, Run {} [] b ∧ ConservesHandles [] b ∧
    ∃ h, (b.step (.newString "a")).1 = .ok (.handle h) ∧ b.live h = none ∧
      (b.step (.newString "a")).2.live h = some (.ofString "a") ∧
      ConservesHandles [⟨.newString "a", .ok (.handle h)⟩] (b.step (.newString "a")).2 := by
  obtain ⟨b, tags, hb⟩ := exists_create
  have run : Run {} [] b := .create hb
  have hconserves : ConservesHandles [] b := handles_conserved run
  have hsize : b.handles.size = 0 := hconserves.report
  have hhandles : (b.step (.newString "a")).2.handles = (b.handles.insert (.ofString "a")).2 := rfl
  obtain ⟨hfresh, hlive⟩ := run.counts.live_insert (by omega) hhandles
  refine ⟨b, run, hconserves, (b.handles.insert (.ofString "a")).1, rfl, hfresh, ?_,
    handles_conserved (run.step (.newString "a"))⟩
  rw [hlive, Function.update_self]

end Bridge

end ScriptBridge
