import ScriptBridge.Proofs.Bridge.Display
import ScriptBridge.Repl.Session

/-!
# Handles in a session

An entry of a session is evaluated, the requests that it made are served, and its value is shown and
let go of.  Nothing of all this but the value gets a handle that outlives it.

* `ReplM.sparesHandles_serve` : serving requests leaves the handles alone.
* `Repl.keepsLive_entered`, `Repl.keepsLive_foldl_entered` : after **an entry**, and after any
  number of them, the live handles are those from before.
* `Bridge.renders_cleanly` : **showing values leaves nothing behind**, and neither do entries.
-/

namespace ScriptBridge

open Script Bridge

/-! ### Work that spares something -/

section spares

variable {σ τ α β : Type} {f : σ → τ}

/-- Every run of the work leaves a part of the state alone. -/
def Spares (f : σ → τ) (q : StateM σ α) : Prop := ∀ s, f (q.run s).2 = f s

namespace Spares

theorem pure (a : α) : Spares f (Pure.pure a) := fun _ => rfl

theorem modify {g : σ → σ} (h : ∀ s, f (g s) = f s) : Spares f (modify g : StateM σ PUnit) := h

theorem bind {q : StateM σ α} {k : α → StateM σ β} (hq : Spares f q) (hk : ∀ a, Spares f (k a)) :
    Spares f (q >>= k) := fun s => (hk _ _).trans (hq s)

theorem discard {q : StateM σ α} (hq : Spares f q) : Spares f (Functor.discard q) := hq

theorem forM {g : α → StateM σ PUnit} (hg : ∀ a, Spares f (g a)) (l : List α) :
    Spares f (l.forM g) := by
  induction l with
  | nil => exact pure _
  | cons a l ih => exact (hg a).bind fun _ => ih

theorem forIn {g : α → β → StateM σ (ForInStep β)} (hg : ∀ a x, Spares f (g a x)) (l : List α)
    (x : β) : Spares f (ForIn.forIn l x g) := by
  induction l generalizing x with
  | nil => exact pure _
  | cons a l ih =>
    rw [List.forIn_cons]
    refine (hg a x).bind fun step => ?_
    cases step with
    | done x => exact pure _
    | yield x => exact ih x

end Spares

end spares

variable {α : Type} {p : BridgeM α}

/-! ### Work at the bench -/

namespace WorkM

/-- The work leaves the handles of the bridge alone. -/
abbrev SparesHandles (q : WorkM α) : Prop := Spares (fun w : Workbench => w.bridge.handles) q

theorem sparesHandles_complain (text : String) : SparesHandles (complain text) :=
  .modify fun _ => rfl

theorem sparesHandles_complainAll (texts : List String) : SparesHandles (complainAll texts) :=
  .forM sparesHandles_complain texts

theorem sparesHandles_onBridge (hp : Keeps SameHandles p) : SparesHandles (onBridge p) :=
  fun w => hp w.bridge

theorem sparesHandles_reportFailures : SparesHandles reportFailures := by
  refine (sparesHandles_onBridge inner_sameHandles.takeFailures).bind fun r => ?_
  cases r with
  | error e => exact .pure _
  | ok failures =>
    refine Spares.bind (.forIn (fun f _ => ?_) failures _) fun _ => .pure _
    exact (sparesHandles_complain _).bind fun _ => .pure _

end WorkM

/-! ### Work in a session -/

namespace BridgeM

variable (policy : UnknownPolicy)

/-- Ending calls leaves the handles alone. -/
theorem sameHandles_serveBatch (batch : List AsyncRequest) :
    Keeps SameHandles (serveBatch policy batch) := by
  induction batch with
  | nil => exact .pure _
  | cons r rest ih =>
    rw [serveBatch]
    split
    · refine Keeps.bind (Keeps.discard ?_) fun _ => ih
      exact inner_sameHandles.completeCall (fun _ _ => rfl) (fun _ _ _ => rfl) _ _
    · exact ih.bind fun _ => .pure _

theorem sameHandles_serveFor (rounds : Nat) : Keeps SameHandles (serveFor policy rounds) := by
  induction rounds with
  | zero => exact Keeps.bind (.modify fun _ => rfl) fun _ => .throw (BridgeError.engine .exhausted)
  | succ rounds ih =>
    refine (Core.updateLedger (fun _ _ => rfl) _).bind fun batch => ?_
    split
    · exact .pure _
    · exact (sameHandles_serveBatch policy _).bind fun _ => ih.bind fun _ => .pure _

end BridgeM

namespace ReplM

/-- The work leaves the handles of the bridge alone. -/
abbrev SparesHandles (q : ReplM α) : Prop := Spares (fun s : Repl => s.bench.bridge.handles) q

theorem sparesHandles_atBench {q : WorkM α} (hq : WorkM.SparesHandles q) :
    SparesHandles (atBench q) :=
  fun s => hq s.bench

theorem sparesHandles_say (text : String) : SparesHandles (say text) :=
  sparesHandles_atBench (.modify fun _ => rfl)

theorem sparesHandles_complain (text : String) : SparesHandles (complain text) :=
  sparesHandles_atBench (WorkM.sparesHandles_complain text)

theorem sparesHandles_complainAll (texts : List String) :
    SparesHandles (atBench (WorkM.complainAll texts)) :=
  sparesHandles_atBench (WorkM.sparesHandles_complainAll texts)

theorem sparesHandles_onBridge (hp : Keeps SameHandles p) : SparesHandles (onBridge p) :=
  sparesHandles_atBench (WorkM.sparesHandles_onBridge hp)

theorem sparesHandles_serve : SparesHandles serve := by
  have hserve := BridgeM.sameHandles_serveFor .hold BridgeM.jobLimit
  have hreport : SparesHandles (discard (atBench WorkM.reportFailures)) :=
    (sparesHandles_atBench WorkM.sparesHandles_reportFailures).discard
  refine Spares.bind (sparesHandles_onBridge hserve) fun r => ?_
  cases r with
  | error e => exact (sparesHandles_complain _).bind fun _ => hreport
  | ok held =>
    refine Spares.bind (.forIn (fun r _ => ?_) held _) fun _ => hreport
    exact (sparesHandles_say _).bind fun _ => Spares.bind (.modify fun _ => rfl) fun _ => .pure _

/-! ### Results -/

theorem run_onBridge_bind {α β : Type} (q : BridgeM α) (next : Except BridgeError α → ReplM β)
    (s : Repl) : (onBridge q >>= next).run s =
      (next (exec q s.bench.bridge).1).run ((onBridge q).run s).2 := rfl

/-- A result that is missing is reported. -/
theorem sparesHandles_showResult_error (e : CommandError) : SparesHandles (showResult (.error e)) :=
  sparesHandles_complainAll _

/-- A result is shown, and let go of after that. -/
theorem handles_showResult_ok (k : Handle) (s : Repl) : ∃ b,
    b.handles = (exec (BridgeM.formatValue k) s.bench.bridge).2.handles ∧
      ((showResult (.ok k)).run s).2.bench.bridge.handles =
        (exec (BridgeM.release k) b).2.handles := by
  have hrelease {q : ReplM Unit} (hq : SparesHandles q) (s₁ : Repl) : ∃ b,
      b.handles = s₁.bench.bridge.handles ∧
        ((do q; discard (onBridge (BridgeM.release k)) : ReplM Unit).run
          s₁).2.bench.bridge.handles = (exec (BridgeM.release k) b).2.handles :=
    ⟨(q.run s₁).2.bench.bridge, hq s₁, rfl⟩
  let s₁ := ((onBridge (BridgeM.formatValue k)).run s).2
  rw [showResult, run_onBridge_bind]
  cases (exec (BridgeM.formatValue k) s.bench.bridge).1 with
  | ok text => exact hrelease (sparesHandles_say text) s₁
  | error e => exact hrelease (sparesHandles_complainAll _) s₁

end ReplM

/-! ### Entries -/

namespace Repl

/-- What an entry comes to, and the session as it is when that is shown. -/
def evaluated (s : Repl) (text : String) : Except BridgeError Handle × Repl :=
  (do
    let result ← ReplM.onBridge (BridgeM.evalSource ReplM.entryName text false)
    ReplM.serve
    return result : ReplM (Except BridgeError Handle)).run s

theorem run_evaluate (s : Repl) (text : String) : (ReplM.evaluate text).run s =
    (ReplM.showResult ((s.evaluated text).1.mapError .bridge)).run (s.evaluated text).2 := rfl

/-- An entry has a new handle for its value, or none. -/
theorem transfer_evaluated (s : Repl) (text : String) :
    (∃ e, (s.evaluated text).1 = .error e ∧
      (s.evaluated text).2.bench.bridge.handles = s.bench.bridge.handles) ∨
    ∃ v, (s.evaluated text).1 = .ok (s.bench.bridge.handles.insert v).1 ∧
      (s.evaluated text).2.bench.bridge.handles = (s.bench.bridge.handles.insert v).2 := by
  let eval : BridgeM Handle := BridgeM.evalSource ReplM.entryName text false
  have hresult : (s.evaluated text).1 = (exec eval s.bench.bridge).1 := rfl
  -- requests are served behind the evaluation, without a handle for anything
  have hserved : (s.evaluated text).2.bench.bridge.handles = (exec eval s.bench.bridge).2.handles :=
    ReplM.sparesHandles_serve ((ReplM.onBridge eval).run s).2
  have htransfer := transfer_step s.bench.bridge (.evalSource ReplM.entryName text false)
  rw [step, Operation.program, exec_map] at htransfer
  rw [hresult, hserved]
  rcases hexec : exec eval s.bench.bridge with ⟨e | k, b⟩
  · rw [hexec] at htransfer
    exact .inl ⟨e, rfl, htransfer.of_error⟩
  · rw [hexec] at htransfer
    obtain ⟨v, rfl, hv⟩ := htransfer.of_handle
    exact .inr ⟨v, rfl, hv⟩

/-- The session after an entry. -/
def entered (s : Repl) (text : String) : Repl := ((ReplM.evaluate text).run s).2

/-- The entry comes to its end: there is an index for the handle of its value, and showing the value
returns. -/
def Finishes (s : Repl) (text : String) : Prop :=
  s.bench.bridge.HasRoomFor 1 ∧ ∀ k, (s.evaluated text).1 = .ok k →
    ∃ r b, (s.evaluated text).2.bench.bridge.Shows k r b

/-- **An entry leaves no handle behind.** -/
theorem keepsLive_entered {s : Repl} {text : String} (hc : s.bench.bridge.handles.Counted)
    (h : s.Finishes text) : KeepsLive s.bench.bridge (s.entered text).bench.bridge := by
  obtain ⟨hroom, hshown⟩ := h
  rw [entered, run_evaluate]
  obtain ⟨e, he, hsame⟩ | ⟨v, hk, hheld⟩ := s.transfer_evaluated text
  · -- the entry has no value: its error is reported
    have hend := ReplM.sparesHandles_showResult_error (.bridge e) (s.evaluated text).2
    rw [he]
    exact .of_handles_eq hc (hend.trans hsame)
  · -- the handle of its value is live until that is shown, and is the only one that was made
    obtain ⟨r, b, hs⟩ := hshown _ hk
    have hcounted : (s.evaluated text).2.bench.bridge.handles.Counted := hheld ▸ hc.insert
    have hkeeps : KeepsLive (s.bench.bridge.holding v) b :=
      (KeepsLive.of_handles_eq hc.insert hheld).trans (hs.keepsLive hcounted)
    obtain ⟨b₁, hb₁, hend⟩ := ReplM.handles_showResult_ok
      (s.bench.bridge.handles.insert v).1 (s.evaluated text).2
    rw [hs.exec_formatValue] at hb₁
    have hkeeps₁ := hkeeps.trans (.of_handles_eq hkeeps.counted hb₁)
    obtain ⟨t, ht, hclosed⟩ := hkeeps₁.release hc (hroom 0 Nat.one_pos)
    rw [BridgeM.exec_release ht] at hend
    rw [hk]
    exact hclosed.trans (.of_handles_eq hclosed.counted hend)

/-- Entries come to their ends, one after the other. -/
def FinishesAll : Repl → List String → Prop
  | _, [] => True
  | s, text :: rest => s.Finishes text ∧ (s.entered text).FinishesAll rest

/-- **Entries leave no handles behind**, however many there are. -/
theorem keepsLive_foldl_entered {s : Repl} {texts : List String}
    (hc : s.bench.bridge.handles.Counted) (h : s.FinishesAll texts) :
    KeepsLive s.bench.bridge (texts.foldl entered s).bench.bridge := by
  induction texts generalizing s with
  | nil => exact .of_handles_eq hc rfl
  | cons text rest ih =>
    have hentered := keepsLive_entered hc h.1
    exact hentered.trans (ih hentered.counted h.2)

end Repl

namespace Bridge

variable {c : BridgeConfig} {events : List Event} {b : Bridge}

/-- Showing values on a bridge leaves nothing behind. -/
structure RendersCleanly (b : Bridge) : Prop where
  /-- Whatever showing a value comes to, -/
  formatted : ∀ h r b', b.Shows h r b' → exec (BridgeM.formatValue h) b = (r, b')
  /-- the same handles are live then, for the same values, -/
  live : ∀ h r b', b.Shows h r b' → b'.live = b.live
  /-- and as many are reported. -/
  size : ∀ h r b', b.Shows h r b' → b'.handles.size = b.handles.size
  /-- So it is after each of the entries of a session over the bridge, -/
  entries : ∀ (s : Repl) texts, s.bench.bridge = b → s.FinishesAll texts →
    (texts.foldl Repl.entered s).bench.bridge.live = b.live
  /-- and as many are reported. -/
  count : ∀ (s : Repl) texts, s.bench.bridge = b → s.FinishesAll texts →
    (texts.foldl Repl.entered s).bench.bridge.handles.size = b.handles.size

/-- **Showing values leaves nothing behind**, and neither do the entries of a session. -/
theorem renders_cleanly (run : Run c events b) : b.RendersCleanly := by
  have hc : b.handles.Counted := run.counts.counted
  have hentries (s : Repl) (texts : List String) (hs : s.bench.bridge = b)
      (h : s.FinishesAll texts) : KeepsLive b (texts.foldl Repl.entered s).bench.bridge := by
    subst hs
    exact Repl.keepsLive_foldl_entered hc h
  exact {
    formatted := fun h r b' hs => hs.exec_formatValue
    live := fun h r b' hs => (hs.keepsLive hc).live
    size := fun h r b' hs => (hs.keepsLive hc).size
    entries := fun s texts hs h => (hentries s texts hs h).live
    count := fun s texts hs h => (hentries s texts hs h).size }

set_option maxRecDepth 100000 in
/-- What an entry with the value of an async function comes to: a live handle for a promise, and
what is in the promise cannot be opened. -/
theorem evaluated_promise : (create {} {}).toOption.map (fun r =>
    let (result, s) := (Repl.start r.1).evaluated "(async()=>1)()"
    let b := s.bench.bridge
    let v := result.toOption.bind b.live
    (b.isHalted, b.handles.size, (v.bind b.world.settledWith?).isSome,
      (v.bind (b.world.opened? 2)).isNone)) = some (false, 1, true, true) := by
  decide +kernel

/-- It holds of a new bridge, and of a session with such an entry over it. -/
theorem renders_cleanly_promise : ∃ b, Run {} [] b ∧ b.RendersCleanly ∧
    (∃ k v u, ((Repl.start b).evaluated "(async()=>1)()").1 = .ok k ∧
      ((Repl.start b).evaluated "(async()=>1)()").2.bench.bridge.live k = some v ∧
      ((Repl.start b).evaluated "(async()=>1)()").2.bench.bridge.world.settledWith? v = some u) ∧
    (Repl.start b).FinishesAll ["(async()=>1)()"] ∧
    ((Repl.start b).entered "(async()=>1)()").bench.bridge.live = b.live := by
  have hreport := evaluated_promise
  obtain ⟨b, tags, hcreate⟩ := exists_create
  have run : Run {} [] b := .create hcreate
  have hrenders : b.RendersCleanly := renders_cleanly run
  have hnone : b.handles.size = 0 := run.counts.balance
  rw [hcreate] at hreport
  dsimp only [Except.toOption, Option.map] at hreport
  obtain ⟨e, he, -⟩ | ⟨x, hk, hheld⟩ := (Repl.start b).transfer_evaluated "(async()=>1)()"
  · rw [he] at hreport
    simp at hreport
  · have hcounted := hheld ▸ run.counts.counted.insert (v := x)
    rw [hk] at hreport
    simp only [Option.some.injEq, Prod.mk.injEq, Option.bind_some, Option.isSome_iff_exists,
      Option.isNone_iff_eq_none, Option.bind_eq_some_iff] at hreport
    obtain ⟨hb, hsize, ⟨u, v, hv, hu⟩, hend⟩ := hreport
    rw [hv, Option.bind_some] at hend
    have hroom : ((Repl.start b).evaluated "(async()=>1)()").2.bench.bridge.HasRoomFor 1 :=
      fun m hm => by omega
    have hshown := (BridgeM.isSome_renderWithin_iff hb hcounted hv hroom).2 hend
    obtain ⟨⟨r, b'⟩, hr⟩ := Option.isSome_iff_exists.1 hshown
    have hfinishes : (Repl.start b).FinishesAll ["(async()=>1)()"] := by
      refine ⟨⟨fun m hm => ?_, fun k hk' => ?_⟩, trivial⟩
      · change b.handles.size + m < _
        omega
      · cases hk.symm.trans hk'
        exact ⟨r, b', 1, hroom, hr⟩
    exact ⟨b, run, hrenders, ⟨_, v, u, hk, hv, hu⟩, hfinishes,
      hrenders.entries (Repl.start b) ["(async()=>1)()"] rfl hfinishes⟩

end Bridge

end ScriptBridge
