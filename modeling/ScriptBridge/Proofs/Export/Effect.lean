import ScriptBridge.Proofs.Bridge.Conservation
import ScriptBridge.Proofs.Export.Call

/-!
# What exported calls do

Most exports check their arguments, run one operation on the bridge of the thread and write what it
yields.  So all that can go wrong goes wrong before the operation, or in it.

* `ExportM.exec_guarded` : what such an export comes to.
* `ExportCall.performs` : **what a call does to the handles** can be read off its status and its
  results, and a call that fails has written nothing.
-/

namespace ScriptBridge

open Script

/-- The handles of the bridge of a thread. -/
def Thread.handles? (t : Thread) : Option (HandleTable Value) := t.bridge.map (·.handles)

theorem Failure.ofError_status_ne_ok (e : BridgeError) : (Failure.ofError e).status ≠ .ok := by
  change Status.ofKind e.kind ≠ .ok
  cases e.kind <;> decide

namespace ExportM

variable {α β : Type} {outs : List OutPointer} {arguments : Except Failure β}

/-! ### The parts of a call -/

theorem exec_ofArgument (r : Except Failure α) (t : Thread) : exec (ofArgument r) t = (r, t) := rfl

theorem exec_onBridge (p : BridgeM α) (t : Thread) : exec (onBridge p) t =
    t.bridge.elim (.error .noBridge, t) fun b =>
      ((exec p b).1.mapError Failure.ofError, { t with bridge := some (exec p b).2 }) := by
  rw [onBridge, exec_bind, exec_get]
  simp only
  cases t.bridge with
  | none => rfl
  | some b =>
    -- the bridge is taken out of the thread while the operation runs, and put back whatever comes
    have hrun : p.run.run b = exec p b := rfl
    simp only [exec_bind, exec_set, hrun, Option.elim_some]
    rcases exec p b with ⟨e | a, b'⟩ <;> rfl

/-- Results that have places are written. -/
theorem exec_writes (h : .null ∉ outs) (t : Thread) :
    exec (outs.forM write) t = (.ok ⟨⟩, { t with written := t.written + outs.length }) := by
  induction outs generalizing t with
  | nil => rfl
  | cons out outs ih =>
    rw [List.mem_cons, not_or] at h
    cases out with
    | null => exact absurd rfl h.1
    | valid =>
      have hwrite : exec (write .valid) t = (.ok ⟨⟩, { t with written := t.written + 1 }) := rfl
      change exec (write .valid >>= fun _ => outs.forM write) t = _
      rw [exec_bind, hwrite]
      simp only [ih h.2, List.length_cons]
      rw [Nat.add_assoc, Nat.add_comm 1]

theorem requireOuts_eq (outs : List OutPointer) : requireOuts outs =
    if .null ∈ outs then .error (.argument "null output pointer") else .ok () := by
  simp only [requireOuts, List.contains_iff_mem]

/-- **What a guarded operation comes to**: nothing is written unless all goes well, and then
everything is. -/
theorem exec_guarded (outs : List OutPointer) (arguments : Except Failure β) (p : β → BridgeM α)
    (t : Thread) : exec (guarded outs arguments p) t =
      if .null ∈ outs then (.error (.argument "null output pointer"), t)
      else match arguments with
        | .error f => (.error f, t)
        | .ok x =>
          match exec (onBridge (p x)) t with
          | (.error f, t') => (.error f, t')
          | (.ok a, t') => (.ok a, { t' with written := t'.written + outs.length }) := by
  rw [guarded, exec_bind, exec_ofArgument, requireOuts_eq]
  split_ifs with hnull
  · rfl
  · simp only [exec_bind, exec_ofArgument]
    cases arguments with
    | error f => rfl
    | ok x =>
      simp only
      rcases exec (onBridge (p x)) t with ⟨f | a, t'⟩
      · rfl
      · simp only [exec_writes hnull]
        rfl

/-! ### Following the body of a call -/

theorem ends_onBridge {p : BridgeM α} {t : Thread} {Q : Except Failure α → Thread → Prop}
    (hnone : Q (.error .noBridge) t)
    (hsome : ∀ b, t.bridge = some b → Ends p b fun r b' =>
      Q (r.mapError Failure.ofError) { t with bridge := some b' }) : Ends (onBridge p) t Q := by
  unfold Ends
  rw [exec_onBridge]
  cases hb : t.bridge with
  | none => exact hnone
  | some b => exact hsome b hb

/-- The check fails only for arguments that cannot be used. -/
def Checks (r : Except Failure α) : Prop := ∀ f, r = .error f → f.status = .invalidArgument

theorem ends_guarded {p : β → BridgeM α} {t : Thread} {Q : Except Failure α → Thread → Prop}
    (hchecks : Checks arguments) (hrefused : ∀ f, f.status = .invalidArgument → Q (.error f) t)
    (hrun : ∀ x, Ends (onBridge (p x)) t fun r t' =>
      match r with
      | .error f => Q (.error f) t'
      | .ok a => Q (.ok a) { t' with written := t'.written + outs.length }) :
    Ends (guarded outs arguments p) t Q := by
  unfold Ends at hrun ⊢
  rw [exec_guarded]
  split_ifs with hnull
  · exact hrefused _ rfl
  · cases harguments : arguments with
    | error f => exact hrefused f (hchecks f harguments)
    | ok x =>
      have h := hrun x
      simp only
      rcases hr : exec (onBridge (p x)) t with ⟨f | a, t'⟩
      · rw [hr] at h
        exact h
      · rw [hr] at h
        exact h

/-- It leaves the handles alone, and has written nothing if it fails. -/
def Leaves (p : ExportM α) : Prop := ∀ t, Ends p t fun r t' =>
  t'.handles? = t.handles? ∧ ∀ f, r = .error f → f.status ≠ .ok ∧ t'.written = t.written

/-- It gives out a handle for one value, and writes it; if it fails it leaves the handles alone, and
has written nothing. -/
def Gives (p : ExportM Handle) : Prop := ∀ t, Ends p t fun r t' =>
  match r with
  | .error f => f.status ≠ .ok ∧ t'.handles? = t.handles? ∧ t'.written = t.written
  | .ok h => t'.written = t.written + 1 ∧ ∃ hs v, t.handles? = some hs ∧ h = (hs.insert v).1 ∧
      t'.handles? = some (hs.insert v).2

theorem handles?_of_bridge {t : Thread} {b : Bridge} (h : t.bridge = some b) :
    t.handles? = some b.handles := by rw [Thread.handles?, h, Option.map_some]

theorem leaves_onBridge {p : BridgeM α} (hp : Keeps Bridge.SameHandles p) :
    Leaves (onBridge p) := by
  intro t
  refine ends_onBridge ⟨rfl, ?_⟩ fun b hb => (hp.ends b).mono fun r b' hsame => ?_
  · rintro _ ⟨⟩
    exact ⟨by decide, rfl⟩
  · have hsame : b'.handles = b.handles := hsame
    refine ⟨?_, ?_⟩
    · rw [handles?_of_bridge hb, ← hsame]
      rfl
    · rintro f hf
      cases r with
      | ok a => cases hf
      | error e =>
        cases hf
        exact ⟨Failure.ofError_status_ne_ok e, rfl⟩

theorem leaves_guarded {p : β → BridgeM α} (outs : List OutPointer) (hchecks : Checks arguments)
    (hp : ∀ x, Keeps Bridge.SameHandles (p x)) : Leaves (guarded outs arguments p) := by
  intro t
  refine ends_guarded hchecks (fun f hf => ⟨rfl, ?_⟩) fun x => ?_
  · rintro _ ⟨⟩
    exact ⟨by rw [hf]; decide, rfl⟩
  · refine (leaves_onBridge (hp x) t).mono fun r t' h => ?_
    cases r with
    | error f => exact h
    | ok a => exact ⟨h.1, by rintro f ⟨⟩⟩

theorem gives_guarded {p : β → BridgeM Handle} (out : OutPointer) (hchecks : Checks arguments)
    (hp : ∀ x, BridgeM.Gives Bridge.SameHandles (p x)) : Gives (guarded [out] arguments p) := by
  intro t
  refine ends_guarded hchecks (fun f hf => ⟨by rw [hf]; decide, rfl, rfl⟩) fun x => ?_
  refine ends_onBridge ⟨by decide, rfl, rfl⟩ fun b hb => (hp x b).mono fun r b' h => ?_
  cases r with
  | error e =>
    -- an operation that is to give a handle gives none if it fails
    have hsame : b'.handles = b.handles := h
    refine ⟨Failure.ofError_status_ne_ok e, ?_, rfl⟩
    rw [handles?_of_bridge hb, ← hsame]
    rfl
  | ok g =>
    obtain ⟨b₁, v, hbefore, rfl, hafter⟩ := h
    have hbefore : b₁.handles = b.handles := hbefore
    have hafter : b'.handles = (b₁.handles.insert v).2 := hafter
    rw [hbefore] at hafter ⊢
    exact ⟨rfl, b.handles, v, handles?_of_bridge hb, rfl, congrArg some hafter⟩

/-- What comes after the operation leaves the handles alone and does not fail. -/
theorem Leaves.bind {p : ExportM α} {f : α → ExportM β} (hp : Leaves p)
    (hf : ∀ a t, Ends (f a) t fun r t' => t'.handles? = t.handles? ∧ ∃ b, r = .ok b) :
    Leaves (p >>= f) := by
  intro t
  refine (hp t).bind (fun a t₁ h₁ => (hf a t₁).mono ?_) fun e t₁ h₁ => ?_
  · rintro _ t₂ ⟨h₂, b, rfl⟩
    exact ⟨h₂.trans h₁.1, by rintro f ⟨⟩⟩
  · refine ⟨h₁.1, ?_⟩
    rintro f ⟨⟩
    exact h₁.2 e rfl

/-- Nothing happens before a check. -/
theorem Leaves.check {r : Except Failure β} {f : β → ExportM α} (hchecks : Checks r)
    (hf : ∀ x, r = .ok x → Leaves (f x)) : Leaves (ofArgument r >>= f) := by
  intro t
  unfold Ends
  rw [exec_bind, exec_ofArgument]
  cases r with
  | error e =>
    refine ⟨rfl, ?_⟩
    rintro _ ⟨⟩
    exact ⟨by rw [hchecks e rfl]; decide, rfl⟩
  | ok x => exact hf x rfl t

theorem Leaves.throw {f : Failure} (hf : f.status ≠ .ok) : Leaves (throw f : ExportM α) := by
  refine fun t => ⟨rfl, ?_⟩
  rintro _ ⟨⟩
  exact ⟨hf, rfl⟩

theorem Leaves.discard {p : ExportM α} (hp : Leaves p) : Leaves (discard p) := by
  intro t
  refine .map ((hp t).mono fun r t' h => ⟨h.1, ?_⟩)
  cases r with
  | error e =>
    rintro f ⟨⟩
    exact h.2 e rfl
  | ok a =>
    rintro f ⟨⟩

/-- Writing leaves the handles alone. -/
theorem ends_writes (h : .null ∉ outs) (a : α) (t : Thread) :
    Ends (do outs.forM write; return a : ExportM α) t fun r t' =>
      t'.handles? = t.handles? ∧ ∃ b, r = .ok b := by
  unfold Ends
  rw [exec_bind, exec_writes h]
  exact ⟨rfl, a, rfl⟩

theorem checks_requireOuts (outs : List OutPointer) : Checks (requireOuts outs) := by
  intro f hf
  rw [requireOuts_eq] at hf
  split_ifs at hf
  cases hf
  rfl

theorem requireOuts_eq_ok {x : Unit} (h : requireOuts outs = .ok x) : .null ∉ outs := by
  rw [requireOuts_eq] at h
  split_ifs at h with hnull
  exact hnull

theorem Checks.bind {r : Except Failure α} {f : α → Except Failure β} (hr : Checks r)
    (hf : ∀ a, Checks (f a)) : Checks (r >>= f) := by
  cases r with
  | error e =>
    rintro _ ⟨⟩
    exact hr e rfl
  | ok a => exact hf a

theorem Checks.ok (a : α) : Checks (Except.ok a) := by rintro f ⟨⟩

theorem Checks.pair {r : Except Failure α} {q : Except Failure β} (hr : Checks r) (hq : Checks q) :
    Checks (do return (← r, ← q) : Except Failure (α × β)) :=
  hr.bind fun _ => hq.bind fun _ => .ok _

theorem checks_content (b : Buffer) : Checks b.content := by
  rcases b with bytes | _ | n
  · exact .ok bytes
  · exact .ok []
  · rintro f ⟨⟩
    rfl

theorem checks_text (b : Buffer) : Checks b.text := by
  refine (checks_content b).bind fun bytes => ?_
  cases Utf8.decode bytes with
  | ok s => exact .ok s
  | error reason =>
    rintro f ⟨⟩
    rfl

theorem checks_handles (a : HandleArray) : Checks a.content := by
  rcases a with items | _ | n
  · exact .ok items
  · exact .ok []
  · rintro f ⟨⟩
    rfl

/-! ### What a call does to the handles -/

theorem handles?_deliver (t : Thread) : (deliver t).handles? = t.handles? := by
  unfold deliver
  cases hb : t.bridge with
  | none => rfl
  | some b => rw [handles?_of_bridge hb]; rfl

theorem written_deliver (t : Thread) : (deliver t).written = t.written := by
  unfold deliver
  cases t.bridge <;> rfl

/-- The status and the results for what the body of a call comes to. -/
def answer : Except Failure α → Status × Option α
  | .ok a => (.ok, some a)
  | .error f => (f.status, none)

/-- A call that is not refused as busy runs its body, and then the dispatcher gets its requests. -/
theorem run_eq (p : ExportM α) {t : Thread} (h : t.isRunning = false) :
    ∃ e, run p t = (answer (exec p { t with isRunning := true, written := 0 }).1,
      { deliver (exec p { t with isRunning := true, written := 0 }).2 with
        isRunning := false, lastError := e }) := by
  have hexec : ExceptT.run p { t with isRunning := true, written := 0 } =
      exec p { t with isRunning := true, written := 0 } := rfl
  rw [run, h, if_neg Bool.false_ne_true, hexec]
  rcases exec p { t with isRunning := true, written := 0 } with ⟨f | a, t'⟩
  · exact ⟨some f.message, rfl⟩
  · exact ⟨none, rfl⟩

/-- How a call ends, by what is known of its body. -/
theorem run_cases {p : ExportM α} {Q : Except Failure α → Thread → Prop} {t : Thread}
    (hp : Ends p { t with isRunning := true, written := 0 } Q) :
    t.isRunning = true ∧ run p t = ((.busy, none), t) ∨ t.isRunning = false ∧
      ∃ r t₁ e, Q r t₁ ∧
        run p t = (answer r, { deliver t₁ with isRunning := false, lastError := e }) := by
  cases h : t.isRunning with
  | true => exact .inl ⟨rfl, by rw [run, h, if_pos rfl]⟩
  | false =>
    obtain ⟨e, hrun⟩ := run_eq p h
    exact .inr ⟨rfl, _, _, e, hp, hrun⟩

end ExportM

/-! ### The effects of calls -/

/-- What the body of a call may do to a thread, and what it comes to then. -/
inductive Effect (t : Thread) : ExportCall → Except Failure ExportResult → Thread → Prop
  /-- A failure has written nothing, and leaves the handles alone unless a bridge was to be set
  up. -/
  | failed (c : ExportCall) (f : Failure) (t' : Thread) (hf : f.status ≠ .ok)
    (hwritten : t'.written = t.written)
    (h : t'.handles? = t.handles? ∨ c.setsUp = true ∧ t'.handles? = none) :
    Effect t c (.error f) t'
  /-- A handle that is written is for a new value. -/
  | given (c : ExportCall) (hs : HandleTable Value) (v : Value) (t' : Thread)
    (hc : c.givesHandle = true) (hwritten : t'.written = t.written + 1) (h : t.handles? = some hs)
    (h' : t'.handles? = some (hs.insert v).2) : Effect t c (.ok (.handle (hs.insert v).1)) t'
  /-- A release is of the handle that it names. -/
  | released (h : Handle) (hs hs' : HandleTable Value) (t' : Thread) (ht : t.handles? = some hs)
    (hr : hs.release? h = some hs') (ht' : t'.handles? = some hs') :
    Effect t (.release h) (.ok .done) t'
  /-- Other results leave the handles alone. -/
  | left (c : ExportCall) (r : ExportResult) (t' : Thread) (hc : c.givesHandle = false)
    (hr : r.isHandle = false) (h : t'.handles? = t.handles?) : Effect t c (.ok r) t'
  /-- A bridge that is set up has no handles. -/
  | renewed (c : ExportCall) (t' : Thread) (hc : c.setsUp = true)
    (h : t'.handles? = none ∨ ∃ tag, t'.handles? = some (.empty tag)) : Effect t c (.ok .done) t'

namespace ExportCall

open ExportM

variable {α : Type} {c : ExportCall} {p : ExportM α} {f : α → ExportResult}

/-- The body of a call does what the call may do. -/
def Does (c : ExportCall) (p : ExportM α) (f : α → ExportResult) : Prop :=
  ∀ t, Ends p t fun r t' => Effect t c (r.map f) t'

theorem does_of_gives {p : ExportM Handle} (hp : Gives p) (hc : c.givesHandle = true) :
    Does c p .handle := by
  refine fun t => (hp t).mono fun r t' h => ?_
  cases r with
  | error f => exact .failed c f t' h.1 h.2.2 (.inl h.2.1)
  | ok _ =>
    obtain ⟨hwritten, hs, v, hbefore, rfl, hafter⟩ := h
    exact .given c hs v t' hc hwritten hbefore hafter

theorem does_of_leaves (hp : Leaves p) (hc : c.givesHandle = false)
    (hf : ∀ a, (f a).isHandle = false) : Does c p f := by
  refine fun t => (hp t).mono fun r t' h => ?_
  cases r with
  | error g => exact .failed c g t' (h.2 g rfl).1 (h.2 g rfl).2 (.inl h.1)
  | ok a => exact .left c (f a) t' hc (hf a) h.1

theorem does_release (h : Handle) :
    Does (.release h) (onBridge (BridgeM.release h)) fun _ => .done := by
  refine fun t => ends_onBridge (.failed _ _ t (by decide) rfl (.inl rfl)) fun b hb => .get_bind ?_
  cases hr : b.handles.release? h with
  | none =>
    exact .failed _ _ _ (Failure.ofError_status_ne_ok _) rfl (.inl (handles?_of_bridge hb ▸ rfl))
  | some hs' => exact .released h b.handles hs' _ (handles?_of_bridge hb) hr rfl

/-! ### Setting up -/

theorem does_install (hc : c.setsUp = true) (config : BridgeConfig) :
    Does c (Thread.install config) fun _ => .done := by
  refine fun t => .get_bind ?_
  unfold Ends
  rw [exec_bind, exec_set]
  simp only
  cases hcreate : Bridge.create config (deliver t).tags with
  | error e =>
    exact .failed c _ _ (Failure.ofError_status_ne_ok e) (written_deliver t) (.inr ⟨hc, rfl⟩)
  | ok r =>
    obtain ⟨b, tags⟩ := r
    obtain ⟨tag, ns, rfl⟩ := Bridge.setUp_eq_ok hcreate
    exact .renewed c _ hc (.inr ⟨tag, rfl⟩)

/-- Nothing happens before a check. -/
theorem Does.check {β : Type} {r : Except Failure β} {q : β → ExportM α}
    (hr : ∀ g, r = .error g → g.status ≠ .ok) (hq : ∀ x, Does c (q x) f) :
    Does c (ofArgument r >>= q) f := by
  intro t
  unfold Ends
  rw [exec_bind, exec_ofArgument]
  cases r with
  | error g => exact .failed c g t (hr g rfl) rfl (.inl rfl)
  | ok x => exact hq x t

theorem does_shutdown : Does .shutdown (do
    let t := deliver (← get)
    if t.bridge.isNone then throw .noBridge
    set { t with bridge := none, requests := [] }) fun _ => .done := by
  refine fun t => .get_bind ?_
  simp only
  split_ifs
  · exact .failed _ _ _ (by decide) rfl (.inl rfl)
  · exact .renewed _ _ rfl (.inl rfl)

/-- A configuration that is refused. -/
theorem mapError_status_ne_ok {r : Except BridgeError α} {g : Failure}
    (h : r.mapError Failure.ofError = .error g) : g.status ≠ .ok := by
  cases r with
  | error e =>
    cases h
    exact Failure.ofError_status_ne_ok e
  | ok a => cases h

/-! ### Each call -/

theorem does_registerHost (name : Buffer) (arity : Nat) (f : Option NativeCallback) :
    Does (.registerHost name arity f) (do
      let name ← ofArgument name.text
      match f with
      | none => throw (.argument "null host function pointer")
      | some f => discard (onBridge (BridgeM.registerHost name arity (f.toHost name)))) fun _ =>
        .done := by
  refine does_of_leaves (.check (checks_text name) fun name _ => ?_) rfl fun _ => rfl
  cases f with
  | none => exact .throw (by decide)
  | some f => exact (leaves_onBridge (Bridge.inner_sameHandles.registerHost _ _ _)).discard

theorem does_endCall (id : Nat) (value : Handle) (rejected : Bool) (out : OutPointer) :
    Does (.endCall id value rejected out) (do
      let done ← onBridge do
        BridgeM.completeCall id (← Thread.callbackOutcome value rejected)
      unless out = .null do write out
      return done) .ended := by
  have houtcome : Keeps Bridge.SameHandles (Thread.callbackOutcome value rejected) := by
    refine Keeps.ite (Keeps.ite (.pure _) ?_) (Keeps.ite (.pure _) (.pure _))
    exact (Bridge.inner_sameHandles.getString value).bind fun _ => .pure _
  have hend : Keeps Bridge.SameHandles (do
      BridgeM.completeCall id (← Thread.callbackOutcome value rejected)) :=
    houtcome.bind fun o =>
      Bridge.inner_sameHandles.completeCall (fun _ _ => rfl) (fun _ _ _ => rfl) id o
  refine does_of_leaves ((leaves_onBridge hend).bind fun done t => ?_) rfl fun _ => rfl
  cases out with
  | null => exact ⟨rfl, done, rfl⟩
  | valid => exact ⟨rfl, done, rfl⟩

theorem does_takeRequest (outs : List OutPointer) : Does (.takeRequest outs) (do
    ofArgument (requireOuts outs)
    let fresh ← onBridge BridgeM.takeRequests
    let t ← get
    let next ← match t.requests ++ fresh with
      | [] => pure none
      | r :: rest => do
        set { t with requests := rest }
        pure (some r)
    outs.forM write
    return next) .request := by
  refine does_of_leaves (.check (checks_requireOuts outs) fun _ houts => ?_) rfl fun _ => rfl
  have houts := requireOuts_eq_ok houts
  have htake : Keeps Bridge.SameHandles BridgeM.takeRequests :=
    BridgeM.Core.updateLedger (fun _ _ => rfl) _
  refine (leaves_onBridge htake).bind fun fresh t => .get_bind ?_
  cases t.requests ++ fresh with
  | nil => exact ends_writes houts none t
  | cons r rest => exact ends_writes houts (some r) { t with requests := rest }

theorem does_lastErrorText (outs : List OutPointer) : Does (.lastErrorText outs) (do
    ofArgument (requireOuts outs)
    let t ← get
    outs.forM write
    return t.lastError.getD "") .text := by
  refine does_of_leaves (.check (checks_requireOuts outs) fun _ houts => ?_) rfl fun _ => rfl
  have houts := requireOuts_eq_ok houts
  refine fun t => .get_bind ((ends_writes houts (t.lastError.getD "") t).mono ?_)
  rintro _ t' ⟨hsame, s, rfl⟩
  exact ⟨hsame, by rintro g ⟨⟩⟩

/-- It is refused as busy, or it does what the call may do. -/
def Performs (c : ExportCall) (e : Export ExportResult) : Prop := ∀ t : Thread,
  t.isRunning = true ∧ e t = ((.busy, none), t) ∨ t.isRunning = false ∧
    ∃ r t₁ m, Effect { t with isRunning := true, written := 0 } c r t₁ ∧
      e t = (answer r, { deliver t₁ with isRunning := false, lastError := m })

theorem answer_map (r : Except Failure α) (f : α → ExportResult) :
    answer (r.map f) = ((answer r).1, (answer r).2.map f) := by
  cases r <;> rfl

theorem Does.performs (h : Does c p f) : Performs c (Export.map f (run p)) := by
  intro t
  obtain ⟨hbusy, hrun⟩ | ⟨hidle, r, t₁, m, heffect, hrun⟩ := run_cases (h _)
  · refine .inl ⟨hbusy, ?_⟩
    rw [Export.map, hrun]
    rfl
  · refine .inr ⟨hidle, r.map f, t₁, m, heffect, ?_⟩
    rw [Export.map, hrun, answer_map]

/-- A call that only asks does the same. -/
theorem Does.performs_inspect (h : Does c p f) : Performs c (Export.map f (inspect p)) := by
  intro t
  have hinspect : inspect p t = ((run p t).1, { (run p t).2 with lastError := t.lastError }) := rfl
  obtain ⟨hbusy, hrun⟩ | ⟨hidle, r, t₁, m, heffect, hrun⟩ := run_cases (h _)
  · refine .inl ⟨hbusy, ?_⟩
    rw [Export.map, hinspect, hrun]
    rfl
  · refine .inr ⟨hidle, r.map f, t₁, t.lastError, heffect, ?_⟩
    rw [Export.map, hinspect, hrun, answer_map]

/-- **Every call does what its status and its results tell**, wherever it fails. -/
theorem performs (c : ExportCall) : Performs c c.perform := by
  have F := Bridge.inner_sameHandles
  cases c with
  | init var =>
    exact (Does.check (fun _ => mapError_status_ne_ok) fun c => does_install rfl c).performs
  | initWithConfig document =>
    refine (Does.check ?_ fun text => ?_).performs
    · intro g hg
      rw [checks_text document g hg]
      decide
    · exact Does.check (fun _ => mapError_status_ne_ok) fun c => does_install rfl c
  | shutdown => exact does_shutdown.performs
  | compile filename source isModule outs =>
    have hchecks := (checks_text filename).pair (checks_text source)
    refine (does_of_leaves (leaves_guarded outs hchecks fun x => ?_) rfl fun _ => rfl).performs
    obtain ⟨filename, source⟩ := x
    -- nothing is asked of the bridge but that there is one
    cases hcompile : CompiledUnit.compile filename source (.ofFlag isModule) with
    | ok u => simpa only [hcompile] using Keeps.pure u.serialize
    | error e => simpa only [hcompile] using Keeps.throw e
  | eval filename source isModule out =>
    have hchecks := (checks_text filename).pair (checks_text source)
    refine (does_of_gives (gives_guarded out hchecks fun x => .bind .get fun b => ?_) rfl).performs
    exact F.evalSource (fun _ _ => rfl) (fun _ _ => rfl) _ _ _
  | evalBlob blob out =>
    exact (does_of_gives (gives_guarded out (checks_content blob) fun blob =>
      F.evalBlob (fun _ _ => rfl) (fun _ _ => rfl) blob) rfl).performs
  | loadBlob blob out =>
    exact (does_of_gives (gives_guarded out (checks_content blob) fun blob =>
      F.loadBlob (fun _ _ => rfl) (fun _ _ => rfl) (fun _ _ => rfl) blob) rfl).performs
  | globalObject out =>
    exact (does_of_gives (gives_guarded out (.ok ()) fun _ => .keep _) rfl).performs
  | call target name args out =>
    have hchecks := (checks_text name).pair (checks_handles args)
    exact (does_of_gives (gives_guarded out hchecks fun x => F.callMethod _ _ _) rfl).performs
  | getProperty target name out =>
    exact (does_of_gives (gives_guarded out (checks_text name) fun _ => F.getProperty _ _)
      rfl).performs
  | getString h outs =>
    exact (does_of_leaves (leaves_guarded outs (.ok ()) fun _ => F.getString h) rfl
      fun _ => rfl).performs
  | newString text out =>
    exact (does_of_gives (gives_guarded out (checks_text text) fun _ => .keep _) rfl).performs
  | release h => exact (does_release h).performs
  | promiseResult h out =>
    exact (does_of_gives (gives_guarded out (.ok ()) fun _ => F.promiseResult h) rfl).performs
  | endCall id value rejected out => exact (does_endCall id value rejected out).performs
  | registerHost name arity f => exact (does_registerHost name arity f).performs
  | setDispatcher on =>
    have hset : Keeps Bridge.SameHandles (BridgeM.setDispatcher on) :=
      BridgeM.Core.updateLedger (fun _ _ => rfl) _
    exact (does_of_leaves (leaves_onBridge hset) rfl fun _ => rfl).performs
  | takeRequest outs => exact (does_takeRequest outs).performs
  | lastErrorText outs => exact (does_lastErrorText outs).performs_inspect

end ExportCall

end ScriptBridge
