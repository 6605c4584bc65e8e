import ScriptBridge.Proofs.Export.Refusal

/-!
# Exports fail cleanly

What a caller can rely on when an export reports that it failed, and when it reports that it did
not.  `Thread.Run` is what a thread can come to by calls from the outside; while one of them runs,
each further call of the thread is refused as busy.

* `ExportCall.Performs.sound` : **one call** keeps the handles in order, and all that are new are
  written.
* `Thread.Run.sound` : so **in every run** there is no handle that the caller was not given.
* `Thread.exports_fail_cleanly` : a failure has written nothing and leaves the live handles alone, a
  malformed call leaves everything alone, and a call that yields a handle has made just that one.

As for bridges, the new handle is one of its own as long as fewer than `2 ^ 32` are live.
-/

namespace ScriptBridge

open Script

/-- A call that a thread has made: the status and the results. -/
structure ExportEvent where
  call : ExportCall
  answer : Status × Option ExportResult

/-- The call has given a handle to its caller. -/
def ExportEvent.Writes (e : ExportEvent) (h : Handle) : Prop := e.answer = (.ok, some (.handle h))

namespace Thread

variable {t t' : Thread} {events : List ExportEvent}

/-- The live handles of a thread, and the value that each of them names. -/
def live (t : Thread) (h : Handle) : Option Value := t.handles?.bind (·.get? h)

/-- The number of live handles. -/
def liveCount (t : Thread) : Nat := (t.handles?.map (·.size)).getD 0

/-- What a thread can come to, with the calls that it has made. -/
inductive Run : List ExportEvent → Thread → Prop
  /-- Other threads have drawn tags. -/
  | new (tags : TagSource) : Run [] { tags }
  | call {events : List ExportEvent} {t : Thread} (run : Run events t) (c : ExportCall) :
    Run (events ++ [⟨c, (c.perform t).1⟩]) (c.perform t).2
  /-- Other threads draw tags, and the dispatcher is done with requests. -/
  | aside {events : List ExportEvent} {t : Thread} (run : Run events t) (tags : TagSource)
    (delivered : List AsyncRequest) : Run events { t with tags, delivered }

/-- No call is running, nothing waits for the dispatcher, the handles are in order, and the caller
was given each of them. -/
structure Sound (events : List ExportEvent) (t : Thread) : Prop where
  idle : t.isRunning = false
  quiet : t.IsQuiet
  counted : ∀ hs, t.handles? = some hs → hs.Counted
  known : ∀ h, t.live h ≠ none → ∃ e ∈ events, e.Writes h

end Thread

/-! ### One call -/

namespace Effect

variable {t t' : Thread} {c : ExportCall} {r : Except Failure ExportResult}

theorem counted (h : Effect t c r t') (ht : ∀ hs, t.handles? = some hs → hs.Counted) :
    ∀ hs, t'.handles? = some hs → hs.Counted := by
  intro hs hhs
  cases h with
  | failed _ f _ hf hwritten h =>
    obtain h | ⟨-, h⟩ := h
    · exact ht hs (h ▸ hhs)
    · rw [h] at hhs
      cases hhs
  | given _ hs₀ v _ hc hwritten h h' =>
    obtain rfl := Option.some.inj (h'.symm.trans hhs)
    exact (ht hs₀ h).insert
  | released _ hs₀ _ _ h hr h' =>
    obtain rfl := Option.some.inj (h'.symm.trans hhs)
    exact (ht hs₀ h).release? hr
  | left _ _ _ hc hr h => exact ht hs (h ▸ hhs)
  | renewed _ _ hc h =>
    obtain h | ⟨tag, h⟩ := h
    · rw [h] at hhs
      cases hhs
    · obtain rfl := Option.some.inj (h.symm.trans hhs)
      exact .empty tag

theorem live_congr (h : t'.handles? = t.handles?) : t'.live = t.live := by
  funext g
  rw [Thread.live, Thread.live, h]

theorem live_of_none (h : t'.handles? = none) (g : Handle) : t'.live g = none := by
  rw [Thread.live, h]
  rfl

/-- A handle that is live after a call was live before, or the call has written it. -/
theorem known (h : Effect t c r t') (ht : ∀ hs, t.handles? = some hs → hs.Counted) {g : Handle}
    (hg : t'.live g ≠ none) : t.live g ≠ none ∨ r = .ok (.handle g) := by
  cases h with
  | failed _ f _ hf hwritten h =>
    obtain h | ⟨-, h⟩ := h
    · exact .inl (live_congr h ▸ hg)
    · exact absurd (live_of_none h g) hg
  | given _ hs v _ hc hwritten h h' =>
    obtain ⟨w, hw⟩ := Option.ne_none_iff_exists'.1 hg
    rw [Thread.live, h'] at hw
    obtain rfl | hw := (ht hs h).get?_of_insert hw
    · exact .inr rfl
    · rw [Thread.live, h]
      exact .inl (Option.ne_none_iff_exists'.2 ⟨w, hw⟩)
  | released h₀ hs hs' _ h hr h' =>
    -- a release makes no handle live
    refine .inl fun hnone => hg ?_
    rw [Thread.live, h, Option.bind_some] at hnone
    rw [Thread.live, h', Option.bind_some, HandleTable.get?_release? hr, hnone, ite_self]
  | left _ _ _ hc hr h => exact .inl (live_congr h ▸ hg)
  | renewed _ _ hc h =>
    obtain h | ⟨tag, h⟩ := h
    · exact absurd (live_of_none h g) hg
    · refine absurd ?_ hg
      rw [Thread.live, h]
      simp [HandleTable.empty, HandleTable.get?]

end Effect

namespace ExportCall

open ExportM

variable {c : ExportCall} {e : Export ExportResult} {t : Thread} {events : List ExportEvent}

/-- What the handles of a thread are after a call is what its body has left. -/
theorem Performs.of_idle (hc : Performs c e) (hidle : t.isRunning = false) :
    ∃ r t₁, Effect { t with isRunning := true, written := 0 } c r t₁ ∧ (e t).1 = answer r ∧
      (e t).2.handles? = t₁.handles? ∧ (e t).2.written = t₁.written ∧
      (e t).2.isRunning = false ∧ (e t).2.IsQuiet := by
  obtain ⟨hbusy, -⟩ | ⟨-, r, t₁, m, heffect, he⟩ := hc t
  · rw [hidle] at hbusy
    cases hbusy
  · rw [he]
    exact ⟨r, t₁, heffect, rfl, handles?_deliver t₁, written_deliver t₁, rfl, isQuiet_deliver t₁⟩

/-- **One call** of a sound thread leaves it sound. -/
theorem Performs.sound (hc : Performs c e) (h : t.Sound events) :
    (e t).2.Sound (events ++ [⟨c, (e t).1⟩]) := by
  obtain ⟨r, t₁, heffect, hanswer, hhandles, -, hidle, hquiet⟩ := hc.of_idle h.idle
  refine ⟨hidle, hquiet, ?_, fun g hg => ?_⟩
  · rw [hhandles]
    exact heffect.counted h.counted
  · -- a live handle is an old one, or the one that this call has written
    rw [Effect.live_congr hhandles] at hg
    obtain hbefore | rfl := heffect.known h.counted hg
    · obtain ⟨e', he', hwrites⟩ := h.known g hbefore
      exact ⟨e', List.mem_append_left _ he', hwrites⟩
    · exact ⟨_, List.mem_append_right _ List.mem_cons_self, hanswer⟩

end ExportCall

namespace Thread

open ExportCall

variable {t : Thread} {events : List ExportEvent}

/-- **In every run** the handles are in order, and the caller was given each that is live. -/
theorem Run.sound (run : Run events t) : Sound events t := by
  induction run with
  | new tags =>
    exact ⟨rfl, nofun, nofun, fun h hlive => absurd rfl hlive⟩
  | call run c ih => exact (performs c).sound ih
  | aside run tags delivered ih => exact ⟨ih.idle, ih.quiet, ih.counted, ih.known⟩

/-! ### What a caller can rely on -/

/-- What a caller can rely on when the exports of a thread have been called as in `events`. -/
structure FailsCleanly (events : List ExportEvent) (t : Thread) : Prop where
  /-- A call that fails has written nothing, and leaves the live handles alone; one that was to set
  a bridge up, or to shut it down, may have dropped them. -/
  failed : ∀ c : ExportCall, (c.perform t).1.1 ≠ .ok →
    (c.perform t).1.2 = none ∧ (c.perform t).2.written = 0 ∧
      (c.setsUp = false → (c.perform t).2.live = t.live)
  /-- A call without a place for a result, or with arguments that cannot be used, is reported as a
  bad argument.  It leaves its words, and everything else is what it was. -/
  refused : ∀ c : ExportCall, c.Malformed → ∃ words,
    c.perform t = ((.invalidArgument, none), { t with lastError := words, written := 0 })
  /-- A call that is made while another one runs does nothing. -/
  busy : ∀ c : ExportCall,
    c.perform { t with isRunning := true } = ((.busy, none), { t with isRunning := true })
  /-- A call that is to yield a handle and reports success has written one, and it is the only new
  one, if there is an index for it. -/
  given : ∀ c : ExportCall, c.givesHandle = true → (c.perform t).1.1 = .ok → ∃ h v,
    (c.perform t).1.2 = some (.handle h) ∧ (c.perform t).2.written = 1 ∧
      (t.liveCount < 2 ^ 32 →
        t.live h = none ∧ (c.perform t).2.live = Function.update t.live h (some v))
  /-- The caller was given every handle that is live. -/
  known : ∀ h, t.live h ≠ none → ∃ e ∈ events, e.Writes h

/-- A call that sets up yields no handle. -/
theorem setsUp_of_givesHandle {c : ExportCall} (h : c.givesHandle = true) : c.setsUp = false := by
  cases c <;> first | rfl | cases h

/-- What handles name after an insertion, if there is an index for it. -/
theorem Sound.live_insert (hs : Sound events t) {table : HandleTable Value}
    (htable : t.handles? = some table) (hcount : t.liveCount < 2 ^ 32) {v : Value} {t' : Thread}
    (ht' : t'.handles? = some (table.insert v).2) : t.live (table.insert v).1 = none ∧
      t'.live = Function.update t.live (table.insert v).1 (some v) := by
  have hcounted := hs.counted table htable
  have hroom : table.HasRoom := by
    refine hcounted.hasRoom ?_
    rwa [liveCount, htable] at hcount
  have hlive : ∀ g, t.live g = table.get? g := fun g => by rw [live, htable, Option.bind_some]
  refine ⟨(hlive _).trans (hcounted.get?_insert_fresh hroom), ?_⟩
  funext g
  rw [live, ht', Option.bind_some, hcounted.get?_insert hroom, Function.update_apply, hlive]

/-- **Exports fail cleanly** in every run, whatever they are called with. -/
theorem exports_fail_cleanly (run : Run events t) : FailsCleanly events t where
  failed c hc := by
    obtain ⟨r, t₁, heffect, hanswer, hhandles, hwritten, -⟩ := (performs c).of_idle run.sound.idle
    rw [hanswer] at hc ⊢
    rw [hwritten]
    cases r with
    | ok a => exact absurd rfl hc
    | error f =>
      refine ⟨rfl, ?_⟩
      cases heffect with
      | failed _ _ _ _ hnothing h =>
        refine ⟨hnothing, fun hsetsUp => Effect.live_congr ?_⟩
        rw [hhandles]
        exact h.resolve_right fun h => absurd h.1 (by rw [hsetsUp]; exact Bool.false_ne_true)
  refused c hc := perform_of_malformed hc t run.sound.idle run.sound.quiet
  busy c := by
    obtain ⟨-, he⟩ | ⟨hidle, -⟩ := performs c { t with isRunning := true }
    · exact he
    · cases hidle
  given c hgives hc := by
    obtain ⟨r, t₁, heffect, hanswer, hhandles, hwritten, -⟩ := (performs c).of_idle run.sound.idle
    rw [hanswer] at hc ⊢
    rw [hwritten]
    cases heffect with
    | failed _ _ _ hf => exact absurd hc hf
    | given _ table v _ _ hone h h' =>
      exact ⟨_, v, rfl, hone, fun hcount => run.sound.live_insert h hcount (hhandles.trans h')⟩
    | released => cases hgives
    | left _ _ _ hleft =>
      rw [hgives] at hleft
      cases hleft
    | renewed _ _ hsetsUp =>
      rw [setsUp_of_givesHandle hgives] at hsetsUp
      cases hsetsUp
  known := run.sound.known

/-! ### A first handle -/

/-- A thread sets up a bridge that can be created. -/
theorem perform_init {var : String → Option String} {c : BridgeConfig} {b : Bridge}
    {tags : TagSource} (hvar : BridgeConfig.ofEnv var = .ok c)
    (hcreate : Bridge.create c (ExportM.deliver t).tags = .ok (b, tags))
    (hidle : t.isRunning = false) : ((ExportCall.init var).perform t).1 = (.ok, some .done) ∧
      ∃ b', ((ExportCall.init var).perform t).2.bridge = some b' ∧ b'.handles = b.handles := by
  have hinstall : exec (install c) { t with isRunning := true, written := 0 } = (.ok ⟨⟩,
      { ExportM.deliver { t with isRunning := true, written := 0 } with
        bridge := some b, requests := [], tags }) := by
    have htags : (ExportM.deliver { t with isRunning := true, written := 0 }).tags =
        (ExportM.deliver t).tags := by
      unfold ExportM.deliver
      cases t.bridge <;> rfl
    rw [install, exec_bind, exec_get]
    simp only [exec_bind, exec_set, htags, hcreate]
  obtain ⟨e, hrun⟩ := ExportM.run_eq (do
    install (← ExportM.ofArgument ((BridgeConfig.ofEnv var).mapError Failure.ofError))) hidle
  have hexec : exec (do
      install (← ExportM.ofArgument ((BridgeConfig.ofEnv var).mapError Failure.ofError)))
      { t with isRunning := true, written := 0 } = exec (install c)
        { t with isRunning := true, written := 0 } := by
    rw [exec_bind, hvar]
    rfl
  rw [hexec, hinstall] at hrun
  rw [ExportCall.perform, Export.map, init, hrun]
  exact ⟨rfl, _, rfl, rfl⟩

/-- A thread with a bridge gives out a handle for the global object. -/
theorem perform_globalObject {b : Bridge} (hb : t.bridge = some b) (hidle : t.isRunning = false) :
    ((ExportCall.globalObject .valid).perform t).1 =
        (.ok, some (.handle (b.handles.insert (.object Intrinsic.global)).1)) ∧
      ((ExportCall.globalObject .valid).perform t).2.handles? =
        some (b.handles.insert (.object Intrinsic.global)).2 := by
  obtain ⟨e, hrun⟩ := ExportM.run_eq
    (ExportM.guarded [.valid] (pure ()) fun _ => BridgeM.globalObject) hidle
  have hexec := ExportM.exec_guarded [.valid] (pure ()) (fun _ => BridgeM.globalObject)
    { t with isRunning := true, written := 0 }
  rw [if_neg (by decide), ExportM.exec_onBridge] at hexec
  simp only [hb, Option.elim_some] at hexec hrun
  rw [hexec] at hrun
  rw [ExportCall.perform, Export.map, globalObject, hrun]
  exact ⟨rfl, rfl⟩

/-- It holds of a thread whose bridge was set up and has given out one handle, which is live; and of
a thread without a bridge, where the same call fails. -/
theorem exports_fail_cleanly_started : FailsCleanly [] {} ∧
    ((ExportCall.globalObject .valid).perform {}).1.1 = .notInitialized ∧ ∃ h t,
      FailsCleanly [⟨.init fun _ => none, (.ok, some .done)⟩,
        ⟨.globalObject .valid, (.ok, some (.handle h))⟩] t ∧
      t.live h = some (.object Intrinsic.global) := by
  refine ⟨exports_fail_cleanly (.new {}), rfl, ?_⟩
  obtain ⟨b, tags, hcreate⟩ := Bridge.exists_create
  have hempty : ∃ tag, b.handles = .empty tag := by
    obtain ⟨tag, ns, rfl⟩ := Bridge.setUp_eq_ok hcreate
    exact ⟨tag, rfl⟩
  obtain ⟨tag, hempty⟩ := hempty
  have hvar : BridgeConfig.ofEnv (fun _ => none) = .ok {} := rfl
  obtain ⟨hinit, b', hb', hhandles⟩ := perform_init (t := {}) hvar hcreate rfl
  have run₁ : Run [⟨.init fun _ => none, (.ok, some .done)⟩] _ :=
    hinit ▸ (Run.new {}).call (.init fun _ => none)
  obtain ⟨hglobal, hinsert⟩ := perform_globalObject hb' run₁.sound.idle
  have run₂ := run₁.call (.globalObject .valid)
  rw [hglobal] at run₂
  refine ⟨_, _, exports_fail_cleanly run₂, ?_⟩
  have hcount : liveCount ((ExportCall.init fun _ => none).perform {}).2 < 2 ^ 32 := by
    rw [liveCount, ExportM.handles?_of_bridge hb', hhandles, hempty]
    exact Nat.two_pow_pos 32
  obtain ⟨-, hlive⟩ := run₁.sound.live_insert (ExportM.handles?_of_bridge hb') hcount hinsert
  rw [hlive, Function.update_self]

end Thread

end ScriptBridge
