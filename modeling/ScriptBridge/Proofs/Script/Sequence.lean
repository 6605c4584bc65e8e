import ScriptBridge.Proofs.Bridge.Frame

/-!
# One procedure after another

Many procedures attempt another one and then go on with whatever it came to.  A run of such a
procedure takes the steps of a run of the first one, and then those of what comes behind it.

* `Running.step_followed` : as long as the first one runs, **the same step is taken**.
* `Bridge.ComesTo` : what a procedure comes to on a bridge, and in how many steps.
* `Bridge.ComesTo.attempt_bind`, `Bridge.ComesTo.of_attempt_bind` : a procedure that attempts
  another one comes to **what comes behind the end of that**, and to nothing else.
* `BridgeM.exec_perform_of_comesTo`, `BridgeM.comesTo_of_exec_perform` : what the host gets of it.
* `BridgeM.exec_evaluate` : evaluating attempts a procedure and **tells the host** what it came to.
-/

namespace ScriptBridge

namespace Script

variable {α β γ : Type}

/-- The outcome of a procedure that has ended. -/
def Outcome.ofExcept : Except Value α → World → Outcome α
  | .ok a, w => .done a w
  | .error v, w => .thrown v w

/-- A step that comes to the end. -/
def Progress.ofExcept : Except Value α → World → Progress α
  | .ok a, w => .done a w
  | .error v, w => .thrown v w

/-- Goes on with what comes of the end of an outcome, whatever it is. -/
def Outcome.followed (d : Except Value α → World → Outcome β) : Outcome α → Outcome β
  | .done a w => d (.ok a) w
  | .thrown v w => d (.error v) w
  | .ask q w k => .ask q w fun r w => (k r w).followed d

/-- Going on with the value is going on with the end, and what is thrown goes through. -/
theorem Outcome.bind_eq_followed (o : Outcome α) (f : α → World → Outcome β) :
    o.bind f = o.followed fun
      | .ok a => f a
      | .error v => .thrown v := by
  induction o with
  | done a w => rfl
  | thrown v w => rfl
  | ask q w k ih => simp only [bind, followed, ih]

/-- Goes on with what comes of the end of a run. -/
def Running.followed (d : Except Value α → World → Outcome β) : Running α → Running β
  | .top o => .top (o.followed d)
  | .inner o stack base => .inner o stack ⟨base.mark, fun r w => (base.resume r w).followed d⟩

/-- Goes on with what comes of the end that a step may come to. -/
def Progress.followed (d : Except Value α → World → Outcome β) (s : Suspended) :
    Progress α → Progress β
  | .done a w => (Running.top (d (.ok a) w)).step s
  | .thrown v w => (Running.top (d (.error v) w)).step s
  | .running r s => .running (r.followed d) s
  | .asking h w k => .asking h w fun r w => (k r w).followed d

namespace Running

variable (d : Except Value α → World → Outcome β)

/-- What waits below all frames, with something that comes behind its end. -/
abbrev followedBase (base : Base α) : Base β :=
  ⟨base.mark, fun r w => (base.resume r w).followed d⟩

theorem deliver_followed (r : Except Value Reply) (w : World) (stack : List Frame)
    (base : Base α) :
    deliver r w stack (followedBase d base) = (deliver r w stack base).followed d := by
  cases stack <;> rfl

theorem suspend_followed (r : Reply) (w : World) (stack : List Frame) (base : Base α)
    (s : Suspended) : suspend r w stack (followedBase d base) s =
      ((suspend r w stack base s).1.followed d, (suspend r w stack base s).2) := by
  simp only [suspend, deliver_followed]

theorem revive_followed (id : Nat) (r : Except Value Reply) (w : World) (stack : List Frame)
    (base : Base α) (s : Suspended) : revive id r w stack (followedBase d base) s =
      ((revive id r w stack base s).1.followed d, (revive id r w stack base s).2) := by
  unfold revive
  split
  all_goals simp only [deliver_followed]

theorem answer_followed (q : Request) (w : World) (stack : List Frame) (base : Base α)
    (s s' : Suspended) : answer q w stack (followedBase d base) s =
      (answer q w stack base s).followed d s' := by
  unfold answer
  split
  all_goals simp only [deliver_followed, suspend_followed, revive_followed, Progress.followed]
  rfl

/-- **The same step is taken**; the end of the first one is the beginning of what follows it. -/
theorem step_followed (r : Running α) (s : Suspended) :
    (r.followed d).step s = (r.step s).followed d s := by
  cases r with
  | top o =>
    cases o with
    | done a w => rfl
    | thrown v w => rfl
    | ask q w k => exact answer_followed d q w [] ⟨q.mark w, k⟩ s s
  | inner o stack base =>
    cases o with
    | done f w =>
      cases f with
      | reply r => exact congrArg (Progress.running · s) (deliver_followed d (.ok r) w stack base)
      | tail q => rfl
    | thrown v w =>
      exact congrArg (Progress.running · s) (deliver_followed d (.error v) w stack base)
    | ask q w k => exact answer_followed d q w (⟨q.mark w, k⟩ :: stack) base s s

/-- What comes to its end in one step has come there already. -/
theorem eq_ofExcept_of_step {r : Running α} {s : Suspended} {x : Except Value α} {w : World}
    (h : r.step s = .ofExcept x w) : r = .top (.ofExcept x w) := by
  have hanswer (q : Request) (w' : World) (stack : List Frame) (base : Base α) :
      answer q w' stack base s ≠ .ofExcept x w := by
    unfold answer
    split
    all_goals cases x <;> rintro ⟨⟩
  cases r with
  | top o =>
    cases o with
    | done a w' => cases x <;> cases h; rfl
    | thrown v w' => cases x <;> cases h; rfl
    | ask q w' k => exact absurd h (hanswer _ _ _ _)
  | inner o stack base =>
    cases o with
    | done f w' => cases f <;> cases x <;> cases h
    | thrown v w' => cases x <;> cases h
    | ask q w' k => exact absurd h (hanswer _ _ _ _)

end Running

namespace Proc

variable (p : Proc α) (w : World)

/-- Attempting a procedure, and going on with what it came to. -/
theorem run_attempt_bind (f : Except Value α → Proc β) :
    (attempt p >>= f) w = (p w).followed fun r => f r := by
  have h (o : Outcome α) : ((o.bind fun a w => .done (.ok a) w).handle
      fun v w => .done (.error v) w).bind (fun r => f r) = o.followed fun r => f r := by
    induction o with
    | done a w => rfl
    | thrown v w => rfl
    | ask q w k ih => simp only [Outcome.bind, Outcome.handle, Outcome.followed, ih]
  exact h (p w)

/-- Going on with the value of a procedure only: what it throws goes through. -/
def goOn (f : α → Proc β) : Except Value α → Proc β
  | .ok a => f a
  | .error e => throwValue e

theorem run_bind_eq_attempt (f : α → Proc β) : (p >>= f) w = (attempt p >>= goOn f) w := by
  rw [run_attempt_bind]
  refine (Outcome.bind_eq_followed (p w) _).trans ?_
  refine congrArg (fun d => (p w).followed d) (funext fun x => funext fun w => ?_)
  cases x <;> rfl

/-- Attempting what goes on with the value of a procedure. -/
theorem run_attempt_bind_attempt (f : α → Proc β) (g : Except Value β → Proc γ) :
    (attempt (p >>= f) >>= g) w = (attempt p >>= fun
      | .ok a => attempt (f a) >>= g
      | .error e => g (.error e)) w := by
  simp only [run_attempt_bind]
  change ((p w).bind _).followed _ = _
  induction p w with
  | done a w => exact (run_attempt_bind (f a) w g).symm
  | thrown v w => rfl
  | ask q w k ih => simp only [Outcome.bind, Outcome.followed, ih]

end Proc

end Script

open Script

variable {α β : Type}

namespace Bridge

variable {b b' b₁ : Bridge} {n m l : Nat} {x : Except Value α} {y : Except Value β}

/-! ### Runs -/

/-- A run that has come to its end comes to the same end if it may take longer. -/
theorem runFor_add {r : Running α} (h : runFor n r b = (some x, b')) (m : Nat) :
    runFor (n + m) r b = (some x, b') := by
  induction n generalizing r b with
  | zero => cases h
  | succ n ih =>
    -- the first step is the same, and decides whether there is another one
    rw [Nat.add_right_comm, runFor]
    rw [runFor] at h
    cases hstep : r.step b.suspended with
    | done a w =>
      rw [hstep] at h
      exact h
    | thrown v w =>
      rw [hstep] at h
      exact h
    | running r s =>
      rw [hstep] at h
      exact ih h
    | asking q w k =>
      rw [hstep] at h
      exact ih h

theorem runFor_of_le {r : Running α} (h : runFor n r b = (some x, b')) (hnm : n ≤ m) :
    runFor m r b = (some x, b') := by
  obtain ⟨k, rfl⟩ := Nat.exists_eq_add_of_le hnm
  exact runFor_add h k

/-- The world of the bridge is not looked at in a run: the run has its own. -/
theorem runFor_withWorld (n : Nat) (r : Running α) (b : Bridge) (w : World) :
    runFor n r { b with world := w } = runFor n r b := by
  induction n generalizing r b with
  | zero => rfl
  | succ n ih =>
    simp only [runFor]
    cases r.step b.suspended with
    | done a w => rfl
    | thrown v w => rfl
    | running r s => exact ih r { b with suspended := s }
    | asking h w' k =>
      have hserve : ({ b with world := w } : Bridge).serve w' h = ((b.serve w' h).1,
          (b.serve w' h).2.1, { (b.serve w' h).2.2 with world := w }) := by
        cases h with
        | print line =>
          simp only [serve, printLine]
          cases b.config.print <;> rfl
        | startAsync payload => rfl
        | call id args =>
          simp only [serve]
          cases b.functions[id]? <;> rfl
        | modules c => rfl
      simp only [hserve]
      exact ih _ _

/-- The handles of the bridge are not looked at in a run either, and stay. -/
theorem runFor_withHandles (n : Nat) (r : Running α) (b : Bridge) (t : HandleTable Value) :
    runFor n r { b with handles := t } =
      ((runFor n r b).1, { (runFor n r b).2 with handles := t }) := by
  induction n generalizing r b with
  | zero => rfl
  | succ n ih =>
    simp only [runFor]
    cases r.step b.suspended with
    | done a w => rfl
    | thrown v w => rfl
    | running r s => exact ih r { b with suspended := s }
    | asking h w' k =>
      have hserve : ({ b with handles := t } : Bridge).serve w' h = ((b.serve w' h).1,
          (b.serve w' h).2.1, { (b.serve w' h).2.2 with handles := t }) := by
        cases h with
        | print line =>
          simp only [serve, printLine]
          cases b.config.print <;> rfl
        | startAsync payload => rfl
        | call id args =>
          simp only [serve]
          cases b.functions[id]? <;> rfl
        | modules c => rfl
      simp only [hserve]
      exact ih _ _

/-- **The end of a run is the beginning of what follows it**, after fewer steps than it took. -/
theorem runFor_followed (d : Except Value α → World → Outcome β) {r : Running α}
    (h : runFor n r b = (some x, b')) :
    ∃ k < n, ∀ m, runFor (m + k) (r.followed d) b = runFor m (.top (d x b'.world)) b' := by
  induction n generalizing r b with
  | zero => cases h
  | succ n ih =>
    rw [runFor] at h
    -- what follows begins where the code ends, in the same step
    have hend (x' : Except Value α) {w : World} (hstep : r.step b.suspended = .ofExcept x' w)
        (hx : (some x', { b with world := w }) = (some x, b')) :
        ∃ k < n + 1, ∀ m, runFor (m + k) (r.followed d) b = runFor m (.top (d x b'.world)) b' := by
      obtain ⟨⟨⟩, rfl⟩ := Prod.mk.inj hx
      refine ⟨0, Nat.succ_pos n, fun m => ?_⟩
      rw [Running.eq_ofExcept_of_step hstep, runFor_withWorld m (.top (d x w)) b w]
      cases x <;> rfl
    cases hstep : r.step b.suspended with
    | done a w =>
      rw [hstep] at h
      exact hend (.ok a) hstep h
    | thrown v w =>
      rw [hstep] at h
      exact hend (.error v) hstep h
    | running r' s =>
      rw [hstep] at h
      obtain ⟨k, hk, hrun⟩ := ih h
      refine ⟨k + 1, Nat.succ_lt_succ hk, fun m => ?_⟩
      rw [← hrun, ← Nat.add_assoc, runFor, Running.step_followed, hstep]
      rfl
    | asking c w f =>
      rw [hstep] at h
      obtain ⟨k, hk, hrun⟩ := ih h
      refine ⟨k + 1, Nat.succ_lt_succ hk, fun m => ?_⟩
      rw [← hrun, ← Nat.add_assoc, runFor, Running.step_followed, hstep]
      rfl

/-- What follows a run that is cut off is not come to. -/
theorem runFor_followed_of_none (d : Except Value α → World → Outcome β) {r : Running α}
    (h : (runFor n r b).1 = none) : (runFor n (r.followed d) b).1 = none := by
  induction n generalizing r b with
  | zero => rfl
  | succ n ih =>
    rw [runFor] at h
    rw [runFor, Running.step_followed]
    cases hstep : r.step b.suspended with
    | done a w =>
      rw [hstep] at h
      cases h
    | thrown v w =>
      rw [hstep] at h
      cases h
    | running r s =>
      rw [hstep] at h
      exact ih h
    | asking c w f =>
      rw [hstep] at h
      exact ih h

/-! ### What procedures come to -/

/-- What a procedure comes to on a bridge whose engine was not cut off, in no more than so many
steps. -/
def ComesTo (b : Bridge) (p : Proc α) (n : Nat) (x : Except Value α) (b' : Bridge) : Prop :=
  b.isHalted = false ∧ runFor n (.top (p b.world)) b = (some x, b')

namespace ComesTo

variable {p : Proc α} {f : Except Value α → Proc β}

theorem mono (h : b.ComesTo p n x b') (hnm : n ≤ m) : b.ComesTo p m x b' :=
  ⟨h.1, runFor_of_le h.2 hnm⟩

/-- A procedure comes to one end, however many steps it may take. -/
theorem unique {x' : Except Value α} (h : b.ComesTo p n x b') (h' : b.ComesTo p m x' b₁) :
    x = x' ∧ b' = b₁ := by
  have hx := (h.mono (Nat.le_max_left n m)).2
  have hx' := (h'.mono (Nat.le_max_right n m)).2
  obtain ⟨hsame, hbridge⟩ := Prod.mk.inj (hx.symm.trans hx')
  exact ⟨Option.some.inj hsame, hbridge⟩

/-- It comes to the same end on a bridge with other handles. -/
theorem withHandles (h : b.ComesTo p n x b') (t : HandleTable Value) :
    ComesTo { b with handles := t } p n x { b' with handles := t } := by
  refine ⟨h.1, ?_⟩
  rw [runFor_withHandles, h.2]

/-- The engine was not cut off. -/
theorem isHalted (h : b.ComesTo p n x b') : b'.isHalted = false := by
  have hpre : IsPreorder Bridge fun _ _ => True :=
    { refl := fun _ => trivial, trans := fun _ _ _ _ _ => trivial }
  have F : BridgeM.CoreEngine fun _ _ => True := by
    constructor
    all_goals intros; trivial
  have hrun := (F.runFor n (.top (p b.world)) b h.1).2
  rwa [h.2] at hrun

/-- A procedure that asks for nothing has come to its end. -/
theorem of_ofExcept {w : World} (hb : b.isHalted = false) (hp : p b.world = .ofExcept x w) :
    b.ComesTo p 1 x { b with world := w } := by
  refine ⟨hb, ?_⟩
  rw [hp]
  cases x <;> rfl

theorem pure (hb : b.isHalted = false) (a : α) : b.ComesTo (Pure.pure a) 1 (.ok a) b :=
  of_ofExcept (w := b.world) hb rfl

/-- **What comes behind the end** of a procedure that is attempted: the step of the end is saved. -/
theorem attempt_bind (h : b.ComesTo p n x b') (hf : b'.ComesTo (f x) m y b₁)
    (hl : n + m ≤ l + 1) : b.ComesTo (Proc.attempt p >>= f) l y b₁ := by
  obtain ⟨k, hk, hrun⟩ := runFor_followed (fun r => f r) h.2
  refine ⟨h.1, ?_⟩
  rw [Proc.run_attempt_bind]
  refine runFor_of_le (n := m + k) ?_ (by omega)
  exact (hrun m).trans hf.2

/-- Nothing else is come to: a procedure that is attempted has an end, and something behind that. -/
theorem of_attempt_bind (h : b.ComesTo (Proc.attempt p >>= f) n y b₁) :
    ∃ x b', b.ComesTo p n x b' ∧ b'.ComesTo (f x) n y b₁ := by
  obtain ⟨hb, hrun⟩ := h
  rw [Proc.run_attempt_bind] at hrun
  rcases hp : runFor n (.top (p b.world)) b with ⟨x | x, b'⟩
  · have hnone := runFor_followed_of_none (fun r => f r) (congrArg Prod.fst hp)
    have hsome : (runFor n (.top ((p b.world).followed fun r => f r)) b).1 = some y := by rw [hrun]
    cases hnone.symm.trans hsome
  · have hx : b.ComesTo p n x b' := ⟨hb, hp⟩
    obtain ⟨k, hk, hfollow⟩ := runFor_followed (fun r => f r) hp
    refine ⟨x, b', hx, hx.isHalted, runFor_of_le (n := n - k) ?_ (Nat.sub_le n k)⟩
    rw [← hfollow, Nat.sub_add_cancel (Nat.le_of_lt hk)]
    exact hrun

theorem congr {q : Proc α} (h : b.ComesTo p n x b') (hpq : p b.world = q b.world) :
    b.ComesTo q n x b' := ⟨h.1, hpq ▸ h.2⟩

/-- What comes behind the value of a procedure. -/
theorem bind {a : α} {g : α → Proc β} (h : b.ComesTo p n (.ok a) b')
    (hg : b'.ComesTo (g a) m y b₁) (hl : n + m ≤ l + 1) : b.ComesTo (p >>= g) l y b₁ :=
  (attempt_bind (f := Proc.goOn g) h hg hl).congr (Proc.run_bind_eq_attempt p b.world g).symm

/-- Nothing else is come to: the procedure has a value, and something comes behind that, or what it
throws goes through. -/
theorem of_bind {g : α → Proc β} (h : b.ComesTo (p >>= g) n y b₁) :
    (∃ a b', b.ComesTo p n (.ok a) b' ∧ b'.ComesTo (g a) n y b₁) ∨
      ∃ e, y = .error e ∧ b.ComesTo p n (.error e) b₁ := by
  obtain ⟨x, b', hx, hy⟩ := (h.congr (Proc.run_bind_eq_attempt p b.world g)).of_attempt_bind
  cases x with
  | ok a => exact .inl ⟨a, b', hx, hy⟩
  | error e =>
    obtain ⟨rfl, rfl⟩ := hy.unique (of_ofExcept (x := .error e) (w := b'.world) hx.isHalted rfl)
    exact .inr ⟨e, rfl, hx⟩

end ComesTo

end Bridge

namespace BridgeM

variable {b b' : Bridge} {p : Proc (Except BridgeError α)} {r : Except BridgeError α} {n : Nat}

/-- What a procedure comes to in time is what the host gets. -/
theorem exec_perform_of_comesTo {x : Except Value (Except BridgeError α)} (h : b.ComesTo p n x b')
    (hn : n ≤ Bridge.stepLimit) : exec (perform p) b = (outcomeOf (some x), b') := by
  have hrun : Bridge.runFor Bridge.stepLimit (.top (p b.world)) { b with world := default } =
      (some x, b') := by
    rw [Bridge.runFor_withWorld]
    exact Bridge.runFor_of_le h.2 hn
  have hsame : { b' with isHalted := false } = b' := by rw [← h.isHalted]
  rw [exec_perform, if_neg (Bool.eq_false_iff.1 h.1), hrun]
  exact congrArg (Prod.mk _) hsame

/-- What the host gets of a procedure is what that comes to, unless the engine is or was cut off. -/
theorem cases_of_exec_perform (h : exec (perform p) b = (r, b')) :
    b'.isHalted = true ∧ r = .error (.engine .exhausted) ∨
      ∃ x, b.ComesTo p Bridge.stepLimit x b' ∧ r = outcomeOf (some x) := by
  rw [exec_perform] at h
  split_ifs at h with hb
  · obtain ⟨rfl, rfl⟩ := Prod.mk.inj h
    exact .inl ⟨hb, rfl⟩
  · rw [Bridge.runFor_withWorld] at h
    rcases hrun : Bridge.runFor Bridge.stepLimit (.top (p b.world)) b with ⟨x | x, b₁⟩
    · rw [hrun] at h
      obtain ⟨rfl, rfl⟩ := Prod.mk.inj h
      exact .inl ⟨rfl, rfl⟩
    · have hx : b.ComesTo p Bridge.stepLimit x b₁ := ⟨Bool.eq_false_iff.2 hb, hrun⟩
      rw [hrun] at h
      obtain ⟨rfl, rfl⟩ := Prod.mk.inj h
      refine .inr ⟨x, ?_, rfl⟩
      have hsame : { b₁ with isHalted := false } = b₁ := by rw [← hx.isHalted]
      exact hsame.symm ▸ hx

theorem comesTo_of_exec_perform (h : exec (perform p) b = (r, b')) :
    r = .error (.engine .exhausted) ∨
      ∃ x, b.ComesTo p Bridge.stepLimit x b' ∧ r = outcomeOf (some x) :=
  (cases_of_exec_perform h).imp_left And.right

/-- **What is come to in time is what the host gets**, and it is all that the host gets of an engine
that was not cut off. -/
theorem exec_perform_eq_iff : exec (perform p) b = (r, b') ∧ b'.isHalted = false ↔
    ∃ x, b.ComesTo p Bridge.stepLimit x b' ∧ r = outcomeOf (some x) := by
  constructor
  · rintro ⟨h, hb'⟩
    refine (cases_of_exec_perform h).resolve_left ?_
    rintro ⟨hhalted, -⟩
    cases hhalted.symm.trans hb'
  · rintro ⟨x, hx, rfl⟩
    exact ⟨exec_perform_of_comesTo hx (Nat.le_refl _), hx.isHalted⟩

/-- Procedures that begin the same take the same run. -/
theorem exec_perform_congr {q : Proc (Except BridgeError α)} (h : p b.world = q b.world) :
    exec (perform p) b = exec (perform q) b := by
  rw [exec_perform, exec_perform, h]

/-! ### What the host is told -/

/-- The host is told what is made of the value of a procedure, or how what it threw is described. -/
def told (f : α → Except BridgeError β) : Except Value α → Proc (Except BridgeError β)
  | .ok a => pure (f a)
  | .error e => do return .error (.ofException (← Exchange.describe e))

variable {f : α → Except BridgeError β} {q : Proc α}

/-- **Evaluating a crossing** that makes something of the value of a procedure. -/
theorem exec_evaluate {c : Crossing β} {g : α → Except EngineFault β}
    (hc : ∀ w, c.run w = (q >>= fun a => pure (g a)) w) (b : Bridge) : exec (evaluate c) b =
      exec (perform (Proc.attempt q >>= told fun a => (g a).mapError .engine)) b := by
  refine exec_perform_congr ?_
  rw [Proc.run_attempt_bind, hc, ← Proc.run_attempt_bind, Proc.run_attempt_bind_attempt,
    Proc.run_attempt_bind, Proc.run_attempt_bind]
  refine congrArg (fun f => (q b.world).followed f) (funext fun x => funext fun w => ?_)
  cases x with
  | ok a =>
    simp only [told]
    cases g a <;> rfl
  | error e => rfl

theorem exec_told_of_ok {a : α} (ha : b.ComesTo q n (.ok a) b') (hn : n ≤ Bridge.stepLimit) :
    exec (perform (Proc.attempt q >>= told f)) b = (f a, b') :=
  exec_perform_of_comesTo (x := .ok (f a))
    (ha.attempt_bind (f := told f) (.pure ha.isHalted (f a)) (Nat.le_refl (n + 1))) hn

theorem exec_told_of_error {e : Value} {d : ScriptException} {b₁ : Bridge} {m : Nat}
    (he : b.ComesTo q n (.error e) b') (hd : b'.ComesTo (Exchange.describe e) m (.ok d) b₁)
    (hn : n + m ≤ Bridge.stepLimit + 1) :
    exec (perform (Proc.attempt q >>= told f)) b = (.error (.ofException d), b₁) := by
  have htold : b'.ComesTo (told f (.error e)) m (.ok (.error (.ofException d))) b₁ :=
    hd.bind (.pure hd.isHalted _) (Nat.le_refl _)
  exact exec_perform_of_comesTo (he.attempt_bind htold hn) (Nat.le_refl _)

end BridgeM

end ScriptBridge
