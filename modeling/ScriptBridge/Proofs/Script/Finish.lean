import ScriptBridge.Proofs.Script.Sequence

/-!
# What is made of the end of a run

Many procedures run another one and then only look at what it came to, and at the world after it.
Such a procedure asks for nothing more, so a run of it takes the same steps as a run of the first.

* `Bridge.runFor_finish` : a run of the longer procedure ends **with what is made of the end** of a
  run of the shorter one.
* `BridgeM.exec_perform_of_finish`, `BridgeM.exec_evaluate_map` : the same of programs on a bridge.
-/

namespace ScriptBridge

namespace Script

variable {α β : Type}

/-- Something is made of the end of an outcome, and of the world there. -/
def Outcome.finish (d : Except Value α → World → Except Value β) : Outcome α → Outcome β
  | .done a w => .ofExcept (d (.ok a) w) w
  | .thrown v w => .ofExcept (d (.error v) w) w
  | .ask q w k => .ask q w fun r w => (k r w).finish d

namespace Outcome

theorem finish_finish {γ : Type} (o : Outcome α) (d : Except Value α → World → Except Value β)
    (c : Except Value β → World → Except Value γ) :
    (o.finish d).finish c = o.finish fun r w => c (d r w) w := by
  have hend (r : Except Value β) (w : World) : (ofExcept r w).finish c = ofExcept (c r w) w := by
    cases r <;> rfl
  induction o with
  | done a w => exact hend _ _
  | thrown v w => exact hend _ _
  | ask q w k ih => simp only [finish, ih]

/-- Going on with something that ends at once is making something of the end. -/
theorem bind_ofExcept (o : Outcome α) (f : α → World → Except Value β) :
    (o.bind fun a w => .ofExcept (f a w) w) = o.finish fun r w => r.bind fun a => f a w := by
  induction o with
  | done a w => rfl
  | thrown v w => rfl
  | ask q w k ih => simp only [bind, finish, ih]

/-- Going on with what was made of the end. -/
theorem bind_finish_ok {γ : Type} (o : Outcome α) (d : Except Value α → World → β)
    (f : β → World → Outcome γ) :
    (o.finish fun r w => .ok (d r w)).bind f =
      (o.finish fun r _ => .ok r).bind fun r w => f (d r w) w := by
  induction o with
  | done a w => rfl
  | thrown v w => rfl
  | ask q w k ih => simp only [bind, finish, ih]

/-- Going on with what was made of the end, and ending at once. -/
theorem bind_finish {γ : Type} (o : Outcome α) (d : Except Value α → World → β)
    {f : β → World → Outcome γ} {c : Except Value α → World → Except Value γ}
    (hf : ∀ r w, f (d r w) w = ofExcept (c r w) w) :
    (o.finish fun r w => .ok (d r w)).bind f = o.finish c := by
  induction o with
  | done a w => exact hf _ _
  | thrown v w => exact hf _ _
  | ask q w k ih => simp only [finish, bind, ih]

/-- Changing the value that the end comes to, after something else. -/
theorem finish_bind {γ : Type} (o : Outcome α) (f : α → World → Outcome β) (g : β → γ) :
    (o.bind f).finish (fun r _ => r.map g) =
      o.bind fun a w => (f a w).finish fun r _ => r.map g := by
  induction o with
  | done a w => rfl
  | thrown v w => rfl
  | ask q w k ih => simp only [bind, finish, ih]

end Outcome

namespace Proc

theorem run_bind (p : Proc α) (f : α → Proc β) (w : World) :
    (p >>= f) w = (p w).bind fun a => f a := rfl

theorem run_attempt (p : Proc α) (w : World) : attempt p w = (p w).finish fun r _ => .ok r := by
  have h (o : Outcome α) : (o.bind fun a w => .done (.ok a) w).handle
      (fun v w => .done (.error v) w) = o.finish fun r _ => .ok r := by
    induction o with
    | done a w => rfl
    | thrown v w => rfl
    | ask q w k ih => simp only [Outcome.bind, Outcome.handle, Outcome.finish, ih]
  exact h (p w)

end Proc

/-- Something is made of the end of a run. -/
def Running.finish (d : Except Value α → World → Except Value β) : Running α → Running β
  | .top o => .top (o.finish d)
  | .inner o stack base => .inner o stack ⟨base.mark, fun r w => (base.resume r w).finish d⟩

/-- Something is made of the end that a step may come to. -/
def Progress.finish (d : Except Value α → World → Except Value β) : Progress α → Progress β
  | .done a w => .ofExcept (d (.ok a) w) w
  | .thrown v w => .ofExcept (d (.error v) w) w
  | .running r s => .running (r.finish d) s
  | .asking h w k => .asking h w fun r w => (k r w).finish d

section

variable (d : Except Value α → World → Except Value β)

/-- Making something of the end is going on with something that ends at once. -/
theorem Outcome.finish_eq_followed (o : Outcome α) :
    o.finish d = o.followed fun r w => .ofExcept (d r w) w := by
  induction o with
  | done a w => rfl
  | thrown v w => rfl
  | ask q w k ih => simp only [finish, followed, ih]

theorem Running.finish_eq_followed (r : Running α) :
    r.finish d = r.followed fun r w => .ofExcept (d r w) w := by
  cases r <;> simp only [finish, followed, Outcome.finish_eq_followed]

/-- The same step is taken. -/
theorem Running.step_finish (r : Running α) (s : Suspended) :
    (r.finish d).step s = (r.step s).finish d := by
  have hend (r : Except Value β) (w : World) :
      (Running.top (.ofExcept r w)).step s = .ofExcept r w := by
    cases r <;> rfl
  rw [finish_eq_followed, step_followed]
  cases r.step s with
  | done a w => exact hend _ w
  | thrown v w => exact hend _ w
  | running r s => simp only [Progress.followed, Progress.finish, finish_eq_followed]
  | asking h w k => simp only [Progress.followed, Progress.finish, finish_eq_followed]

end

end Script

open Script

variable {α β : Type}

/-- **A run ends with what is made of the end**, unless it is cut off. -/
theorem Bridge.runFor_finish (d : Except Value α → World → Except Value β) (fuel : Nat)
    (r : Running α) (b : Bridge) :
    runFor fuel (r.finish d) b =
      ((runFor fuel r b).1.map fun e => d e (runFor fuel r b).2.world, (runFor fuel r b).2) := by
  induction fuel generalizing r b with
  | zero =>
    have hend (r : Except Value β) (w : World) : (Outcome.ofExcept r w).world = w := by
      cases r <;> rfl
    cases r with
    | top o =>
      cases o with
      | done a w => simp only [runFor, Running.finish, Outcome.finish, Running.world, hend]; rfl
      | thrown v w => simp only [runFor, Running.finish, Outcome.finish, Running.world, hend]; rfl
      | ask q w k => rfl
    | inner o stack base => rfl
  | succ fuel ih =>
    simp only [runFor, Running.step_finish]
    cases r.step b.suspended with
    | done a w =>
      change _ = (some (d (.ok a) w), { b with world := w })
      simp only [Progress.finish]
      cases d (.ok a) w <;> rfl
    | thrown v w =>
      change _ = (some (d (.error v) w), { b with world := w })
      simp only [Progress.finish]
      cases d (.error v) w <;> rfl
    | running r s => exact ih r { b with suspended := s }
    | asking h w k => exact ih _ _

/-- A run that has come to its end already. -/
theorem Bridge.runFor_ofExcept (r : Except Value α) (w : World) (b : Bridge) :
    runFor stepLimit (.top (.ofExcept r w)) b = (some r, { b with world := w }) := by
  have hlimit : stepLimit = stepLimit - 1 + 1 := rfl
  rw [hlimit]
  cases r <;> rfl

namespace BridgeM

/-- A procedure that ends at once, with the world as it was. -/
theorem exec_perform_ofExcept {p : Proc (Except BridgeError α)} {b : Bridge}
    (hb : b.isHalted = false) {r : Except Value (Except BridgeError α)}
    (hp : p b.world = .ofExcept r b.world) : exec (perform p) b = (outcomeOf (some r), b) := by
  have hsame : { b with isHalted := false } = b := by rw [← hb]
  rw [exec_perform, if_neg (Bool.eq_false_iff.1 hb), hp, Bridge.runFor_ofExcept]
  exact congrArg (Prod.mk _) hsame

/-- Evaluating what ends at once, with the world as it was. -/
theorem exec_evaluate_of_done {p : Crossing α} {b : Bridge} {a : α} (hb : b.isHalted = false)
    (hp : p.run b.world = .done (.ok a) b.world) : exec (evaluate p) b = (.ok a, b) := by
  refine exec_perform_ofExcept (r := .ok (.ok a)) hb ?_
  rw [Proc.run_bind, Proc.run_attempt, hp]
  rfl

theorem exec_value {b : Bridge} {h : Handle} {v : Value} (hh : b.handles.get h = .ok v) :
    exec (value h) b = (.ok v, b) := by
  rw [value, exec_bind, exec_get]
  simp only [exec_ofExcept, hh]

/-- A procedure that only makes something of the end of another one takes the same run. -/
theorem exec_perform_finish {p : Proc α} {q : Proc (Except BridgeError β)}
    {d : Except Value α → World → Except Value (Except BridgeError β)}
    (hq : ∀ w, q w = (p w).finish d) (b : Bridge) :
    exec (perform q) b =
      if b.isHalted then (.error (.engine .exhausted), b)
      else
        let run := Bridge.runFor Bridge.stepLimit (.top (p b.world)) { b with world := default }
        (outcomeOf (run.1.map fun r => d r run.2.world),
          { run.2 with isHalted := run.1.isNone }) := by
  rw [exec_perform, hq]
  have hrun :=
    Bridge.runFor_finish d Bridge.stepLimit (.top (p b.world)) { b with world := default }
  rw [Running.finish] at hrun
  simp only [hrun, Option.isNone_map]

/-- What the host needs: whatever it throws, the engine has refused it. -/
theorem exec_require (p : Proc α) (b : Bridge) : exec (require p) b =
    if b.isHalted then (.error (.engine .exhausted), b)
    else
      let run := Bridge.runFor Bridge.stepLimit (.top (p b.world)) { b with world := default }
      (outcomeOf (run.1.map fun r => .ok (r.mapError fun _ => .engine .refused)),
        { run.2 with isHalted := run.1.isNone }) := by
  refine exec_perform_finish (d := fun r _ => .ok (r.mapError fun _ => .engine .refused))
    (fun w => ?_) b
  rw [Proc.run_bind, Proc.run_attempt]
  refine Outcome.bind_finish _ _ fun r w => ?_
  cases r <;> rfl

theorem exec_require_of_done {p : Proc α} {b : Bridge} {a : α} {w : World}
    (hb : b.isHalted = false) (hp : p b.world = .done a w) :
    exec (require p) b = (.ok a, { b with world := w }) := by
  have hrun : Bridge.runFor Bridge.stepLimit (.top (.done a w)) { b with world := default } =
      (some (.ok a), { b with world := w }) := Bridge.runFor_ofExcept (.ok a) w _
  rw [exec_require, if_neg (Bool.eq_false_iff.1 hb), hp]
  simp only [hrun, Option.isNone_some, ← hb]
  rfl

/-- What a procedure comes to: a value, or what it throws. -/
def outcome (p : Proc α) : BridgeM (Except Value α) := perform do return .ok (← Proc.attempt p)

theorem exec_outcome_of_comesTo {p : Proc α} {b b' : Bridge} {n : Nat} {x : Except Value α}
    (h : b.ComesTo p n x b') (hn : n ≤ Bridge.stepLimit) : exec (outcome p) b = (.ok x, b') := by
  let look (x : Except Value α) : Proc (Except BridgeError (Except Value α)) := pure (.ok x)
  have hlook : b'.ComesTo (look x) 1 (.ok (.ok x)) b' := .pure h.isHalted _
  exact exec_perform_of_comesTo (h.attempt_bind hlook (Nat.le_refl (n + 1))) hn

/-- **A procedure that only looks at the end of another one** comes to what is made of that. -/
theorem exec_perform_of_finish {p : Proc α} {q : Proc (Except BridgeError β)}
    {d : Except Value α → World → Except BridgeError β}
    (hq : ∀ w, q w = (p w).finish fun r w => .ok (d r w)) (b : Bridge) :
    exec (perform q) b =
      match exec (outcome p) b with
      | (.ok r, b') => (d r b'.world, b')
      | (.error e, b') => (.error e, b') := by
  have hlook (w : World) : (do return .ok (← Proc.attempt p) : Proc (Except BridgeError _)) w =
      (p w).finish fun r _ => .ok (.ok r) := by
    rw [Proc.run_bind, Proc.run_attempt]
    exact Outcome.bind_finish _ _ fun _ _ => rfl
  rw [outcome, exec_perform_finish hq, exec_perform_finish hlook]
  split_ifs with hb
  · rfl
  · simp only
    cases (Bridge.runFor Bridge.stepLimit (.top (p b.world)) { b with world := default }).1 with
    | none => rfl
    | some r => rfl

/-- A procedure that changes the value of another one. -/
theorem exec_perform_map {p : Proc (Except BridgeError α)} {q : Proc (Except BridgeError β)}
    {f : α → β} (hq : ∀ w, q w = (p w).finish fun r _ => r.map (Except.map f)) (b : Bridge) :
    exec (perform q) b = ((exec (perform p) b).1.map f, (exec (perform p) b).2) := by
  rw [exec_perform_finish hq, exec_perform]
  split_ifs with hb
  · rfl
  · simp only
    rcases (Bridge.runFor Bridge.stepLimit (.top (p b.world)) { b with world := default }).1 with
      _ | _ | _
    all_goals rfl

/-- **Evaluating what is made of the value of a crossing.** -/
theorem exec_evaluate_map (f : α → β) (p : Crossing α) (b : Bridge) :
    exec (evaluate (f <$> p)) b = ((exec (evaluate p) b).1.map f, (exec (evaluate p) b).2) := by
  have hcross (w : World) :
      (f <$> p).run w = (p.run w).finish fun r _ => r.bind fun a => .ok (a.map f) := by
    refine Eq.trans ?_ (Outcome.bind_ofExcept (p.run w) fun a _ => .ok (a.map f))
    refine congrArg (Outcome.bind (p.run w)) (funext fun a => funext fun w => ?_)
    cases a <;> rfl
  refine exec_perform_map (fun w => ?_) b
  rw [Proc.run_bind, Proc.run_bind, Proc.run_attempt, Proc.run_attempt, hcross,
    Outcome.finish_finish, Outcome.bind_finish_ok, Outcome.finish_bind]
  refine congrArg (Outcome.bind _) (funext fun r => funext fun w => ?_)
  rcases r with v | e | a
  · exact (Outcome.finish_bind (Exchange.describe v w)
      (fun e w => .done (.error (BridgeError.ofException e)) w) (Except.map f)).symm
  · rfl
  · rfl

end BridgeM

end ScriptBridge
