import ScriptBridge.Bridge.Basic

/-!
# What procedures come to

What a procedure asks for may answer anything.  `Proc.Only p P E` says what the procedure `p` itself
comes to, whatever the answers are: values of which `P` holds, and thrown values only if `E`.

* `Only.bind`, `Only.attempt`, … : a rule for each way of making a procedure.
* `Bridge.runFor_only` : **a run of the engine comes to nothing else.**
-/

namespace ScriptBridge

namespace Script

variable {α β : Type} {P : α → Prop} {Q : β → Prop} {E : Prop}

/-- It comes to values of which `P` holds, and to thrown values only if `E`. -/
def Outcome.Only (P : α → Prop) (E : Prop) : Outcome α → Prop
  | .done a _ => P a
  | .thrown _ _ => E
  | .ask _ _ k => ∀ r w, (k r w).Only P E

namespace Outcome.Only

theorem bind {o : Outcome α} {f : α → World → Outcome β} (h : o.Only P E)
    (hf : ∀ a, P a → ∀ w, (f a w).Only Q E) : (o.bind f).Only Q E := by
  induction o with
  | done a w => exact hf a h w
  | thrown v w => exact h
  | ask q w k ih => exact fun r w' => ih r w' (h r w')

theorem handle {o : Outcome α} {f : Value → World → Outcome α} {E' : Prop} (h : o.Only P E)
    (hf : E → ∀ v w, (f v w).Only P E') : (o.handle f).Only P E' := by
  induction o with
  | done a w => exact h
  | thrown v w => exact hf h v w
  | ask q w k ih => exact fun r w' => ih r w' (h r w')

theorem mono {o : Outcome α} {E' : Prop} (h : o.Only P E) (hE : E → E') : o.Only P E' := by
  induction o with
  | done a w => exact h
  | thrown v w => exact hE h
  | ask q w k ih => exact fun r w' => ih r w' (h r w')

theorem any (o : Outcome α) : o.Only (fun _ => True) True := by
  induction o with
  | done a w => trivial
  | thrown v w => trivial
  | ask q w k ih => exact fun r w' => ih r w'

end Outcome.Only

namespace Proc

/-- It comes to values of which `P` holds, and throws only if `E`. -/
def Only (P : α → Prop) (E : Prop) (p : Proc α) : Prop := ∀ w, (p w).Only P E

namespace Only

variable {p : Proc α} {f : α → Proc β}

theorem pure {a : α} (h : P a) : Only P E (Pure.pure a : Proc α) := fun _ => h

theorem bind (h : Only P E p) (hf : ∀ a, P a → Only Q E (f a)) : Only Q E (p >>= f) :=
  fun w => (h w).bind hf

theorem any (p : Proc α) : Only (fun _ => True) True p := fun w => .any (p w)

theorem mono {E' : Prop} (h : Only P E p) (hE : E → E') : Only P E' p := fun w => (h w).mono hE

theorem world : Only (fun _ => True) False world := fun _ => trivial

/-- An attempt throws nothing. -/
theorem attempt (h : Only P E p) :
    Only (fun r => (∃ a, r = .ok a ∧ P a) ∨ E ∧ ∃ v, r = .error v) False (attempt p) := by
  intro w
  refine Outcome.Only.handle (E := E) ?_ fun hE v w => .inr ⟨hE, v, rfl⟩
  exact (h w).bind fun a ha w => .inl ⟨a, rfl, ha⟩

end Only

end Proc

/-! ### The machine -/

/-- The procedure that runs has a property, also where it goes on when what it called has
returned. -/
def Running.Has (C : Outcome α → Prop) : Running α → Prop
  | .top o => C o
  | .inner _ _ base => ∀ r w, C (base.resume r w)

/-- What a step comes to has the property, or what it leads to. -/
def Progress.Has (C : Outcome α → Prop) : Progress α → Prop
  | .done a w => C (.done a w)
  | .thrown v w => C (.thrown v w)
  | .running r _ => r.Has C
  | .asking _ _ k => ∀ r w, (k r w).Has C

namespace Running

variable {C : Outcome α → Prop}

section

variable {base : Base α} (h : ∀ r w, C (base.resume r w))

include h

theorem has_deliver (r : Except Value Reply) (w : World) (stack : List Frame) :
    (deliver r w stack base).Has C := by
  cases stack with
  | nil => exact h r w
  | cons f rest => exact h

theorem has_revive (id : Nat) (r : Except Value Reply) (w : World) (stack : List Frame)
    (s : Suspended) : (revive id r w stack base s).1.Has C := by
  unfold revive
  split
  all_goals exact has_deliver h _ _ _

theorem has_answer (q : Request) (w : World) (stack : List Frame) (s : Suspended) :
    (answer q w stack base s).Has C := by
  unfold answer
  split
  · exact has_deliver h _ _ _
  · exact fun _ _ => has_deliver h _ _ _
  · exact has_deliver h _ _ _
  · exact has_deliver h _ _ _
  · exact has_revive h _ _ _ _ _
  · exact h

end

/-- **One step keeps** a property that an outcome keeps when it gets the replies to its requests. -/
theorem Has.step (hC : ∀ q w k, C (.ask q w k) → ∀ r w', C (k r w')) {r : Running α} (h : r.Has C)
    (s : Suspended) : (r.step s).Has C := by
  unfold Running.step
  split
  · exact h
  · exact h
  · rename_i q w k
    have hnext : ∀ r w', C ((⟨q.mark w, k⟩ : Base α).resume r w') := hC q w k h
    exact has_answer hnext _ _ _ _
  · exact has_deliver h _ _ _
  · exact h
  · exact has_deliver h _ _ _
  · exact has_answer h _ _ _ _

end Running

end Script

open Script

namespace Bridge

variable {α : Type} {P : α → Prop} {E : Prop}

/-- What a run of the engine comes to, unless it is cut off. -/
theorem runFor_only {r : Running α} (h : r.Has (Outcome.Only P E)) (fuel : Nat) (b : Bridge) :
    (runFor fuel r b).1 = none ∨ (∃ a, (runFor fuel r b).1 = some (.ok a) ∧ P a) ∨
      ∃ v, (runFor fuel r b).1 = some (.error v) ∧ E := by
  induction fuel generalizing r b with
  | zero => exact .inl rfl
  | succ fuel ih =>
    have hstep := h.step (fun _ _ _ hask => hask) b.suspended
    rw [runFor]
    cases hp : r.step b.suspended with
    | done a w => exact .inr (.inl ⟨a, rfl, by rwa [hp] at hstep⟩)
    | thrown v w => exact .inr (.inr ⟨v, rfl, by rwa [hp] at hstep⟩)
    | running r s =>
      rw [hp] at hstep
      exact ih hstep _
    | asking c w k =>
      rw [hp] at hstep
      exact ih (hstep _ _) _

end Bridge

end ScriptBridge
