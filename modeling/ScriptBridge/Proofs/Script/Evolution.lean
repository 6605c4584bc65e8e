import ScriptBridge.Script.Machine

/-!
# Worlds evolve while the machine runs

Every procedure leads to worlds that have evolved (`Proc.evolves`).  The machine puts procedures
together from parts that wait for replies: frames on its stack, and suspended code.  Here all of
these parts are shown to be tame: whatever reply they get, they lead to worlds that have evolved.

* `Running.Evolves.step` : **one step of the machine** leads to a world that has evolved, and all
  that waits after it is tame.
* `World.settled_conclude`, `World.holds_conclude` : a held promise that is settled from outside
  leaves all others as they are.
-/

namespace ScriptBridge.Script

variable {α : Type}

/-- What waits for a reply leads to evolved worlds, whatever the reply is. -/
def Tame (resume : Except Value Reply → World → Outcome α) : Prop :=
  ∀ r w, (resume r w).Evolves w

/-- All frames are tame. -/
def TameStack (stack : List Frame) : Prop := ∀ f ∈ stack, Tame f.resume

/-- All suspended code is tame. -/
def Suspended.IsTame (s : Suspended) : Prop := ∀ e ∈ s, TameStack e.2

/-- What runs leads from a world to evolved worlds, and all that waits is tame. -/
def Running.Evolves (w : World) : Running α → Prop
  | .top o => o.Evolves w
  | .inner o stack base => o.Evolves w ∧ TameStack stack ∧ Tame base.resume

/-- The same of what a step comes to. -/
def Progress.Evolves (w : World) : Progress α → Prop
  | .done _ w' => w.Evolves w'
  | .thrown _ w' => w.Evolves w'
  | .running r s => r.Evolves w ∧ s.IsTame
  | .asking _ w' k => w.Evolves w' ∧ ∀ r w'', (k r w'').Evolves w''

variable {w w' : World}

theorem Running.Evolves.trans {r : Running α} (hw : w.Evolves w') (h : r.Evolves w') :
    r.Evolves w := by
  cases r with
  | top o => exact Outcome.Evolves.trans hw h
  | inner o stack base => exact ⟨Outcome.Evolves.trans hw h.1, h.2⟩

theorem Progress.Evolves.trans {p : Progress α} (hw : w.Evolves w') (h : p.Evolves w') :
    p.Evolves w := by
  cases p with
  | done a w'' => exact World.Evolves.trans hw h
  | thrown v w'' => exact World.Evolves.trans hw h
  | running r s => exact ⟨.trans hw h.1, h.2⟩
  | asking c w'' k => exact ⟨.trans hw h.1, h.2⟩

namespace Running

variable {stack : List Frame} {base : Base α} {s : Suspended}

section

variable (hbase : Tame base.resume)

include hbase

theorem evolves_deliver (r : Except Value Reply) (hstack : TameStack stack) :
    (deliver r w stack base).Evolves w := by
  cases stack with
  | nil => exact hbase r w
  | cons f rest =>
    exact ⟨hstack f List.mem_cons_self r w, fun g hg => hstack g (List.mem_cons_of_mem f hg), hbase⟩

theorem evolves_suspend (r : Reply) (hstack : TameStack stack) (hs : s.IsTame) :
    (suspend r w stack base s).1.Evolves w ∧ (suspend r w stack base s).2.IsTame := by
  constructor
  · have hnext : w.Evolves { w with nextWait := w.nextWait + 1 } :=
      .of_objects rfl List.prefix_rfl
    refine .trans hnext (evolves_deliver hbase _ fun f hf => ?_)
    exact hstack f ((List.dropWhile_sublist _).subset hf)
  · rintro e he f hf
    obtain rfl | he := List.mem_cons.1 he
    · exact hstack f ((List.takeWhile_sublist _).subset hf)
    · exact hs e he f hf

theorem evolves_revive (id : Nat) (r : Except Value Reply) (hstack : TameStack stack)
    (hs : s.IsTame) :
    (revive id r w stack base s).1.Evolves w ∧ (revive id r w stack base s).2.IsTame := by
  unfold revive
  split
  · rename_i segment hsegment
    have hmem : (id, segment) ∈ s := by
      obtain ⟨l₁, l₂, hl, -⟩ := List.lookup_eq_some_iff.1 hsegment
      rw [hl]
      exact List.mem_append_right _ List.mem_cons_self
    refine ⟨evolves_deliver hbase r fun f hf => ?_, fun e he => hs e (List.mem_filter.1 he).1⟩
    obtain hf | hf := List.mem_append.1 hf
    · exact hs _ hmem f hf
    · exact hstack f hf
  · exact ⟨evolves_deliver hbase _ hstack, hs⟩

/-- Answering a request keeps what waits tame. -/
theorem evolves_answer (q : Request) (hstack : TameStack stack) (hs : s.IsTame) :
    (answer q w stack base s).Evolves w := by
  unfold answer
  split
  · exact ⟨evolves_deliver hbase _ hstack, hs⟩
  · exact ⟨.refl w, fun r w' => evolves_deliver hbase _ hstack⟩
  · rename_i v
    obtain ⟨hr, hs'⟩ := evolves_suspend (w := awaitIn v w.nextWait w) hbase .nothing hstack hs
    refine ⟨.trans ?_ hr, hs'⟩
    unfold awaitIn
    split
    · exact w.evolves_addReactions _ _ _
    · exact .refl w
  · exact evolves_suspend hbase _ hstack hs
  · exact evolves_revive hbase _ _ hstack hs
  · exact ⟨⟨q.run.evolves w, hstack, hbase⟩, hs⟩

end

/-- **One step leads to a world that has evolved**, and all that waits after it is tame. -/
theorem Evolves.step {r : Running α} (h : r.Evolves w) (hs : s.IsTame) : (r.step s).Evolves w := by
  unfold Running.step
  split
  · exact h
  · exact h
  · rename_i q w' k
    let base : Base α := ⟨q.mark w', k⟩
    have hbase : Tame base.resume := h.2
    exact .trans h.1 (evolves_answer hbase q (List.forall_mem_nil _) hs)
  · exact ⟨.trans h.1 (evolves_deliver h.2.2 _ h.2.1), hs⟩
  · exact ⟨⟨.trans h.1 (Proc.evolves _ _), h.2⟩, hs⟩
  · exact ⟨.trans h.1 (evolves_deliver h.2.2 _ h.2.1), hs⟩
  · refine .trans h.1.1 (evolves_answer h.2.2 _ (fun f hf => ?_) hs)
    obtain rfl | hf := List.mem_cons.1 hf
    · exact h.1.2
    · exact h.2.1 f hf

end Running

/-! ### Settling from outside -/

namespace World

variable {w : World} {p : Ref}

/-- A promise that nothing else has seen yet is held. -/
theorem holds_push (hw : w.Placed) (proto : Ref) :
    (w.push (pendingPromise proto)).Holds w.objects.size where
  pending := ⟨[], [], by rw [promise?_eq_some_iff, kind?_push, if_pos rfl]; rfl⟩
  unsettled h := by
    obtain ⟨used, hs⟩ | hs := hasSettler_push h
    · cases hs
    · exact Nat.lt_irrefl _ (hw _ hs)

/-- Settling a held promise changes its state. -/
theorem promise?_settle (hp : w.Holds p) (rejected : Bool) (v : Value) (q : Ref) :
    (w.settle p rejected v).promise? q =
      if p = q then some (if rejected then .rejected v else .fulfilled v) else w.promise? q := by
  obtain ⟨f, r, hs⟩ := hp.pending
  rw [settle, hs]
  exact promise?_setPromise hs _ q

theorem hasSettler_settle (hp : w.Holds p) (rejected : Bool) (v : Value) (q : Ref) :
    (w.settle p rejected v).HasSettler q ↔ w.HasSettler q := by
  obtain ⟨f, r, hs⟩ := hp.pending
  rw [settle, hs]
  exact hasSettler_setPromise hs _ q

theorem size_settle (w : World) (p : Ref) (rejected : Bool) (v : Value) :
    (w.settle p rejected v).objects.size = w.objects.size := by
  unfold settle
  split
  · simp [schedule, setPromise, modify]
  · rfl

variable (hp : w.Holds p) (verdict : Verdict)

include hp

/-- Settlers are still for promises that are there. -/
theorem placed_conclude (hw : w.Placed) : (w.conclude p verdict).Placed := by
  have hsettle (rejected : Bool) (v : Value) : (w.settle p rejected v).Placed := fun q hq => by
    rw [size_settle]
    exact hw q ((hasSettler_settle hp rejected v q).1 hq)
  cases verdict with
  | fulfill v => exact hsettle false v
  | reject v => exact hsettle true v
  | follow thenable method =>
    intro q hq
    suffices q < w.objects.size from Nat.lt_of_lt_of_le this (by simp [conclude, addSettler, push])
    obtain ⟨used, hs⟩ | hs := hasSettler_push hq
    · cases hs
      exact hp.lt
    · exact hw q hs

/-- No other promise changes. -/
theorem promise?_conclude {q : Ref} (hq : q < w.objects.size) (hne : p ≠ q) :
    (w.conclude p verdict).promise? q = w.promise? q := by
  have hsettle (rejected : Bool) (v : Value) :
      (w.settle p rejected v).promise? q = w.promise? q := by
    rw [promise?_settle hp, if_neg hne]
  cases verdict with
  | fulfill v => exact hsettle false v
  | reject v => exact hsettle true v
  | follow thenable method => exact promise?_push hq _

/-- Settled promises stay as they are. -/
theorem settled_conclude {q : Ref} {s : PromiseState} (hs : w.promise? q = some s)
    (hsettled : s.isSettled = true) : (w.conclude p verdict).promise? q = some s := by
  have hne : p ≠ q := by
    rintro rfl
    obtain ⟨f, r, hpending⟩ := hp.pending
    rw [hs] at hpending
    cases hpending
    cases hsettled
  rw [promise?_conclude hp verdict (lt_of_kind? (promise?_eq_some_iff.1 hs)) hne, hs]

/-- The other held promises are still held. -/
theorem holds_conclude {q : Ref} (hq : w.Holds q) (hne : p ≠ q) :
    (w.conclude p verdict).Holds q where
  pending := by
    rw [promise?_conclude hp verdict hq.lt hne]
    exact hq.pending
  unsettled h := by
    cases verdict with
    | fulfill v => exact hq.unsettled ((hasSettler_settle hp false v q).1 h)
    | reject v => exact hq.unsettled ((hasSettler_settle hp true v q).1 h)
    | follow thenable method =>
      obtain ⟨used, hs⟩ | hs := hasSettler_push h
      · cases hs
        exact hne rfl
      · exact hq.unsettled hs

end World

end ScriptBridge.Script
