import ScriptBridge.Proofs.Script.Failure
import ScriptBridge.Proofs.Script.Outcome

/-!
# A procedure above other code

The host runs a procedure by itself; a built-in function runs the same procedure above the code that
called it.  What is below can be told in two ways only: an error remembers whether anything shows up
in stack traces, and code that waits for a promise takes along what is above the innermost async
code.

* `Outcome.Calls` : a procedure that only **calls functions** and makes an error that it throws.
* `Bridge.LooksOut` : functions that a procedure calls **ask for what is below all of them**.
* `Running.step_inside` : as long as they do not, **the same step is taken above other code**.
* `Bridge.runFor_inside`, `Bridge.runFor_inside_of_none` : and so is the same run, as far as it
  goes; only an error that a procedure makes itself remembers another place (`Bridge.SameError`).
-/

namespace ScriptBridge

namespace Script

variable {α β : Type}

/-! ### What a procedure asks for -/

/-- An error of the engine that was made in a world is thrown. -/
def Outcome.refused (type : ErrorType) (message : String) (w : World) (traced : Bool) : Outcome α :=
  .thrown (.object w.objects.size) (w.push (newError (Intrinsic.errorProto type) message traced))

/-- What a procedure asks for is the call of a function, or else what an error needs that it throws
then. -/
def Outcome.Calls : Outcome α → Prop
  | .done _ _ | .thrown _ _ => True
  | .ask q w k => ((∃ f this args, q = .call f this args) ∨ q = .traced ∧
      ∃ type message, ∀ traced, k (.ok (.flag traced)) w = .refused type message w traced) ∧
      ∀ r w', (k r w').Calls

theorem Outcome.Calls.bind {o : Outcome α} {f : α → World → Outcome β} (h : o.Calls)
    (hf : ∀ a w, (f a w).Calls) : (o.bind f).Calls := by
  induction o with
  | done a w => exact hf a w
  | thrown v w => trivial
  | ask q w k ih =>
    refine ⟨h.1.imp_right fun ⟨hq, type, message, hk⟩ => ⟨hq, type, message, fun traced => ?_⟩,
      fun r w' => ih r w' (h.2 r w')⟩
    change (k (.ok (.flag traced)) w).bind f = _
    rw [hk]
    rfl

namespace Proc

/-- A procedure only calls functions and makes an error that it throws. -/
def Calls (p : Proc α) : Prop := ∀ w, (p w).Calls

namespace Calls

variable {p : Proc α} {f : α → Proc β}

theorem pure (a : α) : Calls (Pure.pure a : Proc α) := fun _ => trivial

theorem bind (h : Calls p) (hf : ∀ a, Calls (f a)) : Calls (p >>= f) :=
  fun w => (h w).bind fun a => hf a

theorem ite {c : Prop} [Decidable c] {q : Proc α} (hp : Calls p) (hq : Calls q) :
    Calls (if c then p else q) := by
  split_ifs
  · exact hp
  · exact hq

theorem world : Calls world := fun _ => trivial

theorem object (r : Ref) : Calls (object r) := world.bind fun _ => .pure _

theorem isCallable (v : Value) : Calls (isCallable v) := by
  unfold Proc.isCallable
  split
  · exact (object _).bind fun _ => .pure _
  · exact .pure _

theorem call (g this : Value) (args : List Value) : Calls (call g this args) := by
  refine Calls.bind (fun w => ⟨.inl ⟨g, this, args, rfl⟩, fun r w' => ?_⟩) fun _ => .pure _
  cases r <;> trivial

theorem throwNew (type : ErrorType) (message : String) :
    Calls (throwNew type message : Proc α) := by
  intro w
  refine ⟨.inr ⟨rfl, type, cutMessage message, fun traced => rfl⟩, fun r w' => ?_⟩
  cases r with
  | ok reply => cases reply <;> trivial
  | error v => trivial

theorem throwType (message : String) : Calls (throwType message : Proc α) := throwNew _ _

/-- A run of such a procedure is a run of such a procedure. -/
theorem top (h : Calls p) (w : World) : (Running.top (p w)).Has Outcome.Calls := h w

/-! ### Conversions to texts -/

theorem readHolding (h : Holding) (receiver : Value) : Calls (readHolding h receiver) := by
  unfold Proc.readHolding
  split
  · exact .pure _
  · exact .pure _
  · exact call _ _ _
  · exact throwNew _ _
  · exact .pure _

theorem getFrom (r : Ref) (k : Key) (receiver : Value) : Calls (getFrom r k receiver) := by
  refine (world.bind fun _ => .pure _).bind fun found => ?_
  split
  · exact readHolding _ _
  · exact .pure _

/-- Reading a property calls at most a getter. -/
theorem get (v : Value) (k : Key) : Calls (get v k) := by
  unfold Proc.get
  split
  · exact getFrom _ _ _
  · split
    · exact .ite (.pure _) (getFrom _ _ _)
    · exact .ite (.pure _) (getFrom _ _ _)
  · split
    · exact getFrom _ _ _
    · exact world.bind fun _ => throwType _

theorem getMethod (v : Value) (k : Key) : Calls (getMethod v k) := by
  refine (get v k).bind fun f => .ite (.pure _) ?_
  exact (isCallable f).bind fun _ => .ite (.pure _) (throwType _)

theorem firstPrimitive (v : Value) (names : List String) : Calls (firstPrimitive v names) := by
  induction names with
  | nil => exact throwType _
  | cons name rest ih =>
    refine (get v _).bind fun f => (isCallable f).bind fun _ => .ite ?_ ih
    exact (call f v []).bind fun _ => .ite ih (.pure _)

theorem toPrimitive (v : Value) (hint : Hint) : Calls (toPrimitive v hint) := by
  unfold Proc.toPrimitive
  refine .ite (.pure _) ((getMethod v _).bind fun method => ?_)
  split
  · exact firstPrimitive v _
  · exact (call _ v _).bind fun _ => .ite (throwType _) (.pure _)

/-- **Making a text of a value only calls functions**, or it throws an error of its own. -/
theorem toStr (v : Value) : Calls (toStr v) := by
  refine (toPrimitive v .string).bind fun p => ?_
  unfold Proc.primitiveText
  split
  · exact .pure _
  · exact throwType _

end Calls

end Proc

/-! ### What is below -/

/-- Whether the answer to a request depends on what is below the frames with these marks: whether
anything shows up in stack traces, if none of them does, and where code is put aside that waits, if
none of them is async. -/
def Request.looksOut (marks : List Request.Mark) : Request → Bool
  | .traced => marks.all (· = .plain)
  | .await _ | .pause _ => marks.all (· ≠ .async)
  | _ => false

/-- Whether code that a procedure called asks for what is below the procedure. -/
def Running.looksOut : Running α → Bool
  | .inner (.ask q w _) stack base => q.looksOut (q.mark w :: stack.map Frame.mark ++ [base.mark])
  | _ => false

/-- What waits below all frames, as a frame above other code. -/
abbrev Base.frame (d : Except Value α → World → Outcome Final) (base : Base α) : Frame :=
  ⟨base.mark, fun r w => (base.resume r w).followed d⟩

/-- Whether something below shows up in stack traces. -/
def Base.ShowsUp (base : Base β) (below : List Frame) : Prop :=
  base.mark ≠ .plain ∨ ∃ f ∈ below, f.mark ≠ .plain

theorem Base.showsUp_iff {base : Base β} {below : List Frame} :
    (decide (base.mark ≠ .plain) || below.any fun f => decide (f.mark ≠ .plain)) = true ↔
      base.ShowsUp below := by
  simp only [Bool.or_eq_true, List.any_eq_true, decide_eq_true_eq]
  rfl

/-- A run above other code, which gets what comes of its end. -/
def Running.inside (d : Except Value α → World → Outcome Final) (below : List Frame)
    (base : Base β) : Running α → Running β
  | .top o => .inner (o.followed d) below base
  | .inner o stack base' => .inner o (stack ++ base'.frame d :: below) base

/-- A step above other code. -/
def Progress.inside (d : Except Value α → World → Outcome Final) (below : List Frame)
    (base : Base β) (s : Suspended) : Progress α → Progress β
  | .done a w => (Running.inner (d (.ok a) w) below base).step s
  | .thrown v w => (Running.inner (d (.error v) w) below base).step s
  | .running r s => .running (r.inside d below base) s
  | .asking h w k => .asking h w fun r w => (k r w).inside d below base

namespace Running

variable (d : Except Value α → World → Outcome Final) (below : List Frame) (base : Base β)
variable {base' : Base α} {stack : List Frame}

theorem deliver_inside (r : Except Value Reply) (w : World) (stack : List Frame)
    (base' : Base α) : deliver r w (stack ++ base'.frame d :: below) base =
      (deliver r w stack base').inside d below base := by
  cases stack <;> rfl

theorem revive_inside (id : Nat) (r : Except Value Reply) (w : World) (stack : List Frame)
    (base' : Base α) (s : Suspended) : revive id r w (stack ++ base'.frame d :: below) base s =
      ((revive id r w stack base' s).1.inside d below base, (revive id r w stack base' s).2) := by
  unfold revive
  split
  · simp only [← List.append_assoc, deliver_inside]
  · simp only [deliver_inside]

/-- What is above the innermost async frame stays the same if there is one above other code. -/
theorem suspend_inside (r : Reply) (w : World) (s : Suspended)
    (hasync : (stack.map Frame.mark ++ [base'.mark]).all (· ≠ .async) = false) :
    suspend r w (stack ++ base'.frame d :: below) base s =
      ((suspend r w stack base' s).1.inside d below base, (suspend r w stack base' s).2) := by
  have hsplit : (stack ++ base'.frame d :: below).takeWhile (fun f => f.mark ≠ .async) =
      stack.takeWhile (fun f => f.mark ≠ .async) ∧
      (stack ++ base'.frame d :: below).dropWhile (fun f => f.mark ≠ .async) =
        stack.dropWhile (fun f => f.mark ≠ .async) ++ base'.frame d :: below := by
    induction stack with
    | nil =>
      have hbase : base'.mark = .async := by simpa using hasync
      simp [hbase]
    | cons f rest ih =>
      by_cases hf : f.mark = .async
      · simp [hf]
      · obtain ⟨habove, hbelow⟩ := ih (by simpa [hf] using hasync)
        simp only [List.cons_append, List.takeWhile_cons, List.dropWhile_cons, hf, ne_eq,
          not_false_eq_true, decide_true, if_true]
        exact ⟨congrArg (f :: ·) habove, hbelow⟩
  simp only [suspend, hsplit.1, hsplit.2, deliver_inside]

/-- A request gets the same answer. -/
theorem answer_inside {q : Request} (w : World) (stack : List Frame) (s s' : Suspended)
    (hlook : q.looksOut (stack.map Frame.mark ++ [base'.mark]) = false) :
    answer q w (stack ++ base'.frame d :: below) base s =
      (answer q w stack base' s).inside d below base s' := by
  unfold answer
  split
  · -- something shows up above other code already
    have hmark : base'.ShowsUp stack := by
      obtain ⟨mark, hmark, hplain⟩ := List.all_eq_false.1 hlook
      obtain hmark | hmark := List.mem_append.1 hmark
      · obtain ⟨f, hf, rfl⟩ := List.mem_map.1 hmark
        exact .inr ⟨f, hf, by simpa using hplain⟩
      · rw [List.mem_singleton.1 hmark] at hplain
        exact .inl (by simpa using hplain)
    have hhere := Base.showsUp_iff.2 hmark
    have hthere : base.ShowsUp (stack ++ base'.frame d :: below) :=
      .inr (hmark.elim (fun hbase => ⟨_, List.mem_append_right _ List.mem_cons_self, hbase⟩)
        fun ⟨f, hf, hplain⟩ => ⟨f, List.mem_append_left _ hf, hplain⟩)
    replace hthere := Base.showsUp_iff.2 hthere
    simp only [hhere, hthere, deliver_inside]
    rfl
  · simp only [deliver_inside]
    rfl
  · simp only [suspend_inside d below base .nothing _ s hlook]
    rfl
  · simp only [suspend_inside d below base _ _ s hlook]
    rfl
  · simp only [revive_inside]
    rfl
  · rfl

/-- **The same step is taken above other code**, unless it leads to an error that the procedure
makes itself. -/
theorem step_inside {r : Running α} (hr : r.Has Outcome.Calls) (hlook : r.looksOut = false) :
    (∃ w k type message, r = .top (.ask .traced w k) ∧
      ∀ traced, k (.ok (.flag traced)) w = .refused type message w traced) ∨
    ∀ s, (r.inside d below base).step s = (r.step s).inside d below base s := by
  cases r with
  | top o =>
    cases o with
    | done a w => exact .inr fun s => rfl
    | thrown v w => exact .inr fun s => rfl
    | ask q w k =>
      obtain ⟨f, this, args, rfl⟩ | ⟨rfl, type, message, hk⟩ := hr.1
      · exact .inr fun s => rfl
      · exact .inl ⟨w, k, type, message, rfl, hk⟩
  | inner o stack base' =>
    refine .inr fun s => ?_
    cases o with
    | done f w =>
      cases f with
      | reply r =>
        exact congrArg (Progress.running · s) (deliver_inside d below base (.ok r) w stack base')
      | tail q => rfl
    | thrown v w =>
      exact congrArg (Progress.running · s) (deliver_inside d below base (.error v) w stack base')
    | ask q w k => exact answer_inside d below base w (⟨q.mark w, k⟩ :: stack) s s hlook

/-- An error that a procedure makes above other code remembers that something shows up there. -/
theorem step_inside_refused {w : World} {k : Except Value Reply → World → Outcome α}
    {type : ErrorType} {message : String} (hbelow : base.ShowsUp below)
    (hk : ∀ traced, k (.ok (.flag traced)) w = .refused type message w traced) (s : Suspended) :
    ((Running.top (.ask .traced w k)).inside d below base).step s =
      .running (.inner (d (.error (.object w.objects.size))
        (w.push (newError (Intrinsic.errorProto type) message true))) below base) s := by
  have hflag (f : Frame) := Base.showsUp_iff.2
    (hbelow.imp_right fun ⟨g, hg, hplain⟩ => ⟨g, List.mem_cons_of_mem f hg, hplain⟩)
  change answer .traced w (⟨.plain, fun r w => (k r w).followed d⟩ :: below) base s = _
  simp only [answer, hflag, deliver, hk]
  rfl

end Running

end Script

open Script

namespace Bridge

variable {α β : Type} {b b' : Bridge} {n : Nat} {r : Running α} {x : Except Value α}

/-! ### Runs -/

/-- Whether code that a run called asks for what is below the run, in so many steps. -/
def looksOutFor : Nat → Running α → Bridge → Bool
  | 0, _, _ => false
  | n + 1, r, b =>
    r.looksOut || match r.step b.suspended with
      | .running r s => looksOutFor n r { b with suspended := s }
      | .asking h w k =>
        let (reply, w, b) := b.serve w h
        looksOutFor n (k reply w) b
      | .done .. | .thrown .. => false

/-- Code that a procedure calls asks for what is below the procedure: it makes an error and nothing
that was called shows up in stack traces, or it waits outside of async code. -/
def LooksOut (b : Bridge) (p : Proc α) : Prop := ∃ n, looksOutFor n (.top (p b.world)) b = true

theorem looksOutFor_eq_false {p : Proc α} (h : ¬ b.LooksOut p) (n : Nat) :
    looksOutFor n (.top (p b.world)) b = false := Bool.eq_false_iff.2 fun hn => h ⟨n, hn⟩

/-- The bridges where the same error was thrown, by itself and above other code: they are the same
too, unless the procedure made the error itself, which then remembers a place only above other
code. -/
inductive SameError : Value → Bridge → Bridge → Prop
  | same (e : Value) (b : Bridge) : SameError e b b
  | made (type : ErrorType) (message : String) (w : World) (b : Bridge) :
    SameError (.object w.objects.size)
      { b with world := w.push (newError (Intrinsic.errorProto type) message false) }
      { b with world := w.push (newError (Intrinsic.errorProto type) message true) }

/-- The bridges at the end of the same run, by itself and above other code. -/
def SameEnd : Except Value α → Bridge → Bridge → Prop
  | .ok _, b, b' => b = b'
  | .error e, b, b' => SameError e b b'

theorem SameEnd.refl (x : Except Value α) (b : Bridge) : SameEnd x b b := by
  cases x with
  | ok a => rfl
  | error e => exact .same e b

section

variable (d : Except Value α → World → Outcome Final) {below : List Frame} (base : Base β)
  (hr : r.Has Outcome.Calls) (hlook : looksOutFor n r b = false)

include hr hlook

/-- **The same run above other code** comes to the same end, after fewer steps than it took, and
goes on with what comes of that. -/
theorem runFor_inside (hbelow : base.ShowsUp below) (h : runFor n r b = (some x, b')) :
    ∃ k < n, ∃ b₁, SameEnd x b' b₁ ∧ ∀ m, runFor (m + k) (r.inside d below base) b =
      runFor m (.inner (d x b₁.world) below base) b₁ := by
  induction n generalizing r b with
  | zero => cases h
  | succ n ih =>
    obtain ⟨hhere, hlook⟩ := Bool.or_eq_false_iff.1 hlook
    obtain ⟨w, k, type, message, rfl, hk⟩ | hsame := Running.step_inside d below base hr hhere
    · -- the error is made in the next step, and it is thrown in the one after that
      replace h : runFor n (.top (k (.ok (.flag false)) w)) b = (some x, b') := h
      rw [hk] at h
      cases n with
      | zero => cases h
      | succ n =>
        obtain ⟨⟨⟩, rfl⟩ := Prod.mk.inj h
        refine ⟨1, by omega, _, SameError.made type message w b, fun m => ?_⟩
        rw [runFor_withWorld m (.inner (d _ _) below base) b]
        have hstep := Running.step_inside_refused d below base hbelow hk b.suspended
        rw [runFor, hstep]
    · have hkeep := hr.step (fun q w k hask => hask.2) b.suspended
      rw [runFor] at h
      -- code that has ended hands over in the same step
      have hend (x' : Except Value α) {w : World} (hstep : r.step b.suspended = .ofExcept x' w)
          (hx : (some x', { b with world := w }) = (some x, b')) :
          ∃ k < n + 1, ∃ b₁, SameEnd x b' b₁ ∧ ∀ m, runFor (m + k) (r.inside d below base) b =
            runFor m (.inner (d x b₁.world) below base) b₁ := by
        obtain ⟨⟨⟩, rfl⟩ := Prod.mk.inj hx
        refine ⟨0, Nat.succ_pos n, _, .refl x _, fun m => ?_⟩
        rw [Running.eq_ofExcept_of_step hstep, runFor_withWorld m (.inner (d x w) below base) b w]
        cases x <;> rfl
      cases hstep : r.step b.suspended with
      | done a w =>
        rw [hstep] at h
        exact hend (.ok a) hstep h
      | thrown v w =>
        rw [hstep] at h
        exact hend (.error v) hstep h
      | running r' s =>
        rw [hstep] at h hlook hkeep
        obtain ⟨k, hk, b₁, hb₁, hrun⟩ := ih hkeep hlook h
        refine ⟨k + 1, Nat.succ_lt_succ hk, b₁, hb₁, fun m => ?_⟩
        rw [← hrun, ← Nat.add_assoc, runFor, hsame, hstep]
        rfl
      | asking c w f =>
        rw [hstep] at h hlook hkeep
        obtain ⟨k, hk, b₁, hb₁, hrun⟩ := ih (hkeep _ _) hlook h
        refine ⟨k + 1, Nat.succ_lt_succ hk, b₁, hb₁, fun m => ?_⟩
        rw [← hrun, ← Nat.add_assoc, runFor, hsame, hstep]
        rfl

/-- A run that is cut off is cut off above other code too. -/
theorem runFor_inside_of_none (hbelow : base.ShowsUp below)
    (h : (runFor n r b).1 = none) : (runFor n (r.inside d below base) b).1 = none := by
  induction n generalizing r b with
  | zero => rfl
  | succ n ih =>
    obtain ⟨hhere, hlook⟩ := Bool.or_eq_false_iff.1 hlook
    obtain ⟨w, k, type, message, rfl, hk⟩ | hsame := Running.step_inside d below base hr hhere
    · replace h : (runFor n (.top (k (.ok (.flag false)) w)) b).1 = none := h
      rw [hk] at h
      cases n with
      | zero => rw [runFor, Running.step_inside_refused d below base hbelow hk]; rfl
      | succ n => cases h
    · have hkeep := hr.step (fun q w k hask => hask.2) b.suspended
      rw [runFor] at h
      rw [runFor, hsame]
      cases hstep : r.step b.suspended with
      | done a w =>
        rw [hstep] at h
        cases h
      | thrown v w =>
        rw [hstep] at h
        cases h
      | running r' s =>
        rw [hstep] at h hlook hkeep
        exact ih hkeep hlook h
      | asking c w f =>
        rw [hstep] at h hlook hkeep
        exact ih (hkeep _ _) hlook h

end

/-- A run that has come to its end asks for nothing any more. -/
theorem looksOutFor_of_runFor {m : Nat} (hlook : looksOutFor n r b = true)
    (h : runFor m r b = (some x, b')) : looksOutFor m r b = true := by
  induction n generalizing m r b with
  | zero => cases hlook
  | succ n ih =>
    cases m with
    | zero => cases h
    | succ m =>
      rw [runFor] at h
      rw [looksOutFor, Bool.or_eq_true] at hlook ⊢
      refine hlook.imp_right fun hnext => ?_
      cases hstep : r.step b.suspended with
      | done a w =>
        rw [hstep] at hnext
        cases hnext
      | thrown v w =>
        rw [hstep] at hnext
        cases hnext
      | running r' s =>
        rw [hstep] at h hnext
        exact ih hnext h
      | asking c w f =>
        rw [hstep] at h hnext
        exact ih hnext h

/-- Whether it asks for what is below can be seen from a run to the end. -/
theorem ComesTo.not_looksOut {p : Proc α} (h : b.ComesTo p n x b')
    (hlook : looksOutFor n (.top (p b.world)) b = false) : ¬ b.LooksOut p := by
  rintro ⟨m, hm⟩
  exact Bool.false_ne_true (hlook.symm.trans (looksOutFor_of_runFor hm h.2))

end Bridge

end ScriptBridge
