import ScriptBridge.Proofs.Async.Lifecycle
import ScriptBridge.Proofs.Bridge.Run
import ScriptBridge.Proofs.Module.Evaluation
import ScriptBridge.Proofs.Script.Finish

/-!
# When no job is left

Scripts leave jobs behind, and a bridge runs them where an operation drains it.  Not every operation
that runs scripts does: reading a property runs a getter, making JSON runs setters, and the jobs of
these wait for the next operation that drains.

* `BridgeM.ends_thenDrain_idle` : after draining no job is left, **whatever the operation came to**.
* `BridgeM.ends_perform_reads` : running a procedure that only reads changes nothing.
* `Operation.leavesNoJob` : which operations leave no job, by what they came to.
* `Bridge.idle_after` : as long as a host sticks to these, **no job is ever left**.
-/

namespace ScriptBridge

open Script

/-! ### Procedures that only read -/

namespace Script.Proc

variable {α β : Type}

/-- It comes to a value at once, and the world is as it was. -/
def Reads (p : Proc α) : Prop := ∀ w, ∃ a, p w = .done a w

namespace Reads

theorem pure (a : α) : Reads (Pure.pure a) := fun _ => ⟨a, rfl⟩

theorem bind {p : Proc α} {f : α → Proc β} (hp : p.Reads) (hf : ∀ a, (f a).Reads) :
    (p >>= f).Reads := by
  intro w
  obtain ⟨a, ha⟩ := hp w
  rw [run_bind, ha]
  exact hf a w

theorem object (r : Ref) : Reads (object r) := fun w => ⟨w.objects.getD r default, rfl⟩

theorem promiseState? (v : Value) : Reads (promiseState? v) := by
  cases v with
  | object r =>
    refine (object r).bind fun o => ?_
    split
    all_goals exact .pure _
  | _ => exact .pure _

theorem kindOf (v : Value) : Reads (Exchange.kindOf v) := by
  cases v with
  | object r => exact (object r).bind fun _ => .pure _
  | _ => exact .pure _

end Reads

end Script.Proc

/-! ### Draining -/

namespace Bridge

/-- No job is left, unless the engine was cut off. -/
def Idle (b : Bridge) : Prop := b.isHalted = false → b.world.jobs = []

/-- No job is left after it if none was left before. -/
def KeepsIdle (b b' : Bridge) : Prop := b.Idle → b'.Idle

instance : IsPreorder Bridge KeepsIdle where
  refl _ := id
  trans _ _ _ h h' := h' ∘ h

theorem keepsIdle_of_eq {b b' : Bridge} (hworld : b'.world = b.world)
    (hhalted : b'.isHalted = b.isHalted) : KeepsIdle b b' := by
  rw [KeepsIdle, Idle, Idle, hworld, hhalted]
  exact id

/-- Whether the bridge keeps the promise for the evaluation of a module. -/
def hasNoted (b : Bridge) (name : String) : Bool := (b.modules.evaluations.lookup name).isSome

/-- The same evaluations of modules are noted. -/
def SameEvaluations (b b' : Bridge) : Prop := b'.modules.evaluations = b.modules.evaluations

instance : IsPreorder Bridge SameEvaluations where
  refl _ := rfl
  trans _ _ _ h h' := h'.trans h

theorem engineFrame_sameEvaluations : BridgeM.EngineFrame SameEvaluations where
  world _ _ := rfl
  suspended _ _ := rfl
  halt _ _ _ := rfl
  insert _ _ := rfl
  released _ _ _ _ := rfl
  functions _ _ := rfl
  descriptors _ _ := rfl
  output _ _ := rfl
  stdout _ _ := rfl
  failures _ _ := rfl
  issue _ _ _ := rfl
  table _ _ := rfl

theorem isDeclared_of_hasNoted {b : Bridge} {name : String} (h : b.hasNoted name = true) :
    b.modules.isDeclared name = true := by
  have h : (b.modules.evaluations.lookup name).isSome = true := h
  simp [ModuleRegistry.isDeclared, h]

end Bridge

open Bridge

namespace BridgeM

variable {α : Type} {b : Bridge}

/-- Running jobs until none is left, or until draining is cut off. -/
theorem ends_drainFor_idle (fuel : Nat) (report : DrainReport) (b : Bridge) :
    Ends (drainFor fuel report) b fun _ b' => b'.Idle := by
  induction fuel generalizing report b with
  | zero =>
    refine .modify_bind (.pure fun hrun => ?_)
    simpa using (Bool.or_eq_false_iff.1 hrun).2
  | succ fuel ih =>
    refine .get_bind ?_
    split
    · rename_i hjobs
      exact .pure fun _ => hjobs
    · refine .modify_bind (Ends.bind (succeeds_runJob _ _) (fun _ b' _ => ih _ b') ?_)
      rintro e _ ⟨_, ⟨⟩⟩

theorem ends_drain_idle (b : Bridge) : Ends drain b fun _ b' => b'.Idle := by
  refine (ends_drainFor_idle jobLimit {} b).bind (fun _ b' h => ?_) fun _ _ h => h
  refine .modify_bind (.pure ?_)
  exact keepsIdle_of_eq rfl rfl h

theorem ends_discard_drain_idle (b : Bridge) : Ends (discard drain) b fun _ b' => b'.Idle :=
  .map (ends_drain_idle b)

/-- **After draining no job is left**, whatever the operation before it came to. -/
theorem ends_thenDrain_idle (p : BridgeM α) (b : Bridge) :
    Ends (thenDrain p) b fun _ b' => b'.Idle := by
  have hobserve : Ends (thenDrain.observing p) b fun r _ => ∃ a, r = .ok a := ⟨_, rfl⟩
  refine hobserve.bind (fun outcome b₁ _ => ?_) ?_
  · refine (ends_discard_drain_idle b₁).bind (fun _ b₂ h => ?_) fun _ _ h => h
    split
    · exact .pure h
    · exact .throw h
  · rintro e _ ⟨_, ⟨⟩⟩

/-! ### Operations that run no script -/

/-- A run that begins by reading goes on with what was read. -/
theorem ends_perform_bind {β : Type} {p : Proc β} {f : β → Proc (Except BridgeError α)} {x : β}
    {Q : Except BridgeError α → Bridge → Prop} (hp : p b.world = .done x b.world)
    (h : Ends (perform (f x)) b Q) : Ends (perform (p >>= f)) b Q := by
  have hrun : (p >>= f) b.world = f x b.world := by
    rw [Proc.run_bind, hp]
    rfl
  rw [Ends, exec_perform, hrun, ← exec_perform]
  exact h

/-- **Running a procedure that only reads changes nothing.** -/
theorem ends_perform_reads {p : Proc (Except BridgeError α)} (hp : p.Reads) (b : Bridge) :
    Ends (perform p) b fun _ b' => b' = b := by
  unfold Ends
  cases hb : b.isHalted with
  | true => rw [exec_perform, if_pos hb]
  | false =>
    obtain ⟨r, hr⟩ := hp b.world
    rw [exec_perform_ofExcept (r := .ok r) hb hr]

theorem ends_evaluate_reads {p : Proc α} (hp : p.Reads) (b : Bridge) :
    Ends (evaluate (.ofProc p)) b fun _ b' => b' = b := by
  obtain ⟨a, ha⟩ := hp b.world
  have hattempt : Proc.attempt (Crossing.ofProc p).run b.world = .done (.ok (.ok a)) b.world := by
    have hcross : (Crossing.ofProc p).run b.world = .done (.ok a) b.world := by
      change (p b.world).bind _ = _
      rw [ha]
      rfl
    rw [Proc.run_attempt, hcross]
    rfl
  exact ends_perform_bind hattempt (ends_perform_reads (.pure _) b)

/-- An import that yields a namespace has only read the state of its promise. -/
theorem ends_importedNamespace_same (name : String) (promise : Value) (b : Bridge) :
    Ends (importedNamespace name promise) b fun r b' => r.isOk = true → b' = b := by
  obtain ⟨s, hs⟩ := Proc.Reads.promiseState? promise b.world
  refine ends_perform_bind hs ?_
  split
  · exact fun _ => ends_perform_reads (.pure _) b
  · exact fun _ => ends_perform_reads (.pure _) b
  · refine (ends_perform (P := fun r => r.isOk = false) (E := True) ?_ b).mono ?_
    · exact (Proc.Only.any _).bind fun _ _ => .pure rfl
    · rintro r b' (⟨-, rfl⟩ | hr | ⟨-, rfl⟩) hok
      · cases hok
      · rw [hr] at hok
        cases hok
      · cases hok
  · exact fun _ => ends_perform_reads (.pure _) b

/-! ### Operations that do not see the jobs -/

theorem keepsIdle_keep (v : Value) : Keeps KeepsIdle (keep v) :=
  .modifyGet fun _ => keepsIdle_of_eq rfl rfl

theorem keepsIdle_release (h : Handle) : Keeps KeepsIdle (release h) := by
  refine Keeps.get.bind fun b => ?_
  split
  · exact .modify fun _ => keepsIdle_of_eq rfl rfl
  · exact .throw _

theorem keepsIdle_evaluate_reads {p : Proc α} (hp : p.Reads) :
    Keeps KeepsIdle (evaluate (.ofProc p)) := by
  intro b
  rw [ends_evaluate_reads hp b]
  exact refl_of KeepsIdle b

theorem keepsIdle_valueKind (h : Handle) : Keeps KeepsIdle (valueKind h) :=
  (Core.value h).bind fun v => keepsIdle_evaluate_reads (.kindOf v)

theorem keepsIdle_getNumber (h : Handle) : Keeps KeepsIdle (getNumber h) := by
  refine (Core.value h).bind fun v => ?_
  split
  · exact .pure _
  · exact (keepsIdle_valueKind h).bind fun _ => .throw _

theorem keepsIdle_settlement (h : Handle) : Keeps KeepsIdle (settlement h) := by
  refine (Core.value h).bind fun v => (keepsIdle_evaluate_reads (.promiseState? v)).bind fun s => ?_
  split
  · exact .pure _
  · exact .throw _

theorem keepsIdle_promiseResult (h : Handle) : Keeps KeepsIdle (promiseResult h) := by
  refine (keepsIdle_settlement h).bind fun s => ?_
  split
  all_goals exact keepsIdle_keep _

theorem keepsIdle_promiseStatus (h : Handle) : Keeps KeepsIdle (promiseStatus h) := by
  refine (keepsIdle_settlement h).bind fun s => ?_
  split
  all_goals exact .pure _

theorem ends_awaitPromise_idle (h : Handle) (b : Bridge) :
    Ends (awaitPromise h) b fun r b' => r.isOk = true → KeepsIdle b b' := by
  refine ((keepsIdle_settlement h).ends b).bind (fun s b₁ h₁ => ?_) fun _ _ _ => nofun
  split
  · exact .throw nofun
  · exact ((keepsIdle_keep _).ends b₁).mono fun _ _ h₂ _ => trans_of KeepsIdle h₁ h₂
  · exact .bind_any (fun _ _ => .throw nofun) fun _ _ => nofun

/-! ### Operations that drain, or refuse to start -/

theorem keepsIdle_thenDrain (p : BridgeM α) : Keeps KeepsIdle (thenDrain p) :=
  .of_ends fun b => (ends_thenDrain_idle p b).mono fun _ _ h _ => h

theorem keepsIdle_evalScript (filename source : String) :
    Keeps KeepsIdle (evalScript filename source) := by
  unfold evalScript
  split
  · exact .throw _
  · exact keepsIdle_thenDrain _

theorem keepsIdle_evaluateUnit (u : CompiledUnit) : Keeps KeepsIdle (evaluateUnit u) :=
  Keeps.ite (.throw _) (keepsIdle_thenDrain _)

theorem keepsIdle_loadSource (filename source : String) :
    Keeps KeepsIdle (loadSource filename source) :=
  Keeps.get.bind fun _ => Keeps.ite (.throw _) (keepsIdle_thenDrain _)

/-- A call that was ended, or could not be ended by a value that was there: the jobs ran, or no
script did. -/
theorem ends_completeCall_idle (id : Nat) (o : CallOutcome) (b : Bridge) :
    Ends (completeCall id o) b fun r b' => ∀ e, r = .ok e →
      e = .resolved ∨ e = .rejected ∨ (∀ j, o ≠ .resolveJson j) → KeepsIdle b b' := by
  have hvalue : Ends (outcomeValue o) b fun _ b' => (∀ j, o ≠ .resolveJson j) → KeepsIdle b b' := by
    intro ho
    cases o with
    | resolve h => exact (Core.value h).bind (fun _ => .pure _) b
    | resolveJson j => exact absurd rfl (ho j)
    | reject message => exact refl_of KeepsIdle b
  refine hvalue.bind (fun result b₁ h₁ => ?_) fun _ _ _ => nofun
  refine .get_bind ?_
  cases ht : b₁.ledger.take id with
  | error e =>
    refine .pure fun e' he' hend => ?_
    cases he'
    obtain rfl | rfl := Ledger.eq_of_take_eq_error ht
    all_goals
      obtain h | h | ho := hend
      · cases h
      · cases h
      · exact h₁ ho
  | ok taken =>
    refine .modify_bind (.bind_any (fun _ b₂ => ?_) fun _ _ => nofun)
    refine (ends_discard_drain_idle b₂).bind (fun _ b₃ h₃ => ?_) fun _ _ _ => nofun
    exact .pure fun _ _ _ _ => h₃

/-! ### Modules -/

/-- A module that was declared is noted. -/
theorem ends_declareModule_noted (u : CompiledUnit) (b : Bridge) :
    Ends (declareModule u) b fun r b' => r.isOk = true → b'.hasNoted u.name = true := by
  refine .get_bind ?_
  split
  · exact .throw nofun
  · refine .bind_any (fun id b₁ => ?_) fun _ _ => nofun
    refine .bind_any (fun _ b₂ => ?_) fun _ _ => nofun
    refine .bind_any (fun _ b₃ => ?_) fun _ _ => nofun
    refine .bind_any (fun order b₄ => ?_) fun _ _ => nofun
    refine .bind_any (fun promise b₅ => fun _ => ?_) fun _ _ => nofun
    change (List.lookup u.name ((u.name, promise) :: b₅.modules.evaluations)).isSome = true
    rw [List.lookup_cons_self]
    rfl

/-- A module that is declared now, or was noted before, is noted when the jobs have run. -/
theorem ends_ensureDeclared_idle (u : CompiledUnit) (b : Bridge) :
    Ends (ensureDeclared u) b fun r b' =>
      (∀ a, r = .ok a → b'.Idle ∧
        (b.hasNoted u.name = true ∨ b.modules.isDeclared u.name = false →
          b'.hasNoted u.name = true)) ∧
      (∀ e, r = .error e → b.modules.isDeclared u.name = false) := by
  have hdrain (b₁ : Bridge) : Ends (discard drain) b₁ fun r b' =>
      (∃ a, r = .ok a) ∧ b'.Idle ∧ SameEvaluations b₁ b' :=
    ⟨succeeds_drain.discard b₁, ends_discard_drain_idle b₁,
      engineFrame_sameEvaluations.frame.drain.discard b₁⟩
  refine .get_bind ?_
  cases hdeclared : b.modules.isDeclared u.name with
  | true =>
    refine (hdrain b).mono fun r b' h => ⟨fun _ _ => ⟨h.2.1, fun hnoted => ?_⟩, fun e he => ?_⟩
    · obtain hnoted | hfresh := hnoted
      · rwa [hasNoted, h.2.2]
      · cases hfresh
    · obtain ⟨⟨a, rfl⟩, -⟩ := h
      cases he
  | false =>
    refine (ends_declareModule_noted u b).bind (fun _ b₁ hnoted => ?_) fun _ _ _ =>
      ⟨nofun, fun _ _ => rfl⟩
    refine (hdrain b₁).mono fun r b' h => ⟨fun _ _ => ⟨h.2.1, fun _ => ?_⟩, fun _ _ => rfl⟩
    rw [hasNoted, h.2.2]
    exact hnoted rfl

theorem ends_evaluateModuleUnit_idle (u : CompiledUnit) (b : Bridge) :
    Ends (evaluateModuleUnit u) b fun r b' =>
      b.hasNoted u.name = true ∨ b.modules.isDeclared u.name = false ∧ r.isOk = true → b'.Idle := by
  refine (ends_ensureDeclared_idle u b).bind (fun _ b₁ h => ?_) fun e b₁ h hcase => ?_
  · obtain ⟨hidle, hnoted⟩ := h.1 _ rfl
    refine .get_bind ?_
    split
    · exact fun _ => keepsIdle_keep _ b₁ hidle
    · rename_i hnone
      intro hcase
      have hnoted := hnoted (hcase.imp_right And.left)
      rw [hasNoted, hnone] at hnoted
      cases hnoted
  · obtain hnoted | ⟨-, ⟨⟩⟩ := hcase
    cases (isDeclared_of_hasNoted hnoted).symm.trans (h.2 e rfl)

/-- A module that is imported has run its jobs. -/
theorem ends_importNamespace_idle (u : CompiledUnit) (b : Bridge) :
    Ends (importNamespace u) b fun r b' => r.isOk = true → b'.Idle := by
  refine .bind_any (fun _ b₁ => ?_) fun _ _ => nofun
  refine .bind_any (fun _ b₂ => ?_) fun _ _ => nofun
  refine .bind_any (fun promise b₃ => ?_) fun _ _ => nofun
  refine (ends_discard_drain_idle b₃).bind (fun _ b₄ h => ?_) fun _ _ _ => nofun
  refine (ends_importedNamespace_same u.name promise b₄).mono fun r b' hsame hok => ?_
  rw [hsame hok]
  exact h

theorem ends_loadBlob_idle (blob : List UInt8) (b : Bridge) :
    Ends (loadBlob blob) b fun r b' => r.isOk = true → KeepsIdle b b' := by
  unfold loadBlob
  split
  · exact .throw nofun
  · rename_i u _
    have hload : Ends (loadNamespace u) b fun r b' => r.isOk = true → KeepsIdle b b' := by
      refine .get_bind ?_
      split
      · exact .pure fun _ => refl_of KeepsIdle b
      · refine (ends_importNamespace_idle u b).bind (fun ns b₁ h => ?_) fun _ _ _ => nofun
        refine .modify_bind (.pure fun _ _ => ?_)
        exact keepsIdle_of_eq rfl rfl (h rfl)
    split_ifs
    · exact .throw nofun
    · refine hload.bind (fun ns b₁ h => ?_) fun _ _ _ => nofun
      exact ((keepsIdle_keep ns).ends b₁).mono fun _ _ h' _ => trans_of KeepsIdle (h rfl) h'

end BridgeM

/-! ### Operations, and what hosts may do -/

namespace Bridge

/-- Whether an operation that came to `r` leaves no job where none was left before: it has run the
jobs after all scripts, or it has run no script.  Reading properties, coercions and JSON run scripts
and do not run the jobs; neither do the loads of modules that fail, nor the attempts to end a call
that fail. -/
def Operation.leavesNoJob (op : Operation) (b : Bridge) (r : Except BridgeError Answer) : Bool :=
  match op with
  | .createNamespace _ | .getProperty .. | .getString _ | .toJson _ | .fromJson _
  | .registerHost .. => false
  | .evalBlob blob =>
    match CompiledUnit.deserialize blob with
    | .error _ => true
    | .ok u =>
      match u.kind with
      | .script => true
      | .module => b.hasNoted u.name || !b.modules.isDeclared u.name && r.isOk
  | .loadBlob _ | .awaitPromise _ => r.isOk
  | .completeCall _ o =>
    match r, o with
    | .ok (.ended .resolved), _ | .ok (.ended .rejected), _ => true
    | .ok _, .resolve _ | .ok _, .reject _ => true
    | _, _ => false
  | _ => true

variable {b : Bridge} {op : Operation}

theorem isOk_map {ε α β : Type} (f : α → β) (r : Except ε α) : (r.map f).isOk = r.isOk := by
  cases r <;> rfl

theorem keepsIdle_evalBlob (blob : List UInt8)
    (h : (Operation.evalBlob blob).leavesNoJob b (b.step (.evalBlob blob)).1 = true) :
    KeepsIdle b (b.step (.evalBlob blob)).2 := by
  rw [step, Operation.program, exec_map] at h ⊢
  rw [Operation.leavesNoJob] at h
  simp only [isOk_map] at h
  unfold BridgeM.evalBlob at h ⊢
  cases hu : CompiledUnit.deserialize blob with
  | error e => exact refl_of KeepsIdle b
  | ok u =>
    simp only [hu] at h ⊢
    cases hkind : u.kind with
    | script => exact BridgeM.keepsIdle_evaluateUnit u b
    | module =>
      simp only [hkind] at h ⊢
      refine fun _ => BridgeM.ends_evaluateModuleUnit_idle u b ?_
      simpa using h

theorem keepsIdle_completeCall (id : Nat) (o : CallOutcome)
    (h : (Operation.completeCall id o).leavesNoJob b (b.step (.completeCall id o)).1 = true) :
    KeepsIdle b (b.step (.completeCall id o)).2 := by
  rw [step, Operation.program, exec_map] at h ⊢
  have hends := BridgeM.ends_completeCall_idle id o b
  rw [Ends] at hends
  cases hr : (exec (BridgeM.completeCall id o) b).1 with
  | error e =>
    rw [hr] at h
    cases h
  | ok e =>
    rw [hr] at h
    refine hends e hr ?_
    cases o with
    | resolve v => exact .inr (.inr fun j hj => by cases hj)
    | reject message => exact .inr (.inr fun j hj => by cases hj)
    | resolveJson j =>
      cases e with
      | resolved => exact .inl rfl
      | rejected => exact .inr (.inl rfl)
      | _ => cases h

/-- Draining leaves no job, however many there were. -/
theorem idle_step_drain (b : Bridge) : (b.step .drain).2.Idle := by
  rw [step, Operation.program, exec_map]
  exact BridgeM.ends_drain_idle b

theorem keepsIdle_of_isOk {α : Type} {p : BridgeM α} {f : α → Answer}
    (hp : Ends p b fun r b' => r.isOk = true → KeepsIdle b b')
    (h : (exec (f <$> p) b).1.isOk = true) : KeepsIdle b (exec (f <$> p) b).2 := by
  rw [exec_map] at h ⊢
  rw [isOk_map] at h
  exact hp h

/-- **One operation** that leaves no job. -/
theorem keepsIdle_step (h : op.leavesNoJob b (b.step op).1 = true) : KeepsIdle b (b.step op).2 := by
  have hget {α : Type} (f : Bridge → α) : Keeps KeepsIdle (do return f (← get) : BridgeM α) :=
    Keeps.get.bind fun _ => .pure _
  have hmodify {α : Type} {f : Bridge → α × Bridge} (hworld : ∀ b, (f b).2.world = b.world)
      (hhalted : ∀ b, (f b).2.isHalted = b.isHalted) :
      Keeps KeepsIdle (modifyGet f : BridgeM α) :=
    .modifyGet fun b => keepsIdle_of_eq (hworld b) (hhalted b)
  -- those that may run scripts and do not drain are excluded by `h`
  cases op with
  | createNamespace name => cases h
  | globalObject => exact (BridgeM.keepsIdle_keep _).map b
  | hostNamespace => exact (Keeps.get.bind fun _ => BridgeM.keepsIdle_keep _).map b
  | evalSource filename source isModule =>
    refine Keeps.map (Keeps.ite ?_ ?_) b
    · exact BridgeM.keepsIdle_loadSource _ _
    · exact BridgeM.keepsIdle_evalScript _ _
  | eval source => exact (Keeps.get.bind fun _ => BridgeM.keepsIdle_evalScript _ _).map b
  | evaluateUnit u => exact (BridgeM.keepsIdle_evaluateUnit u).map b
  | evalBlob blob => exact keepsIdle_evalBlob blob h
  | loadBlob blob => exact keepsIdle_of_isOk (BridgeM.ends_loadBlob_idle blob b) h
  | loadSource filename source => exact (BridgeM.keepsIdle_loadSource _ _).map b
  | registerModule blob =>
    exact (BridgeM.Core.registerModule (fun _ _ => keepsIdle_of_eq rfl rfl) blob).map b
  | loadedModules => exact (hget _).map b
  | callMethod target name args => exact (BridgeM.keepsIdle_thenDrain _).map b
  | getProperty target name => cases h
  | getString v => cases h
  | newString text => exact (BridgeM.keepsIdle_keep _).map b
  | getNumber v => exact (BridgeM.keepsIdle_getNumber v).map b
  | newNumber x => exact (BridgeM.keepsIdle_keep _).map b
  | toJson v => cases h
  | fromJson j => cases h
  | valueKind v => exact (BridgeM.keepsIdle_valueKind v).map b
  | release v => exact (BridgeM.keepsIdle_release v).map b
  | liveHandles => exact (hget _).map b
  | promiseResult v => exact (BridgeM.keepsIdle_promiseResult v).map b
  | promiseStatus v => exact (BridgeM.keepsIdle_promiseStatus v).map b
  | awaitPromise v => exact keepsIdle_of_isOk (BridgeM.ends_awaitPromise_idle v b) h
  | registerHost name arity f => cases h
  | hostFunctions => exact (hget _).map b
  | setDispatcher on => exact (hmodify (fun _ => rfl) fun _ => rfl).map b
  | takeRequests => exact (hmodify (fun _ => rfl) fun _ => rfl).map b
  | takeDispatched => exact (hmodify (fun _ => rfl) fun _ => rfl).map b
  | pendingCalls => exact (hget _).map b
  | completeCall id o => exact keepsIdle_completeCall id o h
  | drain => exact fun _ => idle_step_drain b
  | takeFailures => exact (hmodify (fun _ => rfl) fun _ => rfl).map b
  | takeOutput => exact (hmodify (fun _ => rfl) fun _ => rfl).map b
  | takeStdout => exact (hmodify (fun _ => rfl) fun _ => rfl).map b

/-- Each of the operations, done one after the other, leaves no job. -/
def leavesNoJob (b : Bridge) : List Operation → Bool
  | [] => true
  | op :: ops => op.leavesNoJob b (b.step op).1 && (b.step op).2.leavesNoJob ops

/-- **No job is ever left** by operations that leave none, on a bridge that has none to begin with,
or is drained on the way. -/
theorem idle_after {ops : List Operation} (hops : b.leavesNoJob ops = true)
    (hb : b.Idle ∨ .drain ∈ ops) : (b.after ops).Idle := by
  induction ops generalizing b with
  | nil => simpa [after] using hb
  | cons op ops ih =>
    rw [leavesNoJob, Bool.and_eq_true] at hops
    refine ih hops.2 ?_
    obtain hb | hdrain := hb
    · exact .inl (keepsIdle_step hops.1 hb)
    · obtain rfl | hdrain := List.mem_cons.1 hdrain
      · exact .inl (idle_step_drain b)
      · exact .inr hdrain

/-- It holds of a new bridge on which scripts are run and functions are called, whatever these
do. -/
theorem idle_after_scripts : ∃ b tags, create {} {} = .ok (b, tags) ∧ b.isHalted = false ∧
    b.world.jobs = [] ∧
    ∃ ops, ops = [.globalObject, .eval "Promise.resolve().then(() => 1)",
        .callMethod (b.handles.insert .undefined).1 "queueMicrotask" [],
        .evalSource "m.js" "import('m.js')" true, .takeFailures] ∧
      b.leavesNoJob ops = true ∧ (b.after ops).Idle := by
  obtain ⟨b, tags, h, hhalted, hjobs⟩ := exists_create_idle
  exact ⟨b, tags, h, hhalted, hjobs, _, rfl, rfl, idle_after rfl (.inl fun _ => hjobs)⟩

end Bridge

end ScriptBridge
