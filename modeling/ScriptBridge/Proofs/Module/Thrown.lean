import ScriptBridge.Proofs.Bridge.Drain
import ScriptBridge.Proofs.Bridge.Jobs
import ScriptBridge.Proofs.Module.Poison

/-!
# Modules whose bodies threw

A module runs once, so what its body threw is told to every load of it.  The bridge tells it from
the promise for the evaluation, which it keeps of the modules that it ran itself.  It keeps none of
those that an import brought in, and learns of their failures only from its own import.

* `recalls_step` : no operation forgets, or changes, the promise for an evaluation.
* `ends_importDeclared_threw`, `ends_importDeclared_calm` : the two ways in which the import of a
  declared module fails.
* `Threw.step`, `Threw.after` : an evaluation that has failed stays so, **whatever the host does**.
* `Bridge.thrown_bodies` : **at which stage a load fails**.
-/

namespace ScriptBridge

open Script

namespace Bridge

variable {b b' : Bridge} {name : String}

/-! ### The promises for evaluations -/

/-- The bridge still has the promises for the evaluations of modules. -/
def Recalls (b b' : Bridge) : Prop := ∀ name promise,
  b.modules.evaluations.lookup name = some promise →
    b'.modules.evaluations.lookup name = some promise

instance : IsPreorder Bridge Recalls where
  refl _ _ _ := id
  trans _ _ _ h h' name promise := h' name promise ∘ h name promise

theorem SameEvaluations.recalls (h : SameEvaluations b b') : Recalls b b' := by
  intro name promise
  rw [h]
  exact id

theorem engineFrame_recalls : BridgeM.EngineFrame Recalls where
  world _ _ _ _ := id
  suspended _ _ _ _ := id
  halt _ _ _ _ _ := id
  insert _ _ _ _ := id
  released _ _ _ _ _ _ := id
  functions _ _ _ _ := id
  descriptors _ _ _ _ := id
  output _ _ _ _ := id
  stdout _ _ _ _ := id
  failures _ _ _ _ := id
  issue _ _ _ _ _ := id
  table _ _ _ _ := id

theorem frame_recalls : BridgeM.Frame Recalls := engineFrame_recalls.frame

end Bridge

namespace BridgeM

open Bridge

variable {α β : Type} {b b₁ : Bridge} {name : String}

theorem engine_sameEvaluations : Engine SameEvaluations :=
  engineFrame_sameEvaluations.frame.toEngine

/-- What comes before a promise is noted does not change those that were noted. -/
theorem ends_bind_recalls {p : BridgeM α} {f : α → BridgeM β} (hp : Keeps SameEvaluations p)
    (hsame : SameEvaluations b b₁)
    (hf : ∀ a b₂, SameEvaluations b b₂ → Ends (f a) b₂ fun _ b' => Recalls b b') :
    Ends (p >>= f) b₁ fun _ b' => Recalls b b' :=
  (hp.ends b₁).bind (fun a b₂ h => hf a b₂ (trans_of SameEvaluations hsame h)) fun _ _ h =>
    (trans_of SameEvaluations hsame h).recalls

/-- The promise for the evaluation of another module is noted. -/
theorem ends_noteEvaluation_recalls (hnew : b.modules.evaluations.lookup name = none)
    (hsame : SameEvaluations b b₁) (promise : Value) :
    Ends (noteEvaluation name promise) b₁ fun _ b' => Recalls b b' := by
  intro n other hn
  have hne : n ≠ name := by
    rintro rfl
    rw [hnew] at hn
    cases hn
  change List.lookup n ((name, promise) :: b₁.modules.evaluations) = some other
  rw [List.lookup_cons, beq_eq_false_iff_ne.2 hne, hsame]
  exact hn

theorem ends_declareModule_recalls {u : CompiledUnit}
    (hnew : b.modules.evaluations.lookup u.name = none) :
    Ends (declareModule u) b fun _ b' => Recalls b b' := by
  have E := engine_sameEvaluations
  have htable (b : Bridge) (t : ModuleTable) :
      SameEvaluations b { b with modules := { b.modules with table := t } } := rfl
  refine .get_bind ?_
  split
  · exact .throw (refl_of Recalls b)
  · refine ends_bind_recalls (E.tableStage htable _ _ _) (refl_of _ b) fun id b₁ h₁ => ?_
    refine ends_bind_recalls (.modify fun b => htable b _) h₁ fun _ b₂ h₂ => ?_
    refine ends_bind_recalls (E.tableStage htable _ _ _) h₂ fun _ b₃ h₃ => ?_
    refine ends_bind_recalls (E.tableStage htable _ _ _) h₃ fun order b₄ h₄ => ?_
    refine ends_bind_recalls (E.stage _ _ _) h₄ fun promise b₅ h₅ => ?_
    exact ends_noteEvaluation_recalls hnew h₅ promise

theorem evaluations_of_not_declared (h : b.modules.isDeclared name = false) :
    b.modules.evaluations.lookup name = none := by
  cases hlookup : b.modules.evaluations.lookup name with
  | none => rfl
  | some promise => simp [ModuleRegistry.isDeclared, hlookup] at h

theorem keeps_ensureDeclared_recalls (u : CompiledUnit) : Keeps Recalls (ensureDeclared u) := by
  refine .of_ends fun b => .get_bind ?_
  have hdrain := frame_recalls.drain.discard
  split_ifs with hname
  · exact hdrain.ends b
  · have hnew := evaluations_of_not_declared (Bool.eq_false_iff.2 hname)
    exact (ends_declareModule_recalls hnew).bind (fun _ b₁ h₁ =>
      (hdrain.ends b₁).mono fun _ _ h => trans_of Recalls h₁ h) fun _ _ h => h

theorem keeps_evalBlob_recalls (blob : List UInt8) : Keeps Recalls (evalBlob blob) := by
  have F := frame_recalls
  unfold evalBlob
  split
  · exact .throw _
  · split
    · exact F.keeps (F.evaluateUnit (fun _ _ _ _ => id) _)
    · exact F.keeps (F.evaluateModuleUnit_of (keeps_ensureDeclared_recalls _))

theorem keeps_loadBlob_recalls (blob : List UInt8) : Keeps Recalls (loadBlob blob) := by
  unfold loadBlob
  split
  · exact .throw _
  · refine Keeps.ite (.throw _) (Keeps.bind ?_ fun _ => frame_recalls.keep _)
    exact frame_recalls.loadNamespace_of (keeps_ensureDeclared_recalls _) fun _ _ _ _ => id

theorem keeps_loadSource_recalls (filename source : String) :
    Keeps Recalls (loadSource filename source) := by
  have E := engine_sameEvaluations
  have htable (b : Bridge) (t : ModuleTable) :
      SameEvaluations b { b with modules := { b.modules with table := t } } := rfl
  refine .of_ends fun b => .get_bind ?_
  split_ifs with hname
  · exact .throw (refl_of Recalls b)
  · have hnew := evaluations_of_not_declared (Bool.eq_false_iff.2 hname)
    refine frame_recalls.ends_thenDrain (Q := fun _ b' => Recalls b b') ?_
      fun _ _ _ h h' => trans_of Recalls h h'
    split
    · exact .throw (refl_of Recalls b)
    · exact .throw (refl_of Recalls b)
    · refine ends_bind_recalls (E.tableStage htable _ _ _) (refl_of _ b) fun id b₁ h₁ => ?_
      refine ends_bind_recalls (E.tableStage htable _ _ _) h₁ fun _ b₂ h₂ => ?_
      refine ends_bind_recalls (E.tableStage htable _ _ _) h₂ fun order b₃ h₃ => ?_
      refine ends_bind_recalls (E.stage _ _ _) h₃ fun promise b₄ h₄ => ?_
      exact (ends_noteEvaluation_recalls hnew h₄ promise).bind (fun _ b₅ h₅ =>
        ((frame_recalls.keep promise).ends b₅).mono fun _ _ h => trans_of Recalls h₅ h)
        fun _ _ h => h

end BridgeM

namespace Bridge

variable {b b' : Bridge} {name : String}

/-- **No operation forgets or changes the promise for an evaluation.** -/
theorem recalls_step (b : Bridge) (op : Operation) : Recalls b (b.step op).2 := by
  have F := frame_recalls
  refine op.keeps F (fun hcalls => ?_) (fun hmodules => ?_) b
  · exact op.keeps_of_handlesCalls F.toCoreFrame hcalls (fun _ _ _ _ => id) fun _ _ _ _ _ => id
  · cases op with
    | evalSource filename source isModule =>
      exact ((BridgeM.keeps_loadSource_recalls _ _).ite (F.keeps (F.evalScript _ _))).map
    | evaluateUnit u => exact (F.keeps (F.evaluateUnit (fun _ _ _ _ => id) _)).map
    | evalBlob blob => exact (BridgeM.keeps_evalBlob_recalls blob).map
    | loadBlob blob => exact (BridgeM.keeps_loadBlob_recalls blob).map
    | loadSource filename source => exact (BridgeM.keeps_loadSource_recalls _ _).map
    | registerModule blob => exact (BridgeM.Core.registerModule (fun _ _ _ _ => id) _).map
    | _ => cases hmodules

/-! ### Evaluations that failed -/

/-- The evaluation of a module that the bridge ran has failed with `v`, which its body threw, or
that of a module that it asks for. -/
def Threw (b : Bridge) (name : String) (v : Value) : Prop :=
  ∃ p, b.modules.evaluations.lookup name = some (.object p) ∧
    b.world.promise? p = some (.rejected v)

/-- What that is. -/
def failure? (b : Bridge) (name : String) : Option Value :=
  match b.modules.evaluations.lookup name with
  | some (.object p) =>
    match b.world.promise? p with
    | some (.rejected v) => some v
    | _ => none
  | _ => none

theorem failure?_eq_some_iff {v : Value} : b.failure? name = some v ↔ b.Threw name v := by
  unfold failure? Threw
  constructor
  · intro h
    split at h
    · rename_i p hp
      split at h
      · rename_i hv
        cases h
        exact ⟨p, hp, hv⟩
      · cases h
    · cases h
  · rintro ⟨p, hp, hv⟩
    rw [hp]
    dsimp only
    rw [hv]

theorem Threw.isDeclared {v : Value} (h : b.Threw name v) : b.modules.isDeclared name = true := by
  obtain ⟨p, hp, -⟩ := h
  exact isDeclared_of_hasNoted (by rw [hasNoted, hp]; rfl)

/-- It has failed for good. -/
theorem Threw.of_recalls {v : Value} (h : b.Threw name v) (hrecalls : Recalls b b')
    (hsettled : ∀ p s, b.world.promise? p = some s → s.isSettled = true →
      b'.world.promise? p = some s) : b'.Threw name v := by
  obtain ⟨p, hp, hv⟩ := h
  exact ⟨p, hrecalls name _ hp, hsettled p _ hv rfl⟩

/-- A load has failed at a stage, or the engine was cut off. -/
def FailsAt (name : String) (s : ModuleStage) (e : BridgeError) (b : Bridge) : Prop :=
  b.isHalted = true ∨ ∃ reason, e = .module name s reason

end Bridge

namespace BridgeM

open Bridge

variable {α : Type} {b : Bridge} {name : String} {v : Value} {u : CompiledUnit}

/-- A procedure that tells its failures at a stage. -/
theorem ends_perform_failsAt {s : ModuleStage} {p : Proc (Except BridgeError α)}
    (h : p.Only (fun r => ∀ e, r = .error e → ∃ reason, e = .module name s reason) False)
    (b : Bridge) :
    Ends (perform p) b fun r b' => ∀ e, r = .error e → FailsAt name s e b' := by
  refine (ends_perform h b).mono ?_
  rintro r b' (⟨hhalted, -⟩ | hr | ⟨h, -⟩) e he
  · exact .inl hhalted
  · exact .inr (hr e he)
  · exact h.elim

/-- What is thrown is told as it is described. -/
theorem only_describe_failsAt (name : String) (s : ModuleStage) (v : Value) :
    Proc.Only (fun r : Except BridgeError α =>
      ∀ e, r = .error e → ∃ reason, e = .module name s reason) False
      (do return .error (.module name s (← Exchange.describe v).message)) := by
  refine (Exchange.only_describe v).bind fun x _ => .pure ?_
  rintro _ ⟨⟩
  exact ⟨_, rfl⟩

theorem ends_stage_failsAt (name : String) (s : ModuleStage) (p : Proc α) (b : Bridge) :
    Ends (stage name s p) b fun r b' => ∀ e, r = .error e → FailsAt name s e b' := by
  refine ends_perform_failsAt ((Proc.Only.attempt (Proc.Only.any _)).bind fun r _ => ?_) b
  split
  · exact .pure nofun
  · exact only_describe_failsAt name s _

theorem ends_importedNamespace_failsAt (name : String) (promise : Value) (b : Bridge) :
    Ends (importedNamespace name promise) b fun r b' =>
      ∀ e, r = .error e → FailsAt name .resolution e b' := by
  obtain ⟨s, hs⟩ := Proc.Reads.promiseState? promise b.world
  have hreason (reason : String) (e : BridgeError)
      (he : (Except.error (.module name .resolution reason) : Except BridgeError Value) =
        .error e) :
      ∃ reason, e = .module name .resolution reason := by
    cases he
    exact ⟨reason, rfl⟩
  refine ends_perform_bind hs (ends_perform_failsAt ?_ b)
  split
  · exact .pure nofun
  · exact .pure (hreason _)
  · exact only_describe_failsAt name .resolution _
  · exact .pure (hreason _)

/-- **An evaluation that has failed is told as such.** -/
theorem ends_checkEvaluation_threw (h : b.Threw name v) :
    Ends (checkEvaluation name) b fun r b' =>
      ∃ e, r = .error e ∧ FailsAt name .evaluation e b' := by
  obtain ⟨p, hp, hv⟩ := h
  refine .get_bind ?_
  rw [hp]
  refine (ends_perform_of (P := fun r => ∃ reason, r = .error (.module name .evaluation reason))
    (E := False) ?_).mono ?_
  · rw [Proc.run_bind, run_promiseState?, hv]
    exact (Exchange.only_describe v).bind (fun x _ => .pure ⟨_, rfl⟩) b.world
  · rintro r b' (⟨hhalted, rfl⟩ | ⟨reason, rfl⟩ | ⟨h, -⟩)
    · exact ⟨_, rfl, .inl hhalted⟩
    · exact ⟨_, rfl, .inr ⟨reason, rfl⟩⟩
    · exact h.elim

/-- One that has not failed is not. -/
theorem ends_checkEvaluation_calm (h : ∀ v, ¬b.Threw name v) :
    Ends (checkEvaluation name) b fun r b' => ∀ e, r = .error e → b'.isHalted = true := by
  refine .get_bind ?_
  split
  · rename_i promise hp
    obtain ⟨s, hs⟩ := Proc.Reads.promiseState? promise b.world
    have hcalm (v : Value) : s ≠ some (.rejected v) := by
      rintro rfl
      cases promise with
      | object p =>
        rw [run_promiseState?] at hs
        injection hs with hs
        exact h v ⟨p, hp, hs⟩
      | _ => cases hs
    refine (ends_perform_of (P := fun r => r = .ok ()) (E := False) ?_).mono ?_
    · rw [Proc.run_bind, hs]
      rcases s with _ | _ | _ | v
      · rfl
      · rfl
      · rfl
      · exact absurd rfl (hcalm v)
    · rintro r b' (⟨hhalted, -⟩ | rfl | ⟨h, -⟩) e he
      · exact hhalted
      · cases he
      · exact h.elim
  · exact .pure nofun

/-- **What an import of a declared module fails with**, if its evaluation is not known to have
failed. -/
theorem ends_importDeclared_calm (h : ∀ v, ¬b.Threw u.name v) :
    Ends (importDeclared u) b fun r b' => ∀ e, r = .error e → FailsAt u.name .resolution e b' := by
  refine (ends_checkEvaluation_calm h).bind (fun _ b₁ _ => ?_) fun e b₁ h₁ _ _ => .inl (h₁ e rfl)
  refine (ends_stage_failsAt _ _ _ b₁).bind (fun promise b₂ _ => ?_) fun e b₂ h₂ e' he' => ?_
  · refine Ends.bind (succeeds_drain.discard b₂) (fun _ b₃ _ => ?_) ?_
    · exact ends_importedNamespace_failsAt u.name promise b₃
    · rintro e _ ⟨_, ⟨⟩⟩
  · cases he'
    exact h₂ e rfl

/-- A declared module is not declared again. -/
theorem ends_ensureDeclared_declared (h : b.modules.isDeclared u.name = true) :
    Ends (ensureDeclared u) b fun r b' => (∃ a, r = .ok a) ∧ SameEvaluations b b' := by
  refine .get_bind ?_
  rw [if_pos h]
  exact ⟨succeeds_drain.discard b, engineFrame_sameEvaluations.frame.drain.discard b⟩

theorem ends_importDeclared_threw (h : b.Threw u.name v) :
    Ends (importDeclared u) b fun r b' => ∃ e, r = .error e ∧ FailsAt u.name .evaluation e b' := by
  refine (ends_checkEvaluation_threw h).bind ?_ ?_
  · rintro _ _ ⟨_, ⟨⟩, -⟩
  · rintro e b₁ ⟨_, ⟨⟩, hfails⟩
    exact ⟨e, rfl, hfails⟩

/-- **Every import of a module whose evaluation has failed tells that.** -/
theorem ends_importNamespace_threw (hsound : b.Sound) (h : b.Threw u.name v) :
    Ends (importNamespace u) b fun r b' => ∃ e, r = .error e ∧ FailsAt u.name .evaluation e b' := by
  rw [importNamespace_eq]
  have hensure := (((keeps_ensureDeclared_advances u).ends b).and
    ((keeps_ensureDeclared_recalls u).ends b)).and (ends_ensureDeclared_idle u b)
  refine hensure.bind (fun _ b₁ h₁ => ?_) fun e b₁ h₁ => ?_
  · exact ends_importDeclared_threw (h.of_recalls h₁.1.2 (h₁.1.1 hsound).2.world.settled)
  · rw [h.isDeclared] at h₁
    cases h₁.2.2 e rfl

end BridgeM

namespace Bridge

variable {c : BridgeConfig} {events : List Event} {b b₁ : Bridge} {name : String} {v : Value}
  {blob : List UInt8} {u : CompiledUnit}

/-! ### Throughout a run -/

/-- What a load of the name comes to after an evaluation has failed. -/
theorem Threw.step_loadBlob (h : b.Threw name v) (hsound : b.Sound)
    (hnone : b.modules.namespaces.lookup name = none) (blob : List UInt8) :
    (b.step (.loadBlob blob)).2.modules.namespaces.lookup name = none ∧
      ∀ u, CompiledUnit.deserialize blob = .ok u → u.kind = .module → u.name = name →
        ∃ e, (b.step (.loadBlob blob)).1 = .error e ∧
          FailsAt name .evaluation e (b.step (.loadBlob blob)).2 := by
  obtain ⟨hnone', hfails⟩ := BridgeM.ends_loadBlob_of_fails (P := FailsAt name .evaluation) blob
    (fun u hu => hu ▸ BridgeM.ends_importNamespace_threw hsound (hu.symm ▸ h)) hnone
  rw [step, Operation.program, exec_map]
  refine ⟨hnone', fun u hu hkind heq => ?_⟩
  obtain ⟨e, he, hat⟩ := hfails u hu heq
  exact ⟨e, by rw [he]; rfl, hat hkind⟩

/-- One operation leaves it failed, with no namespace kept for the module. -/
theorem Threw.step (h : b.Threw name v) (run : Run c events b)
    (hnone : b.modules.namespaces.lookup name = none) (op : Operation) :
    (b.step op).2.Threw name v ∧ (b.step op).2.modules.namespaces.lookup name = none := by
  obtain ⟨hsound, hbooks⟩ := run.sound
  refine ⟨h.of_recalls (recalls_step b op) (hsound.step hbooks op).settled, ?_⟩
  by_cases hop : ∃ blob, op = .loadBlob blob
  · obtain ⟨blob, rfl⟩ := hop
    exact (h.step_loadBlob hsound hnone blob).1
  · have hsame := op.keeps_sameNamespaces (fun blob heq => hop ⟨blob, heq⟩) b
    exact (congrArg (List.lookup name) hsame).trans hnone

theorem Threw.after (h : b.Threw name v) (run : Run c events b)
    (hnone : b.modules.namespaces.lookup name = none) (ops : List Operation) :
    (b.after ops).Threw name v ∧ (b.after ops).modules.namespaces.lookup name = none := by
  induction ops generalizing events b with
  | nil => exact ⟨h, hnone⟩
  | cons op ops ih =>
    obtain ⟨h', hnone'⟩ := h.step run hnone op
    exact ih h' (run.step op) hnone'

/-- The evaluation of a module has failed, and whatever the host does, every load of the name tells
that. -/
structure ToldForGood (b : Bridge) (name : String) (v : Value) : Prop where
  threw : ∀ ops, (b.after ops).Threw name v
  told : ∀ (ops : List Operation) {blob : List UInt8} {u : CompiledUnit},
    CompiledUnit.deserialize blob = .ok u → u.kind = .module → u.name = name →
    ∃ e, ((b.after ops).step (.loadBlob blob)).1 = .error e ∧
      FailsAt name .evaluation e ((b.after ops).step (.loadBlob blob)).2

/-- **An evaluation that has failed is told for good.** -/
theorem Threw.toldForGood (h : b.Threw name v) (run : Run c events b)
    (hnone : b.modules.namespaces.lookup name = none) : b.ToldForGood name v where
  threw ops := (h.after run hnone ops).1
  told ops blob u hu hkind heq := by
    obtain ⟨more, -, run'⟩ := run.after ops
    obtain ⟨h', hnone'⟩ := h.after run hnone ops
    exact (h'.step_loadBlob run'.sound.1 hnone' blob).2 u hu hkind heq

/-! ### Loads of modules whose namespace is not kept -/

/-- What is left of an import once the module is declared. -/
theorem exec_importNamespace_of_declared (h : exec (BridgeM.ensureDeclared u) b = (.ok (), b₁)) :
    exec (BridgeM.importNamespace u) b = exec (BridgeM.importDeclared u) b₁ := by
  rw [BridgeM.importNamespace_eq, exec_bind, h]

/-- A module that no import brought in has been run by the bridge. -/
theorem hasNoted_of_not_imported (hnone : b.modules.namespaces.lookup u.name = none)
    (h : exec (BridgeM.ensureDeclared u) b = (.ok (), b₁))
    (hnew : u.name ∉ b.modules.table.imported) : b₁.hasNoted u.name = true := by
  have hidle := BridgeM.ends_ensureDeclared_idle u b
  rw [Ends, h] at hidle
  refine (hidle.1 () rfl).2 ?_
  cases hdeclared : b.modules.isDeclared u.name with
  | false => exact .inr rfl
  | true =>
    exact .inl (by simpa [ModuleRegistry.isDeclared, hasNoted, hnone, hnew] using hdeclared)

section loads

variable (hu : CompiledUnit.deserialize blob = .ok u) (hkind : u.kind = .module)
  (hnone : b.modules.namespaces.lookup u.name = none)

include hu hkind hnone

/-- Such a load fails as its import does. -/
theorem step_loadBlob_new :
    (∃ ns h, (exec (BridgeM.importNamespace u) b).1 = .ok ns ∧
      (b.step (.loadBlob blob)).1 = .ok (.handle h)) ∨
      ∃ e b', exec (BridgeM.importNamespace u) b = (.error e, b') ∧
        b.step (.loadBlob blob) = (.error e, b') := by
  rw [step, Operation.program, exec_map, BridgeM.loadBlob, hu]
  dsimp only
  rw [if_neg (not_not.2 hkind), exec_bind, BridgeM.loadNamespace, exec_bind, exec_get]
  dsimp only
  rw [hnone]
  dsimp only
  rw [exec_bind]
  rcases exec (BridgeM.importNamespace u) b with ⟨e | ns, b'⟩
  · exact .inr ⟨e, b', rfl, rfl⟩
  · exact .inl ⟨ns, _, rfl, rfl⟩

/-- The module cannot be declared. -/
theorem step_loadBlob_early {e : BridgeError}
    (h : exec (BridgeM.ensureDeclared u) b = (.error e, b₁)) :
    b.step (.loadBlob blob) = (.error e, b₁) := by
  have himport : exec (BridgeM.importNamespace u) b = (.error e, b₁) := by
    rw [BridgeM.importNamespace_eq, exec_bind, h]
  obtain ⟨_, _, hok, -⟩ | ⟨e', b', hexec, hstep⟩ := step_loadBlob_new hu hkind hnone
  · rw [himport] at hok
    cases hok
  · cases himport.symm.trans hexec
    exact hstep

/-- Its evaluation is not known to have failed. -/
theorem step_loadBlob_calm (h : exec (BridgeM.ensureDeclared u) b = (.ok (), b₁))
    (hcalm : ∀ v, ¬b₁.Threw u.name v) {e : BridgeError}
    (he : (b.step (.loadBlob blob)).1 = .error e) :
    FailsAt u.name .resolution e (b.step (.loadBlob blob)).2 := by
  have hfails := BridgeM.ends_importDeclared_calm hcalm
  rw [Ends, ← exec_importNamespace_of_declared h] at hfails
  obtain ⟨_, _, -, hok⟩ | ⟨e', b', hexec, hstep⟩ := step_loadBlob_new hu hkind hnone
  · rw [hok] at he
    cases he
  · rw [hexec] at hfails
    rw [hstep] at he ⊢
    cases he
    exact hfails e rfl

/-- It has failed. -/
theorem step_loadBlob_threw (run : Run c events b)
    (h : exec (BridgeM.ensureDeclared u) b = (.ok (), b₁)) (hthrew : b₁.Threw u.name v) :
    (∃ e, (b.step (.loadBlob blob)).1 = .error e ∧
      FailsAt u.name .evaluation e (b.step (.loadBlob blob)).2) ∧
    (b.step (.loadBlob blob)).2.ToldForGood u.name v := by
  have hadvances := BridgeM.keeps_ensureDeclared_advances u b
  rw [h] at hadvances
  have hsound : b₁.Sound := (hadvances run.sound.1).1
  obtain ⟨e, he, hfails⟩ := BridgeM.ends_importDeclared_threw hthrew
  have hlater := hthrew.of_recalls (frame_recalls.importDeclared u b₁)
    (frame_advances.importDeclared u b₁ hsound).2.world.settled
  have hsame := frame_sameNamespaces.importNamespace (fun _ _ => rfl) (fun _ _ => rfl) u b
  have hnone' := (congrArg (List.lookup u.name) hsame).trans hnone
  rw [← exec_importNamespace_of_declared h] at he hfails hlater
  obtain ⟨_, _, hok, -⟩ | ⟨e', b', hexec, hstep⟩ := step_loadBlob_new hu hkind hnone
  · rw [hok] at he
    cases he
  · have run' := run.step (.loadBlob blob)
    rw [hexec] at he hfails hlater hnone'
    rw [hstep] at run' ⊢
    cases he
    exact ⟨⟨e, rfl, hfails⟩, hlater.toldForGood run' hnone'⟩

end loads

/-- At which stage a load of a module fails whose namespace is not kept; `b₁` is the bridge when the
module is declared, by this load or before it, and the jobs have run. -/
structure ThrownBodies (b : Bridge) (blob : List UInt8) (u : CompiledUnit) : Prop where
  /-- If the module cannot be declared, the load fails with that. -/
  early : ∀ {b₁ e}, exec (BridgeM.ensureDeclared u) b = (.error e, b₁) →
    b.modules.isDeclared u.name = false ∧ b.step (.loadBlob blob) = (.error e, b₁)
  /-- Unless an import brought the module in, the bridge has the promise for its evaluation: it has
  run the module itself, from this blob, another one, or its source. -/
  noted : ∀ {b₁}, exec (BridgeM.ensureDeclared u) b = (.ok (), b₁) →
    u.name ∉ b.modules.table.imported → b₁.hasNoted u.name = true
  /-- If the evaluation has failed by then, the load tells that, and so does every later one. -/
  thrown : ∀ {b₁ v}, exec (BridgeM.ensureDeclared u) b = (.ok (), b₁) → b₁.Threw u.name v →
    (∃ e, (b.step (.loadBlob blob)).1 = .error e ∧
      FailsAt u.name .evaluation e (b.step (.loadBlob blob)).2) ∧
    (b.step (.loadBlob blob)).2.ToldForGood u.name v
  /-- If it has failed before, all loads tell that. -/
  lasting : ∀ {v}, b.Threw u.name v → b.ToldForGood u.name v
  /-- If it is not known to have failed, the load tells no failure but that of its import. -/
  calm : ∀ {b₁}, exec (BridgeM.ensureDeclared u) b = (.ok (), b₁) →
    (∀ v, ¬b₁.Threw u.name v) → ∀ e, (b.step (.loadBlob blob)).1 = .error e →
      FailsAt u.name .resolution e (b.step (.loadBlob blob)).2
  /-- So it is with every module that only an import brought in, whatever its body did. -/
  imported : b.modules.isDeclared u.name = true → b.hasNoted u.name = false →
    ∀ e, (b.step (.loadBlob blob)).1 = .error e →
      FailsAt u.name .resolution e (b.step (.loadBlob blob)).2

/-- **A body that threw is told at the stage of evaluation**, by this load and by all that follow,
if the bridge ran the module itself. -/
theorem thrown_bodies (run : Run c events b) (hu : CompiledUnit.deserialize blob = .ok u)
    (hkind : u.kind = .module) (hnone : b.modules.namespaces.lookup u.name = none) :
    ThrownBodies b blob u where
  early h := by
    have hidle := BridgeM.ends_ensureDeclared_idle u b
    rw [Ends, h] at hidle
    exact ⟨hidle.2 _ rfl, step_loadBlob_early hu hkind hnone h⟩
  noted := hasNoted_of_not_imported hnone
  thrown := step_loadBlob_threw hu hkind hnone run
  lasting h := h.toldForGood run hnone
  calm h hcalm _ := step_loadBlob_calm hu hkind hnone h hcalm
  imported hdeclared hnoted e he := by
    obtain ⟨⟨_, hok⟩, hsame⟩ := BridgeM.ends_ensureDeclared_declared (u := u) hdeclared
    refine step_loadBlob_calm hu hkind hnone (Prod.ext hok rfl) (fun v hthrew => ?_) he
    obtain ⟨p, hp, -⟩ := hthrew
    rw [hsame] at hp
    simp [hasNoted, hp] at hnoted

/-- A module whose body throws. -/
def boom : CompiledUnit := ⟨"b.js", .module, Payload.encode ⟨.module, "b.js", "throw 1"⟩⟩

theorem deserialize_boom : CompiledUnit.deserialize boom.serialize = .ok boom :=
  CompiledUnit.deserialize_eq_ok_iff.2 ⟨⟨by decide +kernel, by decide +kernel⟩, rfl⟩

/-- What a host does to have it brought in by an import. -/
def bringsIn : List Operation :=
  [.registerModule boom.serialize, .loadSource "a.js" "import 'b.js'"]

set_option maxRecDepth 100000 in
/-- A new bridge that runs it keeps the promise, which is rejected.  One that has it by an import
keeps none, and loading it fails all the same. -/
theorem ran_boom : (create {} {}).toOption.map (fun r =>
    let declared := exec (BridgeM.ensureDeclared boom) r.1
    let b := r.1.after bringsIn
    let loaded := b.step (.loadBlob boom.serialize)
    ((declared.1.toOption, (declared.2.failure? boom.name).isSome),
      b.modules.isDeclared boom.name, b.hasNoted boom.name,
      (b.modules.namespaces.lookup boom.name).isSome, loaded.1.toOption.isSome,
      loaded.2.isHalted)) = some ((some (), true), true, false, false, false, false) := by
  decide +kernel

/-- It holds of a new bridge, where the body throws, and of one where it threw in an import. -/
theorem thrown_bodies_boom :
    (∃ b b₁ v, Run {} [] b ∧ ThrownBodies b boom.serialize boom ∧
      exec (BridgeM.ensureDeclared boom) b = (.ok (), b₁) ∧ b₁.Threw boom.name v) ∧
    ∃ events b reason, Run {} events b ∧ ThrownBodies b boom.serialize boom ∧
      (b.step (.loadBlob boom.serialize)).1 = .error (.module boom.name .resolution reason) := by
  have hran := ran_boom
  obtain ⟨b, tags, hcreate, -, -, hnew⟩ := exists_create_undeclared
  have run : Run {} [] b := .create hcreate
  obtain ⟨events, -, run'⟩ := run.after bringsIn
  rw [hcreate] at hran
  replace hran := Option.some.inj hran
  simp only [Prod.mk.injEq] at hran
  obtain ⟨⟨hok, hthrew⟩, hdecl, hnoted, hnone, hfails, hhalted⟩ := hran
  constructor
  · obtain ⟨v, hv⟩ := Option.isSome_iff_exists.1 hthrew
    refine ⟨b, _, v, run,
      thrown_bodies run deserialize_boom rfl (lookup_of_not_declared (hnew _)),
      Prod.ext ?_ rfl, failure?_eq_some_iff.1 hv⟩
    cases h : (exec (BridgeM.ensureDeclared boom) b).1 with
    | ok a => rfl
    | error e =>
      rw [h] at hok
      cases hok
  · have hbodies := thrown_bodies run' deserialize_boom rfl
      (Option.isNone_iff_eq_none.1 (Option.isSome_eq_false_iff.1 hnone))
    cases h : ((b.after bringsIn).step (.loadBlob boom.serialize)).1 with
    | ok a =>
      rw [h] at hfails
      cases hfails
    | error e =>
      obtain hcut | ⟨reason, rfl⟩ := hbodies.imported hdecl hnoted e h
      · rw [hhalted] at hcut
        cases hcut
      · exact ⟨_, _, reason, run', hbodies, h⟩

end Bridge

end ScriptBridge
