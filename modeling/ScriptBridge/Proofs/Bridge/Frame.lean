import ScriptBridge.Bridge.Host
import ScriptBridge.Bridge.Units
import ScriptBridge.Proofs.Program

/-!
# What operations of a bridge leave alone

An operation changes a bridge by running the engine, and in a few places by itself.  `Engine R` says
of a preorder `R` that runs of the engine keep it.  `Core R` says besides that it does not see the
changes that most operations make by themselves, but for those of the handles and of the host
functions; `Inner R` says it of the host functions too, and `Frame R` of both.

* `exec_perform` : what running a procedure does to a bridge.
* `CoreEngine.core` : a relation that does not look at the heap is kept by every run of the engine
  if every answer to a script keeps it.
* `Engine.toJson`, `Core.drain`, … : **every operation that yields no handle keeps `R`**, those that
  end async calls or handle modules under a condition of their own.
* `Engine.getProperty`, `Core.loadBlob`, … : **every other operation gives** (`Gives R`): it puts
  one value under a handle if it succeeds, none if it fails, and keeps `R` before and after that.
* `Inner.registerHost` : and so does the operation that installs a host function.
-/

namespace ScriptBridge

open Script

variable {R : Bridge → Bridge → Prop} {α : Type}

namespace BridgeM

/-- Every run of the engine keeps the relation. -/
structure Engine (R : Bridge → Bridge → Prop) : Prop where
  perform : ∀ {α : Type} (p : Proc (Except BridgeError α)), Keeps R (perform p)

/-- Besides, it does not see what most operations change by themselves, apart from handles and host
functions. -/
structure Core (R : Bridge → Bridge → Prop) : Prop extends Engine R where
  jobs : ∀ b js, R b { b with world := { b.world with jobs := js } }
  /-- The engine is not used any more once it was cut off. -/
  halt : ∀ b v, b.isHalted = false → R b { b with isHalted := v }
  output : ∀ b ls, R b { b with output := ls }
  stdout : ∀ b ls, R b { b with stdout := ls }
  failures : ∀ b fs, R b { b with failures := fs }

/-- The relation does not see host functions that are installed. -/
structure Inner (R : Bridge → Bridge → Prop) : Prop extends Core R where
  functions : ∀ b fs, R b { b with functions := fs }
  descriptors : ∀ b ds, R b { b with descriptors := ds }

/-- The relation does not see handles that come and go. -/
structure CoreFrame (R : Bridge → Bridge → Prop) : Prop extends Core R where
  insert : ∀ b v, R b { b with handles := (b.handles.insert v).2 }
  released : ∀ b h t, b.handles.release? h = some t → R b { b with handles := t }

/-- The relation sees neither. -/
structure Frame (R : Bridge → Bridge → Prop) : Prop extends Inner R, CoreFrame R

/-- What is kept by itself is kept together. -/
theorem Frame.and {R' : Bridge → Bridge → Prop} (F : Frame R) (F' : Frame R') :
    Frame fun b b' => R b b' ∧ R' b b' where
  perform p b := ⟨F.perform p b, F'.perform p b⟩
  jobs b js := ⟨F.jobs b js, F'.jobs b js⟩
  halt b v hb := ⟨F.halt b v hb, F'.halt b v hb⟩
  functions b fs := ⟨F.functions b fs, F'.functions b fs⟩
  descriptors b ds := ⟨F.descriptors b ds, F'.descriptors b ds⟩
  output b ls := ⟨F.output b ls, F'.output b ls⟩
  stdout b ls := ⟨F.stdout b ls, F'.stdout b ls⟩
  failures b fs := ⟨F.failures b fs, F'.failures b fs⟩
  insert b v := ⟨F.insert b v, F'.insert b v⟩
  released b h t ht := ⟨F.released b h t ht, F'.released b h t ht⟩

/-- The relation does not see the heap, nor what most operations change by themselves, apart from
handles and host functions, and every answer to a script keeps it. -/
structure CoreEngine (R : Bridge → Bridge → Prop) : Prop where
  world : ∀ b w, R b { b with world := w }
  suspended : ∀ b s, R b { b with suspended := s }
  /-- The engine is not used any more once it was cut off. -/
  halt : ∀ b v, b.isHalted = false → R b { b with isHalted := v }
  /-- Calls of a host function are counted. -/
  called : ∀ b id, R b { b with
    functions := b.functions.modify id fun f => { f with calls := f.calls + 1 } }
  output : ∀ b ls, R b { b with output := ls }
  stdout : ∀ b ls, R b { b with stdout := ls }
  failures : ∀ b fs, R b { b with failures := fs }
  issue : ∀ b call payload, R b { b with ledger := b.ledger.issue call payload }
  table : ∀ b c, R b { b with modules := { b.modules with table := (b.modules.table.serve c).2 } }

/-- The relation does not see host functions that are installed. -/
structure InnerEngine (R : Bridge → Bridge → Prop) : Prop extends CoreEngine R where
  functions : ∀ b fs, R b { b with functions := fs }
  descriptors : ∀ b ds, R b { b with descriptors := ds }
  called := fun b _ => functions b _

/-- The relation does not see handles that come and go either. -/
structure EngineFrame (R : Bridge → Bridge → Prop) : Prop extends InnerEngine R where
  insert : ∀ b v, R b { b with handles := (b.handles.insert v).2 }
  released : ∀ b h t, b.handles.release? h = some t → R b { b with handles := t }

namespace CoreEngine

variable [IsPreorder Bridge R] (F : CoreEngine R)

include F

/-! ### Runs of the engine -/

theorem serve (b : Bridge) (w : World) (h : HostCall) :
    R b (b.serve w h).2.2 ∧ (b.serve w h).2.2.isHalted = b.isHalted := by
  cases h with
  | print line =>
    rw [Bridge.serve, Bridge.printLine]
    split
    · exact ⟨F.output b _, rfl⟩
    · exact ⟨F.stdout b _, rfl⟩
    · exact ⟨refl_of R b, rfl⟩
    · exact ⟨refl_of R b, rfl⟩
  | startAsync payload => exact ⟨F.issue b _ _, rfl⟩
  | call id args =>
    rw [Bridge.serve]
    split
    · exact ⟨F.called b id, rfl⟩
    · exact ⟨refl_of R b, rfl⟩
  | modules c => exact ⟨F.table b c, rfl⟩

/-- A run of the engine changes the bridge by its heap, by the code that waits, and by the answers
to what scripts ask for. -/
theorem runFor (fuel : Nat) (r : Running α) (b : Bridge) (hb : b.isHalted = false) :
    R b (Bridge.runFor fuel r b).2 ∧ (Bridge.runFor fuel r b).2.isHalted = false := by
  induction fuel generalizing r b with
  | zero => exact ⟨F.world b _, hb⟩
  | succ fuel ih =>
    rw [Bridge.runFor]
    split
    · exact ⟨F.world b _, hb⟩
    · exact ⟨F.world b _, hb⟩
    · rename_i r s _
      obtain ⟨hrun, hhalt⟩ := ih r { b with suspended := s } hb
      exact ⟨trans_of R (F.suspended b s) hrun, hhalt⟩
    · rename_i h w k _
      obtain ⟨hserve, hsame⟩ := F.serve b w h
      obtain ⟨hrun, hhalt⟩ := ih (k (b.serve w h).1 (b.serve w h).2.1) (b.serve w h).2.2
        (hsame.trans hb)
      exact ⟨trans_of R hserve hrun, hhalt⟩

end CoreEngine

/-- What the outcome of a run is for the host. -/
def outcomeOf : Option (Except Value (Except BridgeError α)) → Except BridgeError α
  | some (.ok r) => r
  | some (.error _) => .error (.engine .refused)
  | none => .error (.engine .exhausted)

theorem exec_checkRunning (b : Bridge) : exec checkRunning b =
    if b.isHalted then (.error (.engine .exhausted), b) else (.ok (), b) := by
  rw [checkRunning, exec_bind, exec_get]
  simp only
  split_ifs <;> rfl

/-- Running a procedure: a bridge whose engine was cut off is left alone. -/
theorem exec_perform (p : Proc (Except BridgeError α)) (b : Bridge) : exec (perform p) b =
    if b.isHalted then (.error (.engine .exhausted), b)
    else
      let run := Bridge.runFor Bridge.stepLimit (.top (p b.world)) { b with world := default }
      (outcomeOf run.1, { run.2 with isHalted := run.1.isNone }) := by
  rw [perform, exec_bind, exec_checkRunning]
  split_ifs with hb
  · rfl
  · simp only [exec_bind, exec_get, exec_set]
    rcases Bridge.runFor Bridge.stepLimit (.top (p b.world))
      { b with world := default } with ⟨r, b'⟩
    rcases r with _ | _ | _ | _ <;> rfl

/-- **Every run of the engine keeps the relation**, as long as the engine was not cut off. -/
theorem CoreEngine.perform [IsPreorder Bridge R] (F : CoreEngine R)
    (p : Proc (Except BridgeError α)) : Keeps R (perform p) := by
  intro b
  rw [exec_perform]
  split_ifs with hb
  · exact refl_of R b
  · obtain ⟨hrun, hhalt⟩ := F.runFor Bridge.stepLimit (.top (p b.world))
      { b with world := default } (Bool.eq_false_iff.2 hb)
    exact trans_of R (F.world b _) (trans_of R hrun (F.halt _ _ hhalt))

theorem CoreEngine.core [IsPreorder Bridge R] (F : CoreEngine R) : Core R where
  perform := F.perform
  jobs b _ := F.world b _
  halt := F.halt
  output := F.output
  stdout := F.stdout
  failures := F.failures

theorem InnerEngine.inner [IsPreorder Bridge R] (F : InnerEngine R) : Inner R where
  toCore := F.core
  functions := F.functions
  descriptors := F.descriptors

theorem EngineFrame.frame [IsPreorder Bridge R] (F : EngineFrame R) : Frame R where
  toInner := F.inner
  insert := F.insert
  released := F.released

/-! ### Jobs never fail -/

theorem succeeds_runJob (j : Job) : Succeeds (runJob j) := .tryCatch fun _ => .pure _

theorem succeeds_drainFor (fuel : Nat) (report : DrainReport) :
    Succeeds (drainFor fuel report) := by
  induction fuel generalizing report with
  | zero => exact (Succeeds.modify _).bind fun _ => .pure _
  | succ fuel ih =>
    refine Succeeds.get.bind fun b => ?_
    split
    · exact .pure _
    · exact (Succeeds.modify _).bind fun _ => (succeeds_runJob _).bind fun _ => ih _

/-- Running the jobs never fails: what goes wrong in a job is reported. -/
theorem succeeds_drain : Succeeds drain :=
  (succeeds_drainFor _ _).bind fun _ => (Succeeds.modify _).bind fun _ => .pure _

/-! ### Programs that yield a handle -/

/-- The program puts one value under a handle if it succeeds, and none if it fails; it keeps the
relation before that and after. -/
def Gives (R : Bridge → Bridge → Prop) (p : BridgeM Handle) : Prop :=
  ∀ b, Ends p b fun r b' =>
    match r with
    | .error _ => R b b'
    | .ok h => ∃ b₁ v, R b b₁ ∧ (b₁.handles.insert v).1 = h ∧
        R { b₁ with handles := (b₁.handles.insert v).2 } b'

namespace Gives

variable [IsPreorder Bridge R]

theorem keep (v : Value) : Gives R (keep v) :=
  fun b => ⟨b, v, refl_of R b, rfl, refl_of R _⟩

theorem throw (e : BridgeError) : Gives R (MonadExcept.throw e) := fun b => refl_of R b

omit [IsPreorder Bridge R] in
theorem ite {c : Prop} [Decidable c] {p q : BridgeM Handle} (hp : Gives R p) (hq : Gives R q) :
    Gives R (if c then p else q) := by
  split_ifs
  · exact hp
  · exact hq

theorem bind {p : BridgeM α} {f : α → BridgeM Handle} (hp : Keeps R p) (hf : ∀ a, Gives R (f a)) :
    Gives R (p >>= f) := by
  intro b
  refine (hp.ends b).bind (fun a b₁ h₁ => (hf a b₁).mono fun r b' hr => ?_) fun _ _ h₁ => h₁
  cases r with
  | error e => exact trans_of R h₁ hr
  | ok h =>
    obtain ⟨b₂, v, h₂, hv⟩ := hr
    exact ⟨b₂, v, trans_of R h₁ h₂, hv⟩

end Gives

/-- The program puts a value under a handle and then runs the jobs, unless it fails at once. -/
def FailsOrDrains (R : Bridge → Bridge → Prop) (p : BridgeM Handle) : Prop :=
  (∃ e, p = throw e) ∨ ∃ q, p = thenDrain q ∧ Gives R q

/-! ### Programs without a run of the engine -/

namespace Core

theorem updateLedger (ledger : ∀ b l, R b { b with ledger := l })
    (f : Ledger Ref → α × Ledger Ref) : Keeps R (updateLedger f) :=
  .modifyGet fun b => ledger b _

variable [IsPreorder Bridge R]

theorem checkRunning : Keeps R checkRunning := Keeps.get.bind fun _ => (Keeps.throw _).ite (.pure _)

theorem value (h : Handle) : Keeps R (value h) := Keeps.get.bind fun _ => .ofExcept _

variable (table : ∀ b t, R b { b with modules := { b.modules with table := t } })

include table

theorem updateTable (p : Loading α) : Keeps R (updateTable p) :=
  checkRunning.bind fun _ => .modifyGet fun b => table b _

theorem registerModule (blob : List UInt8) : Keeps R (registerModule blob) := by
  unfold BridgeM.registerModule
  split
  · exact .throw _
  · exact Keeps.ite (.throw _) ((Keeps.modify fun b => table b _).bind fun _ => .pure _)

end Core

/-! ### Programs that run the engine -/

namespace Engine

section steps

variable (F : Engine R)

include F

theorem evaluate (p : Crossing α) : Keeps R (evaluate p) := F.perform _

theorem require (p : Proc α) : Keeps R (require p) := F.perform _

theorem stage (name : String) (s : ModuleStage) (p : Proc α) : Keeps R (stage name s p) :=
  F.perform _

theorem importedNamespace (name : String) (promise : Value) :
    Keeps R (importedNamespace name promise) := F.perform _

end steps

variable [IsPreorder Bridge R] (F : Engine R)

include F

/-! ### Values -/

theorem createNamespace (name : String) : Gives R (createNamespace name) :=
  (Gives.throw _).ite (.bind (F.require _) fun _ => .keep _)

theorem callMethod (target : Handle) (name : String) (args : List Handle) :
    FailsOrDrains R (callMethod target name args) := by
  refine .inr ⟨_, rfl, .bind (Core.value _) fun this => ?_⟩
  refine Gives.ite ?_ (.throw _)
  refine .bind (F.evaluate _) fun f => .bind (F.evaluate _) fun callable => ?_
  refine Gives.ite ?_ (.throw _)
  exact .bind (.mapM Core.value _) fun _ => .bind (F.evaluate _) fun _ => .keep _

theorem getProperty (target : Handle) (name : String) : Gives R (getProperty target name) := by
  refine .bind (Core.value _) fun v => Gives.ite ?_ (.throw _)
  exact .bind (F.evaluate _) fun _ => .keep _

theorem getString (h : Handle) : Keeps R (getString h) := (Core.value _).bind fun _ => F.evaluate _

theorem valueKind (h : Handle) : Keeps R (valueKind h) := (Core.value _).bind fun _ => F.evaluate _

theorem getNumber (h : Handle) : Keeps R (getNumber h) := by
  refine (Core.value _).bind fun v => ?_
  split
  · exact .pure _
  · exact (F.valueKind _).bind fun _ => .throw _

theorem toJson (h : Handle) : Keeps R (toJson h) := (Core.value _).bind fun _ => F.evaluate _

theorem fromJson (j : Json) : Gives R (fromJson j) := .bind (F.require _) fun _ => .keep _

/-! ### Promises -/

theorem settlement (h : Handle) : Keeps R (settlement h) := by
  refine (Core.value _).bind fun v => (F.evaluate _).bind fun s => ?_
  split
  · exact .pure _
  · exact .throw _

theorem promiseResult (h : Handle) : Gives R (promiseResult h) := by
  refine .bind (F.settlement _) fun s => ?_
  split
  all_goals exact .keep _

theorem promiseStatus (h : Handle) : Keeps R (promiseStatus h) := by
  refine (F.settlement _).bind fun s => ?_
  split
  all_goals exact .pure _

theorem awaitPromise (h : Handle) : Gives R (awaitPromise h) := by
  refine .bind (F.settlement _) fun s => ?_
  split
  · exact .throw _
  · exact .keep _
  · exact .bind (F.evaluate _) fun _ => .throw _

theorem outcomeValue (o : CallOutcome) : Keeps R (outcomeValue o) := by
  cases o with
  | resolve h => exact (Core.value _).bind fun _ => .pure _
  | resolveJson j => exact (F.require _).bind fun _ => .pure _
  | reject message => exact .pure _

/-! ### Scripts, jobs and modules -/

theorem runJob (j : Job) : Keeps R (runJob j) := (F.perform _).tryCatch fun _ => .pure _

theorem evalScript (filename source : String) : FailsOrDrains R (evalScript filename source) := by
  unfold BridgeM.evalScript
  split
  · exact .inl ⟨_, rfl⟩
  · exact .inr ⟨_, rfl, .bind (F.evaluate _) fun _ => .keep _⟩

theorem checkEvaluation (name : String) : Keeps R (checkEvaluation name) := by
  refine Keeps.get.bind fun b => ?_
  split
  · exact F.perform _
  · exact .pure _

variable (table : ∀ b t, R b { b with modules := { b.modules with table := t } })

include table

theorem tableStage (name : String) (s : ModuleStage) (p : Loading α) :
    Keeps R (tableStage name s p) := by
  refine (Core.updateTable table p).bind fun r => ?_
  split
  · exact .pure _
  · exact F.stage _ _ _

theorem evaluateUnit (u : CompiledUnit) : FailsOrDrains R (evaluateUnit u) := by
  unfold BridgeM.evaluateUnit
  split_ifs
  · exact .inl ⟨_, rfl⟩
  · exact .inr ⟨_, rfl, .bind (Core.updateTable table _).discard fun _ =>
      .bind (F.evaluate _) fun _ => .keep _⟩

variable (evaluations : ∀ b es, R b { b with modules := { b.modules with evaluations := es } })

include evaluations

theorem declareModule (u : CompiledUnit) : Keeps R (declareModule u) := by
  refine Keeps.get.bind fun b => ?_
  split
  · exact .throw _
  · refine (F.tableStage table _ _ _).bind fun id => ?_
    refine (Keeps.modify fun b => table b _).bind fun _ => ?_
    refine (F.tableStage table _ _ _).bind fun _ => ?_
    refine (F.tableStage table _ _ _).bind fun order => ?_
    exact (F.stage _ _ _).bind fun promise => .modify fun b => evaluations b _

theorem loadSource (filename source : String) :
    ∃ p, loadSource filename source = get >>= p ∧ ∀ b, FailsOrDrains R (p b) := by
  refine ⟨_, rfl, fun b => ?_⟩
  dsimp only
  split_ifs
  · exact .inl ⟨_, rfl⟩
  · refine .inr ⟨_, rfl, ?_⟩
    split
    · exact .throw _
    · exact .throw _
    · refine .bind (F.tableStage table _ _ _) fun id => ?_
      refine .bind (F.tableStage table _ _ _) fun _ => ?_
      refine .bind (F.tableStage table _ _ _) fun order => .bind (F.stage _ _ _) fun promise => ?_
      exact .bind (.modify fun b => evaluations b _) fun _ => .keep _

end Engine

/-! ### Programs that run the jobs -/

/-- What an import does once the module is declared. -/
def importDeclared (u : CompiledUnit) : BridgeM Value := do
  checkEvaluation u.name
  let promise ← stage u.name .resolution (Proc.importByName u.name)
  discard drain
  importedNamespace u.name promise

theorem importNamespace_eq (u : CompiledUnit) :
    importNamespace u = ensureDeclared u >>= fun _ => importDeclared u := rfl

namespace Core

section steps

variable (F : Core R)

include F

theorem takeFailures : Keeps R takeFailures := .modifyGet fun b => F.failures b _

theorem takeOutput : Keeps R takeOutput := .modifyGet fun b => F.output b _

theorem takeStdout : Keeps R takeStdout := .modifyGet fun b => F.stdout b _

end steps

variable [IsPreorder Bridge R] (F : Core R)

include F

/-- Draining is cut off where jobs are left. -/
theorem cutOff (b : Bridge) :
    R b { b with isHalted := b.isHalted || !b.world.jobs.isEmpty } := by
  cases hb : b.isHalted with
  | false => exact F.halt b _ hb
  | true =>
    rw [Bool.true_or, ← hb]
    exact refl_of R b

theorem drainFor (fuel : Nat) (report : DrainReport) : Keeps R (drainFor fuel report) := by
  induction fuel generalizing report with
  | zero => exact (Keeps.modify F.cutOff).bind fun _ => .pure _
  | succ fuel ih =>
    refine Keeps.get.bind fun b => ?_
    split
    · exact .pure _
    · exact (Keeps.modify fun b => F.jobs b _).bind fun _ => (F.runJob _).bind fun _ => ih _

theorem drain : Keeps R drain :=
  (F.drainFor _ _).bind fun _ => (Keeps.modify fun b => F.failures b _).bind fun _ => .pure _

/-- The jobs that run after a program do not undo what it came to. -/
theorem ends_thenDrain {p : BridgeM α} {b : Bridge} {Q : Except BridgeError α → Bridge → Prop}
    (hp : Ends p b Q) (hQ : ∀ r b₁ b₂, Q r b₁ → R b₁ b₂ → Q r b₂) : Ends (thenDrain p) b Q := by
  have hobserve : Ends (thenDrain.observing p) b fun r b₁ => ∃ o, r = .ok o ∧ Q o b₁ := ⟨_, rfl, hp⟩
  refine hobserve.bind ?_ ?_
  · rintro outcome b₁ ⟨_, ⟨⟩, h₁⟩
    have hdrain : Ends (discard BridgeM.drain) b₁ fun r b₂ => (∃ a, r = .ok a) ∧ R b₁ b₂ :=
      ⟨succeeds_drain.discard b₁, F.drain.discard b₁⟩
    refine hdrain.bind (fun _ b₂ h₂ => ?_) ?_
    · have h : Q outcome b₂ := hQ outcome b₁ b₂ h₁ h₂.2
      cases outcome with
      | ok a => exact .pure h
      | error e => exact .throw h
    · rintro e _ ⟨⟨_, ⟨⟩⟩, -⟩
  · rintro e _ ⟨_, ⟨⟩, -⟩

theorem keeps_thenDrain {p : BridgeM α} (hp : Keeps R p) : Keeps R (thenDrain p) :=
  .of_ends fun b => F.ends_thenDrain (hp.ends b) fun _ _ _ h h' => trans_of R h h'

theorem thenDrain {p : BridgeM Handle} (hp : Gives R p) : Gives R (thenDrain p) := by
  intro b
  refine F.ends_thenDrain (hp b) fun r b₁ b₂ hr h₂ => ?_
  cases r with
  | error e => exact trans_of R hr h₂
  | ok h =>
    obtain ⟨b₃, v, h₃, hv, h₁⟩ := hr
    exact ⟨b₃, v, h₃, hv, trans_of R h₁ h₂⟩

theorem failsOrDrains {p : BridgeM Handle} (hp : FailsOrDrains R p) : Gives R p := by
  obtain ⟨e, rfl⟩ | ⟨q, rfl, hq⟩ := hp
  · exact .throw e
  · exact F.thenDrain hq

theorem callMethod (target : Handle) (name : String) (args : List Handle) :
    Gives R (callMethod target name args) :=
  F.failsOrDrains (F.toEngine.callMethod _ _ _)

/-! ### Scripts -/

theorem evalScript (filename source : String) : Gives R (evalScript filename source) :=
  F.failsOrDrains (F.toEngine.evalScript _ _)

theorem eval (source : String) : Gives R (eval source) := .bind .get fun _ => F.evalScript _ _

/-! ### Modules -/

theorem importDeclared (u : CompiledUnit) : Keeps R (importDeclared u) :=
  (F.checkEvaluation _).bind fun _ => (F.stage _ _ _).bind fun _ =>
    F.drain.discard.bind fun _ => F.importedNamespace _ _

section declared

variable {u : CompiledUnit} (declares : Keeps R (BridgeM.ensureDeclared u))

include declares

theorem evaluateModuleUnit_of : Gives R (BridgeM.evaluateModuleUnit u) := by
  refine .bind declares fun _ => .bind .get fun b => ?_
  split
  · exact .keep _
  · exact .bind (F.stage _ _ _) fun _ => .keep _

theorem importNamespace_of : Keeps R (BridgeM.importNamespace u) :=
  declares.bind fun _ => F.importDeclared u

theorem loadNamespace_of
    (namespaces : ∀ b ns, R b { b with modules := { b.modules with namespaces := ns } }) :
    Keeps R (BridgeM.loadNamespace u) := by
  refine Keeps.get.bind fun b => ?_
  split
  · exact .pure _
  · refine (F.importNamespace_of declares).bind fun ns => ?_
    exact (Keeps.modify fun b => namespaces b _).bind fun _ => .pure _

end declared

section modules

variable (table : ∀ b t, R b { b with modules := { b.modules with table := t } })

include table

theorem evaluateUnit (u : CompiledUnit) : Gives R (evaluateUnit u) :=
  F.failsOrDrains (F.toEngine.evaluateUnit table u)

variable (evaluations : ∀ b es, R b { b with modules := { b.modules with evaluations := es } })

include evaluations

theorem ensureDeclared (u : CompiledUnit) : Keeps R (ensureDeclared u) := by
  refine Keeps.get.bind fun b => Keeps.ite ?_ ?_
  · exact F.drain.discard
  · exact (F.declareModule table evaluations u).bind fun _ => F.drain.discard

theorem evaluateModuleUnit (u : CompiledUnit) : Gives R (evaluateModuleUnit u) :=
  F.evaluateModuleUnit_of (F.ensureDeclared table evaluations u)

theorem evalBlob (blob : List UInt8) : Gives R (evalBlob blob) := by
  unfold BridgeM.evalBlob
  split
  · exact .throw _
  · split
    · exact F.evaluateUnit table _
    · exact F.evaluateModuleUnit table evaluations _

theorem importNamespace (u : CompiledUnit) : Keeps R (importNamespace u) :=
  F.importNamespace_of (F.ensureDeclared table evaluations u)

theorem loadSource (filename source : String) : Gives R (loadSource filename source) := by
  obtain ⟨p, heq, hp⟩ := F.toEngine.loadSource table evaluations filename source
  rw [heq]
  exact .bind .get fun b => F.failsOrDrains (hp b)

theorem evalSource (filename source : String) (isModule : Bool) :
    Gives R (evalSource filename source isModule) :=
  (F.loadSource table evaluations _ _).ite (F.evalScript _ _)

variable (namespaces : ∀ b ns, R b { b with modules := { b.modules with namespaces := ns } })

include namespaces

theorem loadNamespace (u : CompiledUnit) : Keeps R (loadNamespace u) :=
  F.loadNamespace_of (F.ensureDeclared table evaluations u) namespaces

theorem loadBlob (blob : List UInt8) : Gives R (loadBlob blob) := by
  unfold BridgeM.loadBlob
  split
  · exact .throw _
  · exact Gives.ite (.throw _)
      (.bind (F.loadNamespace table evaluations namespaces _) fun _ => .keep _)

end modules

/-! ### Async calls -/

theorem completeCall (ledger : ∀ b l, R b { b with ledger := l })
    (settle : ∀ b p v, R b { b with world := b.world.conclude p v }) (id : Nat)
    (o : CallOutcome) : Keeps R (completeCall id o) := by
  refine (F.outcomeValue o).bind fun result => Keeps.get.bind fun b => ?_
  split
  · exact .pure _
  · refine (Keeps.modify fun b => ledger b _).bind fun _ => ?_
    refine (Keeps.tryCatch ?_ fun e => ?_).bind fun done => ?_
    · exact (F.evaluate _).bind fun v => .modify fun b => settle b _ v
    · exact (Keeps.modify fun b => ledger b _).bind fun _ => .throw _
    · exact F.drain.discard.bind fun _ => .pure _

end Core

/-! ### Host functions -/

theorem Inner.registerHost [IsPreorder Bridge R] (F : Inner R) (name : String) (arity : Nat)
    (f : HostFunction) : Keeps R (registerHost name arity f) := by
  refine Keeps.ite (.throw _) (Keeps.get.bind fun b => Keeps.ite (.throw _) ?_)
  refine (Keeps.modifyGet fun b => F.functions b _).bind fun id => (F.require _).bind fun _ => ?_
  exact .modifyGet fun b => F.descriptors b _

/-! ### Handles that come and go -/

/-- A program that yields a handle is not seen where new handles are not. -/
theorem Gives.keeps [IsPreorder Bridge R] {p : BridgeM Handle} (hp : Gives R p)
    (insert : ∀ b v, R b { b with handles := (b.handles.insert v).2 }) : Keeps R p := by
  refine .of_ends fun b => (hp b).mono fun r b' hr => ?_
  cases r with
  | error e => exact hr
  | ok h =>
    obtain ⟨b₁, v, h₁, -, h₂⟩ := hr
    exact trans_of R h₁ (trans_of R (insert b₁ v) h₂)

namespace CoreFrame

variable [IsPreorder Bridge R] (F : CoreFrame R)

include F

theorem release (h : Handle) : Keeps R (release h) := by
  refine Keeps.of_ends fun b => .get_bind ?_
  cases ht : b.handles.release? h with
  | some t => exact F.released b h t ht
  | none => exact .throw (refl_of R b)

theorem keeps {p : BridgeM Handle} (hp : Gives R p) : Keeps R p := hp.keeps F.insert

theorem keep (v : Value) : Keeps R (keep v) := F.keeps (.keep v)

end CoreFrame

end BridgeM

end ScriptBridge
