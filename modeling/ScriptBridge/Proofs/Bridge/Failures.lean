import ScriptBridge.Proofs.Bridge.Drain
import ScriptBridge.Proofs.Bridge.Run

/-!
# What jobs throw is reported once

Jobs run in drains, and many operations drain, some of them more than once and also where they fail.
`BridgeM.Drains p b ds` says that a run of `p` from `b` drains exactly the bridges `ds`, one after
the other, and takes no job from the queue besides.  It follows the program step by step.

* `Bridge.Operation.logged` : for **every operation** there are such drains.
* `BridgeM.Drains.accounts` : what a program adds to the failures is what its drains ran into.
* `Bridge.job_failures_kept` : **in every run** the failures that the host has taken, and then those
  that are noted, are what the jobs have thrown, in the order in which they ran.
-/

namespace ScriptBridge

open Script

namespace BridgeM

open Bridge

variable {α β : Type}

/-- The bridges that a run of a program drains, one after the other.  The rest of the program takes
no job from the queue. -/
inductive Drains : {α : Type} → BridgeM α → Bridge → List Bridge → Prop
  /-- Where jobs are only queued, nothing is drained. -/
  | quiet {α : Type} {p : BridgeM α} (hp : Keeps Queues p) (b : Bridge) : Drains p b []
  | drain (b : Bridge) : Drains BridgeM.drain b [b]
  | bind {α β : Type} {p : BridgeM α} {f : α → BridgeM β} {b : Bridge}
    {ds ds' : List Bridge} {a : α}
    (hp : Drains p b ds) (ha : (exec p b).1 = .ok a) (hf : Drains (f a) (exec p b).2 ds') :
    Drains (p >>= f) b (ds ++ ds')
  | bind_error {α β : Type} {p : BridgeM α} {f : α → BridgeM β} {b : Bridge} {ds : List Bridge}
    {e : BridgeError} (hp : Drains p b ds) (he : (exec p b).1 = .error e) : Drains (p >>= f) b ds
  | observe {α : Type} {p : BridgeM α} {b : Bridge} {ds : List Bridge} (hp : Drains p b ds) :
    Drains (thenDrain.observing p) b ds

/-! ### What a program adds to the failures -/

/-- What was noted between two bridges, with the drains between them, is what the jobs threw. -/
structure Accounts (b : Bridge) (ds : List Bridge) (b' : Bridge) : Prop where
  tame : b'.suspended.IsTame
  failures : b'.failures = b.failures ++ thrownBy (ds.flatMap drainRuns)
  drained : ∀ d ∈ ds, d.suspended.IsTame

namespace Accounts

variable {b b₁ b' : Bridge} {ds ds' : List Bridge}

theorem of_queues (hb : b.suspended.IsTame) (h : Queues b b') : Accounts b [] b' := by
  obtain ⟨htame, -, hfailures⟩ := h hb
  exact ⟨htame, hfailures.trans (List.append_nil _).symm, List.forall_mem_nil _⟩

theorem of_drain (hb : b.suspended.IsTame) : Accounts b [b] (exec drain b).2 := by
  obtain ⟨-, hnoted, b₁, hdrained, hb'⟩ := ends_drain b hb
  refine ⟨?_, ?_, List.forall_mem_singleton.2 hb⟩
  · rw [hb']
    exact hdrained.tame
  · rw [List.flatMap_singleton]
    exact hnoted

theorem trans (h : Accounts b ds b₁) (h' : Accounts b₁ ds' b') : Accounts b (ds ++ ds') b' where
  tame := h'.tame
  failures := by
    rw [h'.failures, h.failures, List.flatMap_append, thrownBy, thrownBy, thrownBy,
      List.filterMap_append, List.append_assoc]
  drained := List.forall_mem_append.2 ⟨h.drained, h'.drained⟩

end Accounts

/-- **What a program notes is what the jobs threw** that its drains ran. -/
theorem Drains.accounts {p : BridgeM α} {b : Bridge} {ds : List Bridge} (h : Drains p b ds)
    (hb : b.suspended.IsTame) : Accounts b ds (exec p b).2 := by
  induction h with
  | quiet hp b => exact .of_queues hb (hp b)
  | drain b => exact .of_drain hb
  | @bind _ _ p f b ds ds' a hp ha hf ihp ihf =>
    have hexec : exec (p >>= f) b = exec (f a) (exec p b).2 := by
      rw [exec_bind]
      rcases hrun : exec p b with ⟨r, b₁⟩
      rw [hrun] at ha
      cases ha
      rfl
    rw [hexec]
    exact (ihp hb).trans (ihf (ihp hb).tame)
  | @bind_error _ _ p f b ds e hp he ihp =>
    have hexec : (exec (p >>= f) b).2 = (exec p b).2 := by
      rw [exec_bind]
      rcases hrun : exec p b with ⟨r, b₁⟩
      rw [hrun] at he
      cases he
      rfl
    rw [hexec]
    exact ihp hb
  | observe hp ihp => exact ihp hb

/-! ### Programs whose drains are told -/

/-- In every run of the program, jobs are taken from the queue by drains only. -/
def Logged (p : BridgeM α) : Prop := ∀ b, ∃ ds, Drains p b ds

namespace Logged

variable {p : BridgeM α} {f : α → BridgeM β}

theorem quiet (hp : Keeps Queues p) : Logged p := fun b => ⟨[], .quiet hp b⟩

theorem gives {p : BridgeM Handle} (hp : Gives Queues p) : Logged p :=
  .quiet (hp.keeps fun _ _ => queues_of_eq rfl rfl rfl)

theorem drain : Logged BridgeM.drain := fun b => ⟨[b], .drain b⟩

theorem bind (hp : Logged p) (hf : ∀ a, Logged (f a)) : Logged (p >>= f) := by
  intro b
  obtain ⟨ds, hds⟩ := hp b
  cases hr : (exec p b).1 with
  | error e => exact ⟨ds, .bind_error hds hr⟩
  | ok a =>
    obtain ⟨ds', hds'⟩ := hf a (exec p b).2
    exact ⟨ds ++ ds', .bind hds hr hds'⟩

theorem get_bind {f : Bridge → BridgeM β} (hf : ∀ b, Logged (f b)) : Logged (get >>= f) :=
  bind (quiet .get) hf

theorem pure (a : α) : Logged (Pure.pure a : BridgeM α) := quiet (.pure a)

theorem throw (e : BridgeError) : Logged (MonadExcept.throw e : BridgeM α) := quiet (.throw e)

theorem map {g : α → β} (hp : Logged p) : Logged (g <$> p) := by
  rw [map_eq_pure_bind]
  exact hp.bind fun a => pure _

theorem discard (hp : Logged p) : Logged (Functor.discard p) := hp.map

theorem ite {c : Prop} [Decidable c] {q : BridgeM α} (hp : Logged p) (hq : Logged q) :
    Logged (if c then p else q) := by
  split_ifs
  · exact hp
  · exact hq

theorem observe (hp : Logged p) : Logged (thenDrain.observing p) := by
  intro b
  obtain ⟨ds, hds⟩ := hp b
  exact ⟨ds, .observe hds⟩

/-- The jobs run also where the program fails. -/
theorem thenDrain (hp : Logged p) : Logged (thenDrain p) := by
  refine hp.observe.bind fun outcome => drain.discard.bind fun _ => ?_
  cases outcome with
  | ok a => exact pure a
  | error e => exact throw e

theorem failsOrDrains {p : BridgeM Handle} (hp : FailsOrDrains Queues p) : Logged p := by
  obtain ⟨e, rfl⟩ | ⟨q, rfl, hq⟩ := hp
  · exact throw e
  · exact (gives hq).thenDrain

end Logged

/-! ### Units and async calls -/

/-- The table of modules holds no job. -/
theorem queues_table (b : Bridge) (t : ModuleTable) :
    Queues b { b with modules := { b.modules with table := t } } :=
  queues_of_eq rfl rfl rfl

theorem queues_evaluations (b : Bridge) (es : List (String × Value)) :
    Queues b { b with modules := { b.modules with evaluations := es } } :=
  queues_of_eq rfl rfl rfl

theorem queues_namespaces (b : Bridge) (ns : List (String × Value)) :
    Queues b { b with modules := { b.modules with namespaces := ns } } :=
  queues_of_eq rfl rfl rfl

/-- Nor does the ledger of async calls. -/
theorem queues_ledger (b : Bridge) (l : Ledger Ref) : Queues b { b with ledger := l } :=
  queues_of_eq rfl rfl rfl

theorem logged_ensureDeclared (u : CompiledUnit) : Logged (ensureDeclared u) := by
  refine .get_bind fun b => .ite ?_ ?_
  · exact Logged.drain.discard
  · exact (Logged.quiet (engine_queues.declareModule queues_table queues_evaluations u)).bind
      fun _ => Logged.drain.discard

theorem logged_evaluateModuleUnit (u : CompiledUnit) : Logged (evaluateModuleUnit u) := by
  refine (logged_ensureDeclared u).bind fun _ => .get_bind fun b => ?_
  split
  · exact .gives (.keep _)
  · exact .gives (.bind (engine_queues.stage _ _ _) fun _ => .keep _)

theorem logged_evalBlob (blob : List UInt8) : Logged (evalBlob blob) := by
  unfold evalBlob
  split
  · exact .throw _
  · split
    · exact .failsOrDrains (engine_queues.evaluateUnit queues_table _)
    · exact logged_evaluateModuleUnit _

theorem logged_importNamespace (u : CompiledUnit) : Logged (importNamespace u) := by
  refine (logged_ensureDeclared u).bind fun _ => ?_
  refine (Logged.quiet (engine_queues.checkEvaluation u.name)).bind fun _ => ?_
  refine (Logged.quiet (engine_queues.stage _ _ _)).bind fun promise => ?_
  exact Logged.drain.discard.bind fun _ => .quiet (engine_queues.importedNamespace _ _)

theorem logged_loadNamespace (u : CompiledUnit) : Logged (loadNamespace u) := by
  refine .get_bind fun b => ?_
  split
  · exact .pure _
  · refine (logged_importNamespace u).bind fun ns => .quiet ?_
    exact (Keeps.modify fun b => queues_namespaces b _).bind fun _ => .pure _

theorem logged_loadBlob (blob : List UInt8) : Logged (loadBlob blob) := by
  unfold loadBlob
  split
  · exact .throw _
  · exact .ite (.throw _) ((logged_loadNamespace _).bind fun _ => .gives (.keep _))

theorem logged_loadSource (filename source : String) : Logged (loadSource filename source) := by
  obtain ⟨p, heq, hp⟩ := engine_queues.loadSource queues_table queues_evaluations filename source
  rw [heq]
  exact .get_bind fun b => .failsOrDrains (hp b)

theorem logged_evalScript (filename source : String) : Logged (evalScript filename source) :=
  .failsOrDrains (engine_queues.evalScript filename source)

/-- Where a call cannot be ended, no job runs. -/
theorem logged_completeCall (id : Nat) (o : CallOutcome) : Logged (completeCall id o) := by
  refine (Logged.quiet (engine_queues.outcomeValue o)).bind fun result => .get_bind fun b => ?_
  split
  · exact .pure _
  · rename_i p ledger _
    have hsettle : Keeps Queues (settleCall p result) :=
      (engine_queues.evaluate _).bind fun v => .modify fun b hb =>
        ⟨hb, b.world.jobs_conclude p v, rfl⟩
    refine (Logged.quiet (.modify fun b => queues_ledger b _)).bind fun _ => ?_
    refine (Logged.quiet (hsettle.tryCatch fun e => ?_)).bind fun _ => ?_
    · exact (Keeps.modify fun b => queues_ledger b _).bind fun _ => .throw _
    · exact Logged.drain.discard.bind fun _ => .pure _

end BridgeM

namespace Bridge

open BridgeM

variable {c : BridgeConfig} {events : List Event} {b : Bridge} {ds : List Bridge}

/-! ### Operations -/

/-- Whether the failures are taken. -/
def Operation.takesFailures : Operation → Bool
  | takeFailures => true
  | _ => false

/-- **Operations run jobs in drains only.** -/
theorem Operation.logged {op : Operation} (hop : op.takesFailures = false) : Logged op.program := by
  cases op with
  | createNamespace name => exact (Logged.gives (engine_queues.createNamespace _)).map
  | globalObject => exact (Logged.gives (.keep _)).map
  | hostNamespace => exact (Logged.get_bind fun _ => .gives (.keep _)).map
  | evalSource filename source isModule =>
    exact (Logged.ite (logged_loadSource _ _) (logged_evalScript _ _)).map
  | eval source => exact (Logged.get_bind fun _ => logged_evalScript _ _).map
  | evaluateUnit u => exact (Logged.failsOrDrains (engine_queues.evaluateUnit queues_table u)).map
  | evalBlob blob => exact (logged_evalBlob blob).map
  | loadBlob blob => exact (logged_loadBlob blob).map
  | loadSource filename source => exact (logged_loadSource _ _).map
  | registerModule blob => exact (Logged.quiet (Core.registerModule queues_table blob)).map
  | loadedModules => exact (Logged.get_bind fun _ => .pure _).map
  | callMethod target name args =>
    exact (Logged.failsOrDrains (engine_queues.callMethod _ _ _)).map
  | getProperty target name => exact (Logged.gives (engine_queues.getProperty _ _)).map
  | getString h => exact (Logged.quiet (engine_queues.getString _)).map
  | newString text => exact (Logged.gives (.keep _)).map
  | getNumber h => exact (Logged.quiet (engine_queues.getNumber _)).map
  | newNumber x => exact (Logged.gives (.keep _)).map
  | toJson h => exact (Logged.quiet (engine_queues.toJson _)).map
  | fromJson j => exact (Logged.gives (engine_queues.fromJson _)).map
  | valueKind h => exact (Logged.quiet (engine_queues.valueKind _)).map
  | release h =>
    refine (Logged.get_bind fun b => ?_).map
    split
    · exact .quiet (.modify fun b => queues_of_eq rfl rfl rfl)
    · exact .throw _
  | liveHandles => exact (Logged.get_bind fun _ => .pure _).map
  | promiseResult h => exact (Logged.gives (engine_queues.promiseResult _)).map
  | promiseStatus h => exact (Logged.quiet (engine_queues.promiseStatus _)).map
  | awaitPromise h => exact (Logged.gives (engine_queues.awaitPromise _)).map
  | registerHost name arity f =>
    refine (Logged.quiet (.ite (.throw _) (Keeps.get.bind fun b => .ite (.throw _) ?_))).map
    -- what takes the function as a property may be a setter, and that may queue jobs
    have hfunctions (b : Bridge) (fs : Array InstalledFunction) :
        Queues b { b with functions := fs } := queues_of_eq rfl rfl rfl
    refine (Keeps.modifyGet fun b => hfunctions b _).bind fun id => ?_
    exact (engine_queues.require _).bind fun _ => .modifyGet fun b => queues_of_eq rfl rfl rfl
  | hostFunctions => exact (Logged.get_bind fun _ => .pure _).map
  | setDispatcher on => exact (Logged.quiet (Core.updateLedger queues_ledger _)).map
  | takeRequests => exact (Logged.quiet (Core.updateLedger queues_ledger _)).map
  | takeDispatched => exact (Logged.quiet (Core.updateLedger queues_ledger _)).map
  | pendingCalls => exact (Logged.get_bind fun _ => .pure _).map
  | completeCall id outcome => exact (logged_completeCall id outcome).map
  | drain => exact Logged.drain.map
  | takeFailures => cases hop
  | takeOutput => exact (Logged.quiet (.modifyGet fun b => queues_of_eq rfl rfl rfl)).map
  | takeStdout => exact (Logged.quiet (.modifyGet fun b => queues_of_eq rfl rfl rfl)).map

/-! ### Runs -/

/-- The failures that the host takes in an event. -/
def Event.takenFailures (e : Event) : List ScriptException :=
  match e.operation, e.answer with
  | .takeFailures, .ok (.failures fs) => fs
  | _, _ => []

theorem Event.takenFailures_eq_nil {op : Operation} (hop : op.takesFailures = false)
    (r : Except BridgeError Answer) : (Event.mk op r).takenFailures = [] := by
  cases op with
  | takeFailures => cases hop
  | _ => rfl

/-- A run of a bridge, with the bridges that its operations have drained, one after the other. -/
inductive Log (c : BridgeConfig) : List Event → List Bridge → Bridge → Prop
  | create {tags tags' : TagSource} {b : Bridge} (h : create c tags = .ok (b, tags')) :
    Log c [] [] b
  | step {events : List Event} {ds ds' : List Bridge} {b : Bridge} (log : Log c events ds b)
    {op : Operation} (hop : op.takesFailures = false) (h : Drains op.program b ds') :
    Log c (events ++ [⟨op, (b.step op).1⟩]) (ds ++ ds') (b.step op).2
  | take {events : List Event} {ds : List Bridge} {b : Bridge} (log : Log c events ds b) :
    Log c (events ++ [⟨.takeFailures, (b.step .takeFailures).1⟩]) ds (b.step .takeFailures).2

/-- Every run has such a log. -/
theorem Run.logged (run : Run c events b) : ∃ ds, Log c events ds b := by
  induction run with
  | create h => exact ⟨[], .create h⟩
  | @step events b run op ih =>
    obtain ⟨ds, hlog⟩ := ih
    cases hop : op.takesFailures with
    | false =>
      obtain ⟨ds', hds'⟩ := Operation.logged hop b
      exact ⟨ds ++ ds', hlog.step hop hds'⟩
    | true =>
      cases op with
      | takeFailures => exact ⟨ds, hlog.take⟩
      | _ => cases hop

/-- What the host gets to know of the jobs that a run has drained. -/
structure FailuresKept (events : List Event) (ds : List Bridge) (b : Bridge) : Prop where
  /-- What was taken, and then what is noted, is what the jobs threw, in the order in which they
  ran. -/
  kept : events.flatMap (·.takenFailures) ++ b.failures = thrownBy (ds.flatMap drainRuns)
  /-- Every drain did what it is to do. -/
  drains : ∀ d ∈ ds, DrainsFaithfully d

/-- A bridge that is set up has noted nothing more. -/
theorem failures_setUp {b b' : Bridge} {tags tags' : TagSource} (h : b.setUp tags = .ok (b', tags'))
    (hb : b.suspended.IsTame) : b'.suspended.IsTame ∧ b'.failures = b.failures := by
  obtain ⟨tag, ns, rfl⟩ := setUp_eq_ok h
  obtain ⟨htame, -, hfailures⟩ := engine_queues.require (installGlobals b.config) b hb
  exact ⟨htame, hfailures⟩

theorem Log.kept (log : Log c events ds b) : b.suspended.IsTame ∧ FailuresKept events ds b := by
  induction log with
  | create h =>
    obtain ⟨htame, hfailures⟩ := failures_setUp h (List.forall_mem_nil _)
    exact ⟨htame, hfailures, List.forall_mem_nil _⟩
  | @step events ds ds' b log op hop h ih =>
    obtain ⟨htame, hkept, hdrains⟩ := ih
    have haccounts : Accounts b ds' (b.step op).2 := h.accounts htame
    refine ⟨haccounts.tame, ?_, List.forall_mem_append.2
      ⟨hdrains, fun d hd => drains_faithfully (haccounts.drained d hd)⟩⟩
    rw [List.flatMap_append, List.flatMap_singleton, Event.takenFailures_eq_nil hop,
      List.append_nil, haccounts.failures, ← List.append_assoc, hkept, List.flatMap_append,
      thrownBy,
      thrownBy, thrownBy, List.filterMap_append]
  | @take events ds b log ih =>
    obtain ⟨htame, hkept, hdrains⟩ := ih
    refine ⟨htame, ?_, hdrains⟩
    -- what was noted is taken, and nothing is noted any more
    rw [List.flatMap_append, List.flatMap_singleton, ← hkept]
    exact List.append_nil _

/-- **What jobs throw is reported once**: in every run the failures that were taken and those that
are still noted are what the jobs have thrown, whichever operations ran them. -/
theorem job_failures_kept (run : Run c events b) :
    (∃ ds, Log c events ds b) ∧ ∀ ds, Log c events ds b → FailuresKept events ds b :=
  ⟨run.logged, fun _ log => log.kept.2⟩

/-- It holds of a new bridge after a script has queued jobs that throw, and the host has taken what
they threw. -/
theorem job_failures_kept_scripts : ∃ b events b', Run {} [] b ∧ Run {} events b' ∧
    events.map (·.operation) = [.eval "queueMicrotask(() => { throw 1 })", .drain, .takeFailures] ∧
    (∃ ds, Log {} events ds b') ∧ ∀ ds, Log {} events ds b' → FailuresKept events ds b' := by
  obtain ⟨b, tags, h⟩ := exists_create
  have run : Run {} [] b := .create h
  obtain ⟨more, hmore, hrun⟩ :=
    run.after [.eval "queueMicrotask(() => { throw 1 })", .drain, .takeFailures]
  exact ⟨b, more, _, run, hrun, hmore, job_failures_kept hrun⟩

end Bridge

end ScriptBridge
