import ScriptBridge.Proofs.Bridge.Evolution
import ScriptBridge.Proofs.Module.Evaluation

/-!
# What one drain does

A drain takes the first job from the queue and runs it, until no job is left.  `BridgeM.drainRuns`
is the jobs that it runs, each with the bridge that it found, and all that a drain reports is read
off them:

* `BridgeM.engine_queues` : running code **only adds jobs behind the others** (`Bridge.Queues`), and
  so does describing what a job threw.
* `BridgeM.drains_faithfully` : a drain runs the jobs that were queued, then those that were queued
  meanwhile, in this order, whichever of them throw; it **counts them all and reports what they
  threw**.
* `BridgeM.JobRun.told` : what is reported of a job is what the engine says of it.

An engine that was cut off runs nothing more, and that is reported of every job that is left.
-/

namespace ScriptBridge

open Script

namespace Script

/-- Describing a value throws nothing. -/
theorem Exchange.only_describe (v : Value) :
    Proc.Only (fun _ => True) False (Exchange.describe v) := by
  have htext (v : Value) : Proc.Only (fun _ => True) False (Exchange.thrownText v) := by
    refine (Proc.Only.attempt (Proc.Only.any _)).bind fun _ _ => ?_
    split
    all_goals exact .pure trivial
  have hproperty (r : Ref) (name : String) :
      Proc.Only (fun _ => True) False (Exchange.textProperty? r name) := by
    refine (Proc.Only.attempt (Proc.Only.any _)).bind fun _ _ => ?_
    split
    all_goals exact .pure trivial
  have hstack (r : Ref) : Proc.Only (fun _ => True) False (Exchange.stackOf r) := by
    refine (Proc.Only.world.bind fun _ _ => .pure trivial).bind (P := fun _ => True) fun o _ => ?_
    split
    · refine (Proc.Only.attempt (Proc.Only.any _)).bind fun _ _ => ?_
      split
      · exact .pure trivial
      · exact .pure trivial
      · exact .pure trivial
      · refine (Proc.Only.attempt (Proc.Only.any _)).bind fun _ _ => ?_
        split
        all_goals exact .pure trivial
    · exact .pure trivial
  unfold Exchange.describe
  split
  · exact (hproperty _ _).bind fun _ _ => (hstack _).bind fun _ _ => (htext _).bind fun _ _ =>
      .pure trivial
  · exact (htext _).bind fun _ _ => .pure trivial

/-- Ending a call only adds jobs. -/
theorem World.jobs_conclude (w : World) (p : Ref) (v : Verdict) :
    w.jobs <+: (w.conclude p v).jobs := by
  have hsettle (rejected : Bool) (v : Value) : w.jobs <+: (w.settle p rejected v).jobs := by
    unfold World.settle
    split
    · exact List.prefix_append _ _
    · exact List.prefix_rfl
  cases v with
  | fulfill v => exact hsettle false v
  | reject v => exact hsettle true v
  | follow thenable method => exact List.prefix_append _ _

end Script

namespace Bridge

/-! ### Jobs are queued -/

/-- Jobs were added behind the others, and none was taken; nothing was noted of jobs that threw.  It
says so of bridges on which the code that waits is tame, as it is on all that can be reached. -/
def Queues (b b' : Bridge) : Prop :=
  b.suspended.IsTame → b'.suspended.IsTame ∧ b.world.jobs <+: b'.world.jobs ∧
    b'.failures = b.failures

instance : IsPreorder Bridge Queues where
  refl _ hb := ⟨hb, List.prefix_rfl, rfl⟩
  trans _ _ _ h h' hb := by
    obtain ⟨hb₁, hjobs₁, hfailures₁⟩ := h hb
    obtain ⟨hb₂, hjobs₂, hfailures₂⟩ := h' hb₁
    exact ⟨hb₂, hjobs₁.trans hjobs₂, hfailures₂.trans hfailures₁⟩

theorem queues_of_eq {b b' : Bridge} (hjobs : b'.world.jobs = b.world.jobs)
    (hsuspended : b'.suspended = b.suspended) (hfailures : b'.failures = b.failures) :
    Queues b b' := by
  intro hb
  rw [hsuspended, hjobs]
  exact ⟨hb, List.prefix_rfl, hfailures⟩

theorem queues_serve (b : Bridge) (w : World) (h : HostCall) :
    Queues { b with world := w } { (b.serve w h).2.2 with world := (b.serve w h).2.1 } := by
  cases h with
  | print line =>
    rw [serve, printLine]
    split
    all_goals exact queues_of_eq rfl rfl rfl
  | startAsync payload => exact queues_of_eq rfl rfl rfl
  | call id args =>
    rw [serve]
    split
    all_goals exact queues_of_eq rfl rfl rfl
  | modules c => exact queues_of_eq rfl rfl rfl

theorem evolving_queues : Evolving Queues where
  of_tame h hb := h hb hb
  evolve _ _ _ hworld htame hb := ⟨htame hb, hworld.queued, rfl⟩
  serve := queues_serve
  halt _ _ := queues_of_eq rfl rfl rfl

/-- An engine that was cut off stays so. -/
def StaysHalted (b b' : Bridge) : Prop := b.isHalted = true → b'.isHalted = true

instance : IsPreorder Bridge StaysHalted where
  refl _ := id
  trans _ _ _ h h' := h' ∘ h

theorem StaysHalted.running {b b' : Bridge} (h : StaysHalted b b') (hrun : b'.isHalted = false) :
    b.isHalted = false := by
  cases hb : b.isHalted with
  | false => rfl
  | true =>
    rw [h hb] at hrun
    cases hrun

end Bridge

namespace BridgeM

open Bridge

/-- **Running code only adds jobs.** -/
theorem engine_queues : Engine Queues := ⟨evolving_queues.perform⟩

theorem core_staysHalted : Core StaysHalted where
  perform p b hb := by
    rw [exec_perform, if_pos hb]
    exact hb
  jobs _ _ := id
  halt b v hb hb' := by
    rw [hb] at hb'
    cases hb'
  output _ _ := id
  stdout _ _ := id
  failures _ _ := id

/-! ### The run of one job -/

/-- What the engine runs for a job: the job itself, and if that throws, what describes the value. -/
def jobReport (j : Job) : Proc (Except BridgeError (Option ScriptException)) := do
  match ← Proc.attempt (Proc.ask (.job j)) with
  | .ok _ => return .ok none
  | .error v => return .ok (some (← Exchange.describe v))

theorem runJob_eq (j : Job) : runJob j =
    tryCatch (perform (jobReport j)) fun e => return some { message := e.message } := rfl

theorem only_jobReport (j : Job) :
    Proc.Only (fun r => ∃ thrown, r = .ok thrown) False (jobReport j) := by
  refine (Proc.Only.attempt (Proc.Only.any _)).bind fun _ _ => ?_
  split
  · exact .pure ⟨_, rfl⟩
  · exact (Exchange.only_describe _).bind fun _ _ => .pure ⟨_, rfl⟩

/-- A job that was run, and the bridge that it found: the job is not in the queue any more. -/
structure JobRun where
  job : Job
  before : Bridge

namespace JobRun

variable (r : JobRun)

/-- The bridge that the job left. -/
def after : Bridge := (exec (runJob r.job) r.before).2

/-- What the job threw, described. -/
def thrown : Option ScriptException :=
  match (exec (runJob r.job) r.before).1 with
  | .ok thrown => thrown
  | .error _ => none

/-- The jobs that were queued meanwhile, by the job and by what describes the value that it
threw. -/
def queued : List Job := r.after.world.jobs.drop r.before.world.jobs.length

theorem exec_runJob : exec (runJob r.job) r.before = (.ok r.thrown, r.after) := by
  obtain ⟨thrown, hthrown⟩ := succeeds_runJob r.job r.before
  refine Prod.ext ?_ rfl
  rw [JobRun.thrown, hthrown]

theorem ends_runJob :
    Ends (runJob r.job) r.before fun o b' => o = .ok r.thrown ∧ b' = r.after := by
  rw [Ends, exec_runJob]
  exact ⟨rfl, rfl⟩

variable {r}

/-- **What is reported of a job is what the engine says of it**, unless the engine was cut off. -/
theorem told (h : r.after.isHalted = false) :
    (exec (perform (jobReport r.job)) r.before).1 = .ok r.thrown := by
  have hperform := ends_perform (only_jobReport r.job) r.before
  have hrun := r.exec_runJob
  rw [runJob_eq, exec_tryCatch] at hrun
  rw [Ends] at hperform
  rcases hr : exec (perform (jobReport r.job)) r.before with ⟨e | thrown, b'⟩
  · -- the engine reports no failure unless it was cut off
    rw [hr] at hrun hperform
    obtain ⟨hhalted, -⟩ | ⟨_, ⟨⟩⟩ | ⟨hfalse, -⟩ := hperform
    · obtain rfl : b' = r.after := congrArg Prod.snd hrun
      rw [h] at hhalted
      cases hhalted
    · exact hfalse.elim
  · rw [hr] at hrun
    exact congrArg Prod.fst hrun

theorem queues (r : JobRun) : Queues r.before r.after :=
  engine_queues.runJob r.job r.before

/-- What was queued stands behind the others. -/
theorem jobs_after (h : r.before.suspended.IsTame) :
    r.before.world.jobs ++ r.queued = r.after.world.jobs :=
  (List.prefix_iff_eq_append.1 (r.queues h).2.1)

end JobRun

/-! ### One drain -/

/-- The run of a job that is taken from the queue, with the jobs that are left there. -/
def takenRun (b : Bridge) (j : Job) (rest : List Job) : JobRun :=
  ⟨j, { b with world := { b.world with jobs := rest } }⟩

/-- The jobs that a drain runs, in order. -/
def runsFor : Nat → Bridge → List JobRun
  | 0, _ => []
  | fuel + 1, b =>
    match b.world.jobs with
    | [] => []
    | j :: rest => takenRun b j rest :: runsFor fuel (takenRun b j rest).after

/-- The jobs that draining a bridge runs, in order. -/
def drainRuns (b : Bridge) : List JobRun := runsFor jobLimit b

/-- What jobs threw, in order. -/
def thrownBy (runs : List JobRun) : List ScriptException := runs.filterMap (·.thrown)

theorem thrownBy_cons (r : JobRun) (runs : List JobRun) :
    thrownBy (r :: runs) = r.thrown.toList ++ thrownBy runs := by
  rw [thrownBy, List.filterMap_cons]
  cases r.thrown <;> rfl

/-- The bridge after some jobs were run from the queue. -/
structure Drained (b : Bridge) (runs : List JobRun) (b' : Bridge) : Prop where
  tame : b'.suspended.IsTame
  failures : b'.failures = b.failures
  /-- The jobs that were queued before and those that were queued meanwhile are those that ran and
  those that are left, in the same order. -/
  fifo : b.world.jobs ++ runs.flatMap (·.queued) = runs.map (·.job) ++ b'.world.jobs
  emptied : b'.isHalted = false → b'.world.jobs = []
  running : b'.isHalted = false → ∀ r ∈ runs, r.after.isHalted = false

variable {b b' : Bridge} {runs : List JobRun}

/-- Where no job is left, there is nothing to run. -/
theorem drained_nil (hb : b.suspended.IsTame) (hjobs : b.isHalted = false → b.world.jobs = []) :
    Drained b [] b :=
  ⟨hb, rfl, List.append_nil _, hjobs, fun _ => List.forall_mem_nil _⟩

/-- What a job queues is run behind the jobs that are left. -/
theorem Drained.cons {j : Job} {rest : List Job} (hb : b.suspended.IsTame)
    (hjobs : b.world.jobs = j :: rest) (h : Drained (takenRun b j rest).after runs b')
    (hhalted : StaysHalted (takenRun b j rest).after b') :
    Drained b (takenRun b j rest :: runs) b' where
  tame := h.tame
  failures := h.failures.trans ((takenRun b j rest).queues hb).2.2
  fifo := by
    have hqueued : rest ++ (takenRun b j rest).queued = (takenRun b j rest).after.world.jobs :=
      (takenRun b j rest).jobs_after hb
    have hfifo := h.fifo
    rw [← hqueued, List.append_assoc] at hfifo
    rw [hjobs, List.flatMap_cons, List.cons_append, hfifo]
    rfl
  emptied := h.emptied
  running hrun r hr := by
    obtain rfl | hr := List.mem_cons.1 hr
    · exact hhalted.running hrun
    · exact h.running hrun r hr

/-- **The jobs run in order, whichever of them throw.** -/
theorem ends_drainFor (fuel : Nat) (report : DrainReport) (b : Bridge) (hb : b.suspended.IsTame) :
    Ends (drainFor fuel report) b fun r b' => r = .ok ⟨report.executed + (runsFor fuel b).length,
      report.failures ++ thrownBy (runsFor fuel b)⟩ ∧ Drained b (runsFor fuel b) b' := by
  induction fuel generalizing report b with
  | zero =>
    refine .modify_bind (.pure ⟨?_, hb, rfl, List.append_nil _, fun hrun => ?_,
      fun _ => List.forall_mem_nil _⟩)
    · rw [show runsFor 0 b = [] from rfl, thrownBy, List.filterMap_nil, List.append_nil]
      rfl
    · simpa using (Bool.or_eq_false_iff.1 hrun).2
  | succ fuel ih =>
    refine .get_bind ?_
    rw [runsFor]
    cases hjobs : b.world.jobs with
    | nil =>
      refine .pure ⟨?_, drained_nil hb fun _ => hjobs⟩
      rw [thrownBy, List.filterMap_nil, List.append_nil]
      rfl
    | cons j rest =>
      let run := takenRun b j rest
      have hran : Ends (runJob j) run.before fun r b' => r = .ok run.thrown ∧ b' = run.after :=
        run.ends_runJob
      refine .modify_bind (hran.bind ?_ ?_)
      · rintro _ _ ⟨⟨⟩, rfl⟩
        have hhalted := (core_staysHalted.drainFor fuel
          ⟨report.executed + 1, report.failures ++ run.thrown.toList⟩).ends run.after
        refine ((ih _ run.after (run.queues hb).1).and hhalted).mono ?_
        rintro _ b' ⟨⟨rfl, hdrained⟩, hhalted⟩
        refine ⟨?_, hdrained.cons hb hjobs hhalted⟩
        simp only [thrownBy_cons, List.length_cons, List.append_assoc, Nat.add_assoc,
          Nat.add_comm 1]
        rfl
      · rintro e _ ⟨⟨⟩, -⟩

/-- What draining a bridge does and reports. -/
structure DrainsFaithfully (b : Bridge) : Prop where
  /-- Every job that was run is counted, and what they threw is reported in order: a job that throws
  does not stop the others. -/
  report : (exec drain b).1 = .ok ⟨(drainRuns b).length, thrownBy (drainRuns b)⟩
  /-- What they threw is noted behind what was noted before. -/
  noted : (exec drain b).2.failures = b.failures ++ thrownBy (drainRuns b)
  /-- The jobs that ran are the first of those that were queued, before or meanwhile, -/
  fifo : b.world.jobs ++ (drainRuns b).flatMap (·.queued) =
    (drainRuns b).map (·.job) ++ (exec drain b).2.world.jobs
  /-- and none is left, unless the engine was cut off. -/
  emptied : (exec drain b).2.isHalted = false → (exec drain b).2.world.jobs = []
  /-- What is reported of a job is what the engine says of it. -/
  told : (exec drain b).2.isHalted = false → ∀ r ∈ drainRuns b,
    (exec (perform (jobReport r.job)) r.before).1 = .ok r.thrown

theorem ends_drain (b : Bridge) (hb : b.suspended.IsTame) : Ends drain b fun r b' =>
    r = .ok ⟨(drainRuns b).length, thrownBy (drainRuns b)⟩ ∧
      b'.failures = b.failures ++ thrownBy (drainRuns b) ∧
      ∃ b₁, Drained b (drainRuns b) b₁ ∧ b' = { b₁ with failures := b'.failures } := by
  have hdrain := ends_drainFor jobLimit {} b hb
  refine hdrain.bind ?_ ?_
  · rintro _ b₁ ⟨⟨⟩, hdrained⟩
    refine .modify_bind (.pure ⟨?_, ?_, b₁, hdrained, rfl⟩)
    · simp [drainRuns]
    · change b₁.failures ++ ([] ++ thrownBy (drainRuns b)) = _
      rw [hdrained.failures, List.nil_append]
  · rintro e _ ⟨⟨⟩, -⟩

/-- **A drain does what it is to do**, and reports it. -/
theorem drains_faithfully {b : Bridge} (hb : b.suspended.IsTame) : DrainsFaithfully b := by
  obtain ⟨hreport, hnoted, b₁, hdrained, hb'⟩ := ends_drain b hb
  have hhalted : (exec drain b).2.isHalted = b₁.isHalted := by rw [hb']
  have hworld : (exec drain b).2.world = b₁.world := by rw [hb']
  refine ⟨hreport, hnoted, ?_, fun hrun => ?_, fun hrun r hr => ?_⟩
  · rw [hworld]
    exact hdrained.fifo
  · rw [hworld]
    exact hdrained.emptied (hhalted ▸ hrun)
  · exact JobRun.told (hdrained.running (hhalted ▸ hrun) r hr)

end BridgeM

end ScriptBridge
