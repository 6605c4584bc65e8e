import Mathlib.Data.List.Basic
import ScriptBridge.Proofs.Export.Effect

/-!
# Refused calls

An export looks at all places and arguments that it is given before it touches the bridge.

* `ExportM.run_of_refused` : a body that comes to a refusal from every thread leaves only its words.
* `ExportCall.perform_of_malformed` : a call with a place that is missing or an argument that cannot
  be used **does nothing**: it is reported as a bad argument, and everything else that the thread
  keeps is what it was.
-/

namespace ScriptBridge

/-- No request waits to be handed over to the dispatcher. -/
def Thread.IsQuiet (t : Thread) : Prop := ∀ b, t.bridge = some b → b.ledger.dispatched = []

namespace ExportM

variable {α β : Type} {outs : List OutPointer} {arguments : Except Failure β} {p : ExportM α}

theorem deliver_of_isQuiet {t : Thread} (h : t.IsQuiet) : deliver t = t := by
  obtain ⟨bridge, lastError, requests, delivered, tags, isRunning, written⟩ := t
  cases bridge with
  | none => rfl
  | some b =>
    have hnone : b.ledger.dispatched = [] := h b rfl
    have htaken : b.ledger.takeDispatched = ([], b.ledger) := by
      rw [Ledger.takeDispatched, hnone, ← hnone]
    simp only [deliver, htaken, List.map_nil, List.append_nil]

/-- Once the requests are handed over none waits. -/
theorem isQuiet_deliver (t : Thread) : (deliver t).IsQuiet := by
  unfold deliver
  cases hb : t.bridge with
  | none =>
    intro b hsome
    rw [hb] at hsome
    cases hsome
  | some b =>
    rintro _ ⟨⟩
    rfl

/-! ### Checks that fail -/

/-- The check finds that an argument cannot be used. -/
def Fails (r : Except Failure α) : Prop := ∃ f, r = .error f ∧ f.status = .invalidArgument

theorem Fails.bind {r : Except Failure α} {f : α → Except Failure β} (hr : Fails r) :
    Fails (r >>= f) := by
  obtain ⟨g, rfl, hg⟩ := hr
  exact ⟨g, rfl, hg⟩

/-- Of two arguments one cannot be used. -/
theorem Checks.pair_fails {r : Except Failure α} {q : Except Failure β} (hr : Checks r)
    (h : Fails r ∨ Fails q) : Fails (do return (← r, ← q) : Except Failure (α × β)) := by
  obtain h | ⟨f, rfl, hf⟩ := h
  · exact h.bind
  · -- the first argument is looked at first, and may be the one that is reported
    cases r with
    | error g => exact ⟨g, rfl, hr g rfl⟩
    | ok a => exact ⟨f, rfl, hf⟩

theorem fails_requireOuts (h : .null ∈ outs) : Fails (requireOuts outs) :=
  ⟨_, by rw [requireOuts_eq, if_pos h], rfl⟩

theorem fails_content {b : Buffer} (h : b.IsMissing) : Fails b.content := by
  obtain ⟨n, rfl⟩ := h
  exact ⟨_, rfl, rfl⟩

theorem fails_text {b : Buffer} (h : b.IsNoText) : Fails b.text := by
  obtain hmissing | ⟨bytes, reason, rfl, hreason⟩ := h
  · exact (fails_content hmissing).bind
  · refine ⟨.argument s!"invalid UTF-8: {reason}", ?_, rfl⟩
    unfold Buffer.text
    simp only [Buffer.content, bind, Except.bind, hreason]
    rfl

theorem fails_handles {a : HandleArray} (h : a.IsMissing) : Fails a.content := by
  obtain ⟨n, rfl⟩ := h
  exact ⟨_, rfl, rfl⟩

/-! ### Calls that are refused -/

/-- The body finds that it was called with something that cannot be used, before anything else. -/
def Refused (p : ExportM α) : Prop :=
  ∃ f : Failure, f.status = .invalidArgument ∧ ∀ t, exec p t = (.error f, t)

theorem Refused.check {f : β → ExportM α} {r : Except Failure β} (h : Fails r) :
    Refused (ofArgument r >>= f) := by
  obtain ⟨g, rfl, hg⟩ := h
  exact ⟨g, hg, fun t => rfl⟩

theorem refused_guarded {p : β → BridgeM α} (h : .null ∈ outs ∨ Fails arguments) :
    Refused (guarded outs arguments p) := by
  by_cases hnull : .null ∈ outs
  · exact ⟨_, rfl, fun t => by rw [exec_guarded, if_pos hnull]⟩
  · obtain ⟨f, rfl, hf⟩ := h.resolve_left hnull
    exact ⟨f, hf, fun t => by rw [exec_guarded, if_neg hnull]⟩

/-- A call whose body fails before it does anything leaves only its words. -/
theorem run_of_error {f : Failure} {t : Thread} (hidle : t.isRunning = false) (hquiet : t.IsQuiet)
    (hexec : exec p { t with isRunning := true, written := 0 } =
      (.error f, { t with isRunning := true, written := 0 })) : ∃ e,
      run p t = ((f.status, none), { t with lastError := e, written := 0 }) := by
  obtain ⟨e, hrun⟩ := run_eq p hidle
  refine ⟨e, ?_⟩
  have hquiet' : ({ t with isRunning := true, written := 0 } : Thread).IsQuiet := hquiet
  rw [hrun, hexec, answer, deliver_of_isQuiet hquiet', ← hidle]

/-- **A call that is refused** leaves only its words. -/
theorem run_of_refused (hp : Refused p) {t : Thread} (hidle : t.isRunning = false)
    (hquiet : t.IsQuiet) : ∃ e,
      run p t = ((.invalidArgument, none), { t with lastError := e, written := 0 }) := by
  obtain ⟨f, hf, hexec⟩ := hp
  rw [← hf]
  exact run_of_error hidle hquiet (hexec _)

end ExportM

namespace ExportCall

open ExportM

/-- The call leaves only its words. -/
def IsRefused (e : Export ExportResult) : Prop := ∀ t : Thread, t.isRunning = false → t.IsQuiet →
  ∃ m, e t = ((.invalidArgument, none), { t with lastError := m, written := 0 })

theorem isRefused_run {α : Type} {p : ExportM α} (h : Refused p) (f : α → ExportResult) :
    IsRefused (Export.map f (run p)) := by
  intro t hidle hquiet
  obtain ⟨m, hrun⟩ := run_of_refused h hidle hquiet
  exact ⟨m, by rw [Export.map, hrun]; rfl⟩

theorem isRefused_inspect {α : Type} {p : ExportM α} (h : Refused p) (f : α → ExportResult) :
    IsRefused (Export.map f (inspect p)) := by
  intro t hidle hquiet
  obtain ⟨m, hrun⟩ := run_of_refused h hidle hquiet
  have hinspect : inspect p t = ((run p t).1, { (run p t).2 with lastError := t.lastError }) := rfl
  exact ⟨t.lastError, by rw [Export.map, hinspect, hrun]; rfl⟩

/-- **A call that is malformed does nothing**, whichever call it is and whatever the thread
keeps. -/
theorem perform_of_malformed {c : ExportCall} (h : c.Malformed) : IsRefused c.perform := by
  -- what can be missing or unusable is what the call takes; a call that takes nothing is out
  cases c <;>
    simp only [Malformed, outs, texts, blobs, arrays, List.exists_mem_cons_iff, List.not_mem_nil,
      false_and, exists_false, or_false, false_or] at h
  case initWithConfig document => exact isRefused_run (.check (fails_text h)) _
  case compile filename source isModule outs =>
    refine isRefused_run (refused_guarded (h.imp_right fun htexts => ?_)) _
    exact (checks_text filename).pair_fails (htexts.imp fails_text fails_text)
  case eval filename source isModule out =>
    refine isRefused_run (refused_guarded (h.imp_right fun htexts => ?_)) _
    exact (checks_text filename).pair_fails (htexts.imp fails_text fails_text)
  case evalBlob blob out => exact isRefused_run (refused_guarded (h.imp_right fails_content)) _
  case loadBlob blob out => exact isRefused_run (refused_guarded (h.imp_right fails_content)) _
  case globalObject out => exact isRefused_run (refused_guarded (.inl h)) _
  case call target name args out =>
    refine isRefused_run (refused_guarded (h.imp_right fun hmethod => ?_)) _
    exact (checks_text name).pair_fails (hmethod.imp fails_text fails_handles)
  case getProperty target name out =>
    exact isRefused_run (refused_guarded (h.imp_right fails_text)) _
  case getString h' outs => exact isRefused_run (refused_guarded (.inl h)) _
  case newString text out => exact isRefused_run (refused_guarded (h.imp_right fails_text)) _
  case promiseResult h' out => exact isRefused_run (refused_guarded (.inl h)) _
  case registerHost name arity f => exact isRefused_run (.check (fails_text h)) _
  case takeRequest outs => exact isRefused_run (.check (fails_requireOuts h)) _
  case lastErrorText outs => exact isRefused_inspect (.check (fails_requireOuts h)) _

end ExportCall

end ScriptBridge
