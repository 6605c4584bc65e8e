import ScriptBridge.Proofs.Export.Effect

/-!
# Exported calls as operations

What an exported call does to the bridge of its thread is what a host could do by operations: those
that `ExportCall.operations` names, and then the requests of dispatchers are taken.  Calls that set
a bridge up put a new one in the place of the bridge that there is, and only those do.

* `ExportCall.setsUp_cases` : what a call that sets up does, by what its configuration is.
* `ExportCall.bridge_perform` : **what becomes of the bridge** in a call that leaves it there.
* `ExportCall.bridge_perform_of_replaces` : what is there after the others.
-/

namespace ScriptBridge

open Script
open Bridge (Operation Answer)

/-- The bridge after one operation is the one that its program leaves. -/
theorem Bridge.after_of_program {α : Type} {p : BridgeM α} {f : α → Answer} {op : Operation}
    (hop : op.program = f <$> p) (b : Bridge) : (exec p b).2 = b.after [op] := by
  change (exec p b).2 = (exec op.program b).2
  rw [hop, exec_map]

namespace ExportM

variable {α β : Type} {p : ExportM α} {f : α → ExportM β} {ops : Bridge → List Operation}

/-- What the program does to the bridge of a thread is what operations do. -/
def Operates (p : ExportM α) (ops : Bridge → List Operation) : Prop :=
  ∀ t, Ends p t fun _ t' => t'.bridge = t.bridge.map fun b => b.after (ops b)

theorem map_after_nil (o : Option Bridge) : (o.map fun b => b.after []) = o := by
  cases o <;> rfl

theorem operates_onBridge {p : BridgeM α} (hp : ∀ b, (exec p b).2 = b.after (ops b)) :
    Operates (onBridge p) ops := by
  intro t
  rw [Ends, exec_onBridge]
  cases hb : t.bridge with
  | none => exact hb
  | some b => exact congrArg some (hp b)

/-- The bridge is not touched. -/
def SameBridge (t t' : Thread) : Prop := t'.bridge = t.bridge

instance : IsPreorder Thread SameBridge where
  refl _ := rfl
  trans _ _ _ h h' := h'.trans h

theorem keeps_ofArgument (r : Except Failure α) : Keeps SameBridge (ofArgument r) := fun _ => rfl

theorem keeps_onBridge {p : BridgeM α} (hp : ∀ b, (exec p b).2 = b) :
    Keeps SameBridge (onBridge p) := by
  intro t
  rw [exec_onBridge]
  cases hb : t.bridge with
  | none => rfl
  | some b => exact (congrArg some (hp b)).trans hb.symm

theorem Operates.of_keeps (hp : Keeps SameBridge p) : Operates p fun _ => [] :=
  fun t => (hp t).trans (map_after_nil t.bridge).symm

theorem Operates.bind (hp : Operates p ops) (hf : ∀ a, Keeps SameBridge (f a)) :
    Operates (p >>= f) ops := by
  intro t
  refine (hp t).bind (fun a t' h => ?_) fun _ _ h => h
  exact ((hf a).ends t').mono fun _ _ h' => h'.trans h

/-- The operations of a program that checks something first: there are none if the check fails. -/
def checkedOperations (r : Except Failure β) (ops : β → List Operation) : List Operation :=
  match r with
  | .ok x => ops x
  | .error _ => []

theorem Operates.check {r : Except Failure β} {q : β → ExportM α}
    {ops : β → Bridge → List Operation} (hq : ∀ x, Operates (q x) (ops x)) :
    Operates (ofArgument r >>= q) fun b => checkedOperations r fun x => ops x b := by
  intro t
  rw [Ends, exec_bind, exec_ofArgument]
  cases r with
  | error e => exact (map_after_nil t.bridge).symm
  | ok x => exact hq x t

/-- Writing counts what is written. -/
theorem keeps_writes {R : Thread → Thread → Prop} [IsPreorder Thread R]
    (hwritten : ∀ t n, R t { t with written := n }) (outs : List OutPointer) :
    Keeps R (outs.forM write) := by
  induction outs with
  | nil => exact .pure _
  | cons out outs ih =>
    refine Keeps.bind ?_ fun _ => ih
    cases out with
    | null => exact .throw _
    | valid => exact .modify fun t => hwritten t _

/-- The results are written last. -/
theorem keeps_writes_pure (outs : List OutPointer) (a : α) :
    Keeps SameBridge (do outs.forM write; return a : ExportM α) :=
  (keeps_writes (fun _ _ => rfl) outs).bind fun _ => .pure a

/-- The operations of a call with checked arguments. -/
def guardedOperations {β : Type} (outs : List OutPointer) (arguments : Except Failure β)
    (ops : β → List Operation) : List Operation :=
  checkedOperations (requireOuts outs) fun _ => checkedOperations arguments ops

theorem operates_guarded {p : β → BridgeM α} {ops : β → Bridge → List Operation}
    (outs : List OutPointer) (arguments : Except Failure β)
    (hp : ∀ x b, (exec (p x) b).2 = b.after (ops x b)) :
    Operates (guarded outs arguments p) fun b =>
      guardedOperations outs arguments fun x => ops x b := by
  unfold guarded guardedOperations
  exact .check fun _ => .check fun x => (operates_onBridge (hp x)).bind (keeps_writes_pure outs)

/-! ### After the body of a call -/

/-- The dispatcher gets its requests as by an operation of the host. -/
theorem bridge_deliver (t : Thread) :
    (deliver t).bridge = t.bridge.map fun b => b.after [.takeDispatched] := by
  unfold deliver
  cases hb : t.bridge with
  | none => exact hb
  | some b => rfl

theorem tags_deliver (t : Thread) : (deliver t).tags = t.tags := by
  unfold deliver
  cases t.bridge <;> rfl

theorem bridge_run (p : ExportM α) {t : Thread} (h : t.isRunning = false) :
    (run p t).2.bridge = (exec p { t with isRunning := true, written := 0 }).2.bridge.map fun b =>
      b.after [.takeDispatched] := by
  obtain ⟨e, hrun⟩ := run_eq p h
  rw [hrun]
  exact bridge_deliver _

theorem Operates.bridge_run (hp : Operates p ops) {t : Thread} (h : t.isRunning = false) :
    (run p t).2.bridge = t.bridge.map fun b => b.after (ops b ++ [.takeDispatched]) := by
  rw [ExportM.bridge_run p h, hp, Option.map_map]
  cases t.bridge with
  | none => rfl
  | some b => exact congrArg some (b.after_append (ops b) [.takeDispatched]).symm

end ExportM

namespace ExportCall

open ExportM

variable {c : ExportCall} {t : Thread}

/-! ### The operations of calls -/

/-- What a callback does first: it reads the message of a rejection. -/
def conversion (value : Handle) (rejected : Bool) : List Operation :=
  if rejected ∧ ¬ value.isNull then [.getString value] else []

/-- Then it ends the call, if there is something to end it with. -/
def ending (id : Nat) (value : Handle) (rejected : Bool) (b : Bridge) : List Operation :=
  match (exec (Thread.callbackOutcome value rejected) b).1 with
  | .ok o => [.completeCall id o]
  | .error _ => []

/-- The operations that a call does on the bridge of its thread. -/
def operations (b : Bridge) : ExportCall → List Operation
  | eval filename source isModule out =>
    guardedOperations [out] (return (← filename.text, ← source.text)) fun (filename, source) =>
      [.evalSource (if filename.isEmpty then b.config.defaultFilename else filename)
        source isModule]
  | evalBlob blob out => guardedOperations [out] blob.content fun blob => [.evalBlob blob]
  | loadBlob blob out => guardedOperations [out] blob.content fun blob => [.loadBlob blob]
  | globalObject out => guardedOperations [out] (pure ()) fun _ => [.globalObject]
  | call target name args out =>
    guardedOperations [out] (return (← name.text, ← args.content)) fun (name, args) =>
      [.callMethod target name args]
  | getProperty target name out =>
    guardedOperations [out] name.text fun name => [.getProperty target name]
  | getString h outs => guardedOperations outs (pure ()) fun _ => [.getString h]
  | newString text out => guardedOperations [out] text.text fun text => [.newString text]
  | release h => [.release h]
  | promiseResult h out => guardedOperations [out] (pure ()) fun _ => [.promiseResult h]
  | endCall id value rejected _ => conversion value rejected ++ ending id value rejected b
  | registerHost name arity f => checkedOperations name.text fun name =>
    match f with
    | some f => [.registerHost name arity (f.toHost name)]
    | none => []
  | setDispatcher on => [.setDispatcher on]
  | takeRequest outs => guardedOperations outs (pure ()) fun _ => [.takeRequests]
  | init _ | initWithConfig _ | shutdown | compile .. | lastErrorText _ => []

/-- The configuration of the bridge that a call is to set up. -/
def configuration : ExportCall → Except Failure BridgeConfig
  | init var => (BridgeConfig.ofEnv var).mapError .ofError
  | initWithConfig document => do (BridgeConfig.ofToml (← document.text)).mapError .ofError
  | _ => .error .noBridge

/-- Whether a call drops the bridge that there is. -/
def replaces (c : ExportCall) : Bool :=
  match c with
  | init _ | initWithConfig _ => c.configuration.toOption.isSome
  | shutdown => true
  | _ => false

/-- The bridge that a call sets up, if it does. -/
def successor (c : ExportCall) (tags : TagSource) : Option Bridge :=
  match c.configuration with
  | .ok config => (Bridge.create config tags).toOption.map (·.1)
  | .error _ => none

/-! ### Callbacks -/

theorem exec_callbackOutcome (value : Handle) (rejected : Bool) (b : Bridge) :
    (exec (Thread.callbackOutcome value rejected) b).2 = b.after (conversion value rejected) := by
  unfold Thread.callbackOutcome conversion
  cases rejected with
  | false =>
    cases value.isNull with
    | false => rfl
    | true => rfl
  | true =>
    cases value.isNull with
    | true => rfl
    | false =>
      have hread : (exec (BridgeM.getString value) b).2 = b.after [.getString value] :=
        Bridge.after_of_program rfl b
      simp only [if_true, Bool.false_eq_true, if_false, not_false_iff, and_self, exec_bind]
      rw [← hread]
      rcases exec (BridgeM.getString value) b with ⟨e | s, b'⟩
      all_goals rfl

theorem exec_endCall (id : Nat) (value : Handle) (rejected : Bool) (b : Bridge) :
    exec (do BridgeM.completeCall id (← Thread.callbackOutcome value rejected)) b =
      match (exec (Thread.callbackOutcome value rejected) b).1 with
      | .ok o => exec (BridgeM.completeCall id o) (b.after (conversion value rejected))
      | .error e => (.error e, b.after (conversion value rejected)) := by
  rw [exec_bind, ← exec_callbackOutcome]
  rcases exec (Thread.callbackOutcome value rejected) b with ⟨e | o, b'⟩
  all_goals rfl

theorem operates_endCall (id : Nat) (value : Handle) (rejected : Bool) (out : OutPointer) :
    Operates (do
      let done ← onBridge do
        BridgeM.completeCall id (← Thread.callbackOutcome value rejected)
      unless out = .null do write out
      return done) fun b => conversion value rejected ++ ending id value rejected b := by
  refine (operates_onBridge fun b => ?_).bind fun done => ?_
  · rw [exec_endCall, Bridge.after_append, ending]
    cases (exec (Thread.callbackOutcome value rejected) b).1 with
    | error e => rfl
    | ok o => exact Bridge.after_of_program rfl _
  · cases out with
    | null => exact .pure done
    | valid => exact keeps_writes_pure [.valid] done

/-! ### Each call -/

/-- Nothing is asked of the bridge but that there is one. -/
theorem operates_compile (filename source : Buffer) (isModule : Bool) (outs : List OutPointer) :
    Operates (guarded outs (return (← filename.text, ← source.text)) fun (filename, source) => do
      match CompiledUnit.compile filename source (.ofFlag isModule) with
      | .ok u => return u.serialize
      | .error e => throw e) fun _ => [] := by
  refine .of_keeps ((keeps_ofArgument _).bind fun _ => (keeps_ofArgument _).bind fun x => ?_)
  obtain ⟨filename, source⟩ := x
  refine Keeps.bind (keeps_onBridge fun b => ?_) (keeps_writes_pure outs)
  cases hcompile : CompiledUnit.compile filename source (.ofFlag isModule) with
  | error e => simp only [hcompile, exec_throw]
  | ok u => simp only [hcompile, exec_pure]

theorem operates_registerHost (name : Buffer) (arity : Nat) (f : Option NativeCallback) :
    Operates (do
      let name ← ofArgument name.text
      match f with
      | none => throw (.argument "null host function pointer")
      | some f => discard (onBridge (BridgeM.registerHost name arity (f.toHost name)))) fun b =>
        operations b (.registerHost name arity f) := by
  refine .check fun name => ?_
  cases f with
  | none => exact .of_keeps (.throw _)
  | some f =>
    intro t
    rw [Ends, exec_discard]
    exact operates_onBridge (Bridge.after_of_program rfl) t

theorem operates_takeRequest (outs : List OutPointer) : Operates (do
    ofArgument (requireOuts outs)
    let fresh ← onBridge BridgeM.takeRequests
    let t ← get
    let next ← match t.requests ++ fresh with
      | [] => pure none
      | r :: rest => do
        set { t with requests := rest }
        pure (some r)
    outs.forM write
    return next) fun b => operations b (.takeRequest outs) := by
  have htake : Operates (onBridge BridgeM.takeRequests) fun _ => [.takeRequests] :=
    operates_onBridge (Bridge.after_of_program rfl)
  unfold operations guardedOperations
  refine .check fun _ => htake.bind fun fresh t => ?_
  rw [exec_bind, exec_get]
  simp only
  cases t.requests ++ fresh with
  | nil => exact keeps_writes_pure outs none t
  | cons r rest => exact keeps_writes_pure outs (some r) { t with requests := rest }

theorem operates_lastErrorText (outs : List OutPointer) : Operates (do
    ofArgument (requireOuts outs)
    let t ← get
    outs.forM write
    return t.lastError.getD "") fun _ => [] := by
  refine .of_keeps ((keeps_ofArgument _).bind fun _ => Keeps.get.bind fun t => ?_)
  exact keeps_writes_pure outs _

/-! ### Calls that set up -/

/-- What is there after the body of a call that sets up. -/
def leftBy (c : ExportCall) (t : Thread) : Option Bridge :=
  if c.replaces then c.successor t.tags else t.bridge

/-- A call that sets up installs its configuration, wherever that is read from, or shuts down. -/
theorem perform_eq_install (hc : c.setsUp = true) : c = shutdown ∨
    c.replaces = c.configuration.toOption.isSome ∧
      c.perform =
        Export.map (fun _ => .done) (run do Thread.install (← ofArgument c.configuration)) := by
  cases c with
  | init var => exact .inr ⟨rfl, rfl⟩
  | initWithConfig document =>
    refine .inr ⟨rfl, ?_⟩
    -- the text of the document and the settings in it are checked as one
    have hprogram : (do
        let text ← ofArgument document.text
        Thread.install (← ofArgument ((BridgeConfig.ofToml text).mapError Failure.ofError))) =
        (do Thread.install (← ofArgument (configuration (initWithConfig document)))) := by
      rw [configuration]
      cases document.text <;> rfl
    exact congrArg (fun p => Export.map (fun _ => ExportResult.done) (run p)) hprogram
  | shutdown => exact .inl rfl
  | _ => cases hc

/-- **What a call that sets up does** is settled by its configuration. -/
theorem setsUp_cases (hc : c.setsUp = true) : c = shutdown ∨
    (∃ config, c.configuration = .ok config ∧ c.replaces = true ∧
      c.perform = Export.map (fun _ => .done) (run (Thread.install config))) ∨
    ∃ f, c.configuration = .error f ∧ c.replaces = false ∧
      c.perform = Export.map (fun _ => .done) (run (throw f : ExportM Unit)) := by
  obtain hshutdown | ⟨hreplaces, hperform⟩ := perform_eq_install hc
  · exact .inl hshutdown
  · right
    cases hconfig : c.configuration with
    | ok config =>
      rw [hconfig] at hreplaces hperform
      exact .inl ⟨config, rfl, hreplaces, hperform⟩
    | error f =>
      rw [hconfig] at hreplaces hperform
      exact .inr ⟨f, rfl, hreplaces, hperform⟩

theorem bridge_install (config : BridgeConfig) (t : Thread) :
    (exec (Thread.install config) t).2.bridge =
      (Bridge.create config t.tags).toOption.map (·.1) := by
  rw [Thread.install, exec_bind, exec_get]
  simp only [exec_bind, exec_set, tags_deliver]
  cases Bridge.create config t.tags <;> rfl

/-- Shutting down drops the bridge and the requests that are kept, and where there is no bridge it
leaves all as it is. -/
theorem ends_shutdown (t : Thread) : Ends (do
    let t := deliver (← get)
    if t.bridge.isNone then throw .noBridge
    set { t with bridge := none, requests := [] } : ExportM Unit) t
    fun _ t' => t.bridge = none ∧ t' = t ∨
      t' = { deliver t with bridge := none, requests := [] } := by
  refine .get_bind ?_
  have hdeliver := bridge_deliver t
  cases hb : t.bridge with
  | none =>
    rw [hb] at hdeliver
    simp only [hdeliver]
    exact .inl ⟨trivial, rfl⟩
  | some b =>
    rw [hb] at hdeliver
    simp only [hdeliver]
    exact .inr rfl

/-- What a call that sets up leaves. -/
theorem bridge_perform_of_setsUp (hc : c.setsUp = true) (hidle : t.isRunning = false) :
    (c.perform t).2.bridge = (c.leftBy t).map fun b => b.after [.takeDispatched] := by
  obtain rfl | ⟨config, hconfig, hreplaces, hperform⟩ | ⟨f, -, hreplaces, hperform⟩ :=
    setsUp_cases hc
  · refine (bridge_run _ hidle).trans (congrArg _ ?_)
    obtain ⟨hnone, hsame⟩ | hdropped := ends_shutdown { t with isRunning := true, written := 0 }
    · exact (congrArg Thread.bridge hsame).trans hnone
    · exact congrArg Thread.bridge hdropped
  · rw [hperform, leftBy, hreplaces, if_pos rfl, successor, hconfig]
    exact (bridge_run _ hidle).trans (congrArg _ (bridge_install config _))
  · rw [hperform, leftBy, hreplaces]
    exact bridge_run (throw f : ExportM Unit) hidle

/-- **What becomes of the bridge** in a call that leaves it there is what the operations of the call
do, and then the dispatcher gets its requests. -/
theorem bridge_perform (hc : c.replaces = false) (hidle : t.isRunning = false) :
    (c.perform t).2.bridge = t.bridge.map fun b =>
      b.after (c.operations b ++ [.takeDispatched]) := by
  have hsetsUp (h : c.setsUp = true) : (c.perform t).2.bridge =
      t.bridge.map fun b => b.after [.takeDispatched] := by
    rw [bridge_perform_of_setsUp h hidle, leftBy, hc]
    rfl
  cases c with
  | init var => exact hsetsUp rfl
  | initWithConfig document => exact hsetsUp rfl
  | shutdown => cases hc
  | compile filename source isModule outs =>
    exact (operates_compile filename source isModule outs).bridge_run hidle
  | eval filename source isModule out =>
    refine (operates_guarded _ _ fun x b => ?_).bridge_run hidle
    obtain ⟨filename, source⟩ := x
    -- a unit without a name gets the one that the settings of the bridge have for it
    have hname : exec (do
        let b ← get
        let name := if filename.isEmpty then b.config.defaultFilename else filename
        BridgeM.evalSource name source isModule) b = exec (BridgeM.evalSource
          (if filename.isEmpty then b.config.defaultFilename else filename) source isModule) b := by
      rw [exec_bind, exec_get]
    rw [hname]
    exact Bridge.after_of_program (f := Answer.handle) rfl b
  | evalBlob blob out =>
    exact (operates_guarded _ _ fun x => Bridge.after_of_program rfl).bridge_run hidle
  | loadBlob blob out =>
    exact (operates_guarded _ _ fun x => Bridge.after_of_program rfl).bridge_run hidle
  | globalObject out =>
    exact (operates_guarded _ _ fun x => Bridge.after_of_program rfl).bridge_run hidle
  | call target name args out =>
    exact (operates_guarded _ _ fun x => Bridge.after_of_program rfl).bridge_run hidle
  | getProperty target name out =>
    exact (operates_guarded _ _ fun x => Bridge.after_of_program rfl).bridge_run hidle
  | getString h outs =>
    exact (operates_guarded _ _ fun x => Bridge.after_of_program rfl).bridge_run hidle
  | newString text out =>
    exact (operates_guarded _ _ fun x => Bridge.after_of_program rfl).bridge_run hidle
  | release h => exact (operates_onBridge (Bridge.after_of_program rfl)).bridge_run hidle
  | promiseResult h out =>
    exact (operates_guarded _ _ fun x => Bridge.after_of_program rfl).bridge_run hidle
  | endCall id value rejected out => exact (operates_endCall id value rejected out).bridge_run hidle
  | registerHost name arity f => exact (operates_registerHost name arity f).bridge_run hidle
  | setDispatcher on =>
    have hset (b : Bridge) : (exec (BridgeM.setDispatcher on) b).2 = b.after [.setDispatcher on] :=
      Bridge.after_of_program rfl b
    exact (operates_onBridge hset).bridge_run hidle
  | takeRequest outs =>
    have h := (operates_takeRequest outs).bridge_run hidle
    exact h
  | lastErrorText outs =>
    have h := (operates_lastErrorText outs).bridge_run hidle
    exact h

theorem setsUp_of_replaces (hc : c.replaces = true) : c.setsUp = true := by
  cases c with
  | init var => rfl
  | initWithConfig document => rfl
  | shutdown => rfl
  | _ => cases hc

/-- **A call that drops the bridge** leaves the one that it sets up, if it does. -/
theorem bridge_perform_of_replaces (hc : c.replaces = true) (hidle : t.isRunning = false) :
    (c.perform t).2.bridge = (c.successor t.tags).map fun b => b.after [.takeDispatched] := by
  rw [bridge_perform_of_setsUp (setsUp_of_replaces hc) hidle, leftBy, if_pos hc]

end ExportCall

end ScriptBridge
