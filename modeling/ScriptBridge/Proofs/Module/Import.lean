import ScriptBridge.Proofs.Module.Evaluation
import ScriptBridge.Proofs.Module.Linking
import ScriptBridge.Proofs.Script.Failure

/-!
# Imports of dead modules

A module that was given up after it had asked for others is dead: it is found by its name, all that
it asks for seems to be there, and it cannot be linked.  So an import of the name fails at that
point, and its promise is rejected at once.

* `Bridge.Leads` : a part of a run that ends with the bridge as it was.  Parts are put together by
  `Leads.trans`, and go on in a context by `Leads.bind` and `Leads.attempt`.
* `leads_importByName` : **the promise for the import of a dead module is rejected**.
-/

namespace ScriptBridge

open Script

/-- What goes on with an outcome leaves its requests alone. -/
def Script.Outcome.IsContext {α β : Type} (C : Outcome α → Outcome β) : Prop :=
  ∀ q w k, C (.ask q w k) = .ask q w fun r w => C (k r w)

namespace Bridge

variable {α β : Type} {b : Bridge} {w w' : World} {steps steps' : Nat} {o o' o'' : Outcome α}

/-- A run of one outcome is a run of the other one after some steps, with the bridge as it was,
whatever goes on with it. -/
structure Leads (b : Bridge) (steps : Nat) (o o' : Outcome α) : Prop where
  runFor : ∀ {β : Type} {C : Outcome α → Outcome β}, Outcome.IsContext C → ∀ n,
    runFor (n + steps) (.top (C o)) b = runFor n (.top (C o')) b

namespace Leads

theorem trans (h : Leads b steps o o') (h' : Leads b steps' o' o'') :
    Leads b (steps' + steps) o o'' := by
  refine ⟨fun hC n => ?_⟩
  rw [← Nat.add_assoc, h.runFor hC, h'.runFor hC]

theorem bind (h : Leads b steps o o') (f : α → World → Outcome β) :
    Leads b steps (o.bind f) (o'.bind f) :=
  ⟨fun {_ C} hC => h.runFor (C := fun o => C (o.bind f)) fun q w _ => hC q w _⟩

theorem handle (h : Leads b steps o o') (f : Value → World → Outcome α) :
    Leads b steps (o.handle f) (o'.handle f) :=
  ⟨fun {_ C} hC => h.runFor (C := fun o => C (o.handle f)) fun q w _ => hC q w _⟩

/-- An attempt goes on as what is attempted. -/
theorem attempt {p : Proc α} (h : Leads b steps (p w) o) :
    Leads b steps (Proc.attempt p w) ((o.bind fun a w => .done (.ok a) w).handle fun v w =>
      .done (.error v) w) :=
  (h.bind _).handle _

/-- The table of modules answers, and does not change. -/
theorem ask_modules {c : ModuleCall} {r : Reply} {k : Except Value Reply → World → Outcome α}
    (h : b.modules.table.serve c = (r, b.modules.table)) :
    Leads b 1 (.ask (.host (.modules c)) w k) (k (.ok r) w) := by
  refine ⟨fun hC n => ?_⟩
  rw [hC, Bridge.runFor]
  simp only [Running.step, Running.answer, serve, h, Running.deliver]

/-- Nothing runs below. -/
theorem ask_traced {k : Except Value Reply → World → Outcome α} :
    Leads b 1 (.ask .traced w k) (k (.ok (.flag false)) w) := by
  refine ⟨fun hC n => ?_⟩
  rw [hC]
  rfl

/-- A function that asks for nothing is called. -/
theorem ask_call {f this : Value} {args : List Value} {r : Reply}
    {k : Except Value Reply → World → Outcome α}
    (h : (Request.call f this args).run w = .done (.reply r) w') :
    Leads b 2 (.ask (.call f this args) w k) (k (.ok r) w') := by
  refine ⟨fun hC n => ?_⟩
  rw [hC]
  simp only [Bridge.runFor, Running.step, Running.answer, h, Running.deliver]

end Leads

/-! ### Asking for modules -/

/-- The error that is thrown for a module that cannot be had, where nothing runs below. -/
def faultError (f : ModuleFault) : Object :=
  newError (Intrinsic.errorProto f.type) (cutMessage f.message) false

theorem leads_askModules {c : ModuleCall} {ids : List Nat}
    (h : b.modules.table.serve c = (.found (.ok ids), b.modules.table)) :
    Leads b 1 (Proc.askModules c w) (.done ids w) := .ask_modules h

/-- What cannot be had is thrown. -/
theorem leads_askModules_error {c : ModuleCall} {f : ModuleFault}
    (h : b.modules.table.serve c = (.found (.error f), b.modules.table)) :
    Leads b 2 (Proc.askModules c w) (.thrown (.object w.objects.size) (w.push (faultError f))) :=
  (Leads.ask_modules h).trans .ask_traced

end Bridge

/-! ### A promise with its functions -/

namespace Script

open Proc

/-- A function that settles the promise of a settler. -/
def settlingFunction (code : PromiseFn) (settler : Ref) : Object :=
  { kind := .native (.promise code) [.object settler], proto := some Intrinsic.functionProto,
    props := #[
      (Key.length, ⟨.data (Value.ofNat 1), false, false, true⟩),
      (Key.ofString "name", ⟨.data (Value.ofString ""), false, false, true⟩)] }

namespace World

/-- The world with a promise more, a settler for it, and a function that resolves it. -/
def addResolving (w : World) : World :=
  (w.addPromise Intrinsic.promiseProto).push (settlingFunction .resolving (w.objects.size + 1))

/-- The same with a function that rejects the promise. -/
def addCapability (w : World) : World :=
  w.addResolving.push (settlingFunction .rejecting (w.objects.size + 1))

/-- That promise with its functions. -/
def nextCapability (w : World) : Capability :=
  ⟨.object w.objects.size, .object (w.addPromise Intrinsic.promiseProto).objects.size,
    .object w.addResolving.objects.size⟩

variable (w : World)

theorem size_addResolving : w.addResolving.objects.size = w.objects.size + 3 := by
  simp [addResolving, addPromise, addSettler, size_push]

/-- What the new objects are. -/
theorem kind?_addCapability (o : Object) :
    (w.addCapability.push o).kind? w.objects.size = some (.promise (.pending [] [])) ∧
      (w.addCapability.push o).kind? (w.objects.size + 1) =
        some (.settler w.objects.size false) ∧
      (w.addCapability.push o).kind? w.addResolving.objects.size =
        some (.native (.promise .rejecting) [.object (w.objects.size + 1)]) := by
  rw [size_addResolving]
  simp [addCapability, addResolving, addPromise, addSettler, kind?_push, pendingPromise,
    settlingFunction, size_push, Nat.add_assoc]

end World

variable {w : World} {p settler r : Ref}

/-- Rejecting a promise by its function. -/
theorem run_call_rejecting (e : Value)
    (hr : w.kind? r = some (.native (.promise .rejecting) [.object settler]))
    (hs : w.kind? settler = some (.settler p false)) :
    (Request.call (.object r) .undefined [e]).run w =
      .done (.reply (.value .undefined))
        ((w.useSettler settler).concludeBy settler (.reject e)) := by
  have hkind : (w.objects.getD r default).kind =
      .native (.promise .rejecting) [.object settler] := by
    obtain ⟨o, ho, hkind⟩ := Option.map_eq_some_iff.1 hr
    rw [Array.getD_eq_getD_getElem?, ho, Option.getD_some, hkind]
  have hsettler := World.settler?_eq_some_iff.2 hs
  simp only [Request.run, callValue, run_bind, run_object, Outcome.bind, hkind]
  simp only [runNative, runPromise, settleOnce, run_bind, run_world, Outcome.bind, hsettler]
  rfl

/-- The promise is rejected then. -/
theorem promise?_concludeBy_reject (e : Value) {fs rs : List Reaction}
    (hp : w.kind? p = some (.promise (.pending fs rs)))
    (hs : w.kind? settler = some (.settler p false)) :
    ((w.useSettler settler).concludeBy settler (.reject e)).promise? p = some (.rejected e) := by
  have hne : settler ≠ p := by
    rintro rfl
    rw [hs] at hp
    cases hp
  have hkind (q : Ref) : (w.useSettler settler).kind? q =
      if settler = q then some (.settler p true) else w.kind? q := by
    obtain ⟨o, ho, -⟩ := Option.map_eq_some_iff.1 hs
    rw [World.useSettler, World.settler?_eq_some_iff.2 hs]
    dsimp only
    rw [World.kind?_modify]
    split_ifs with hq
    · rw [← hq, ho, Option.map_some]
    · rfl
  have hsettler : (w.useSettler settler).settler? settler = some (p, true) :=
    World.settler?_eq_some_iff.2 (by rw [hkind, if_pos rfl])
  have hpending : (w.useSettler settler).promise? p = some (.pending fs rs) :=
    World.promise?_eq_some_iff.2 (by rw [hkind, if_neg hne, hp])
  rw [World.concludeBy, hsettler]
  dsimp only [World.conclude]
  rw [World.settle, hpending]
  exact (World.promise?_setPromise hpending _ p).trans (if_pos rfl)

end Script

/-! ### The import -/

namespace Bridge

variable {b : Bridge} {w : World} {name : String} {id : Nat} {f : ModuleFault}

/-- A module of a name that is found, asks for nothing new, and cannot be linked. -/
structure Refuses (t : ModuleTable) (name : String) (id : Nat) (f : ModuleFault) : Prop where
  find : t.serve (.find (ModuleName.resolve "" name)) = (.found (.ok [id]), t)
  resolve : t.serve (.resolve id) = (.found (.ok []), t)
  link : t.serve (.link id) = (.found (.error f), t)

/-- What an import of a name tries: the module, and the promise for its evaluation. -/
def importAttempt (name : String) : Proc (Nat × Value) := do
  let found ← Proc.askModules (.find (ModuleName.resolve "" name))
  let id := found.headD 0
  discard (Proc.askModules (.resolve id))
  return (id, ← Proc.evaluateModule id)

/-- An import tries in vain to get a module that cannot be linked. -/
theorem leads_importAttempt (h : Refuses b.modules.table name id f) (w : World) :
    Leads b 4 (importAttempt name w)
      (.thrown (.object w.objects.size) (w.push (faultError f))) := by
  have hfind : Leads b 1 (importAttempt name w) ((do
      discard (Proc.askModules (.resolve id))
      return (id, ← Proc.evaluateModule id) : Proc (Nat × Value)) w) :=
    (leads_askModules h.find).bind _
  have hresolve : Leads b 1 ((do
      discard (Proc.askModules (.resolve id))
      return (id, ← Proc.evaluateModule id) : Proc (Nat × Value)) w) ((do
      return (id, ← Proc.evaluateModule id) : Proc (Nat × Value)) w) :=
    ((leads_askModules h.resolve).bind _).bind _
  have hlink : Leads b 2 ((do
      return (id, ← Proc.evaluateModule id) : Proc (Nat × Value)) w)
      (.thrown (.object w.objects.size) (w.push (faultError f))) :=
    ((leads_askModules_error h.link).bind _).bind _
  exact (hfind.trans hresolve).trans hlink

/-- The import of such a module comes to calling the function that rejects its promise. -/
theorem leads_importInto (h : Refuses b.modules.table name id f) (cap : Capability) (w : World) :
    ∃ k, Leads b 4 (Proc.importInto "" (pure name) cap w)
      (.ask (.call cap.reject .undefined [.object w.objects.size]) (w.push (faultError f)) k) ∧
      ∀ r w', k (.ok r) w' = .done () w' := by
  have hattempt : Leads b 4 (Proc.importInto "" (pure name) cap w) _ :=
    ((leads_importAttempt h w).attempt).bind _
  exact ⟨_, hattempt, fun _ _ => rfl⟩

/-- **The promise for the import of a module that cannot be linked is rejected.** -/
theorem leads_importByName (h : Refuses b.modules.table name id f) (w : World) :
    ∃ v w', Leads b 6 (Proc.importByName name w) (.done (.object w.objects.size) w') ∧
      w'.promise? w.objects.size = some (.rejected v) := by
  obtain ⟨k, hinto, hk⟩ := leads_importInto h w.nextCapability w.addCapability
  obtain ⟨hp, hs, hr⟩ := w.kind?_addCapability (faultError f)
  have hcall := Leads.ask_call (k := k) (b := b)
    (run_call_rejecting (.object w.addCapability.objects.size) hr hs)
  rw [hk] at hcall
  exact ⟨_, _, (hinto.trans hcall).bind _, promise?_concludeBy_reject _ hp hs⟩

/-- A dead module refuses to be imported. -/
theorem refuses_of_dead {t : ModuleTable} (ht : t.Sane)
    (hnamed : t.named? (ModuleName.resolve "" name) = some id) (hdead : Loading.IsDead id name t) :
    ∃ f, Refuses t name id f := by
  obtain ⟨m, hm, -, hfault, hasked, -⟩ := hdead
  obtain ⟨f, hlink⟩ := Loading.link_of_fault ht hm hfault
  have hfound {p : Loading (List Nat)} {r : Except ModuleFault (List Nat)} (h : exec p t = (r, t)) :
      t.found p = (.found r, t) := by
    unfold exec at h
    rw [ModuleTable.found, h]
  refine ⟨f, ⟨?_, ?_, hfound hlink⟩⟩
  · rw [ModuleTable.serve]
    refine hfound ?_
    rw [exec_bind, Loading.exec_find_named hnamed]
    rfl
  · rw [ModuleTable.serve]
    refine hfound ?_
    rw [exec_bind, Loading.exec_resolve_asked hm hasked]
    rfl

end Bridge

namespace BridgeM

open Bridge

variable {b : Bridge} {name : String} {id : Nat}

/-- **The import of a dead module is rejected**, unless the engine was cut off. -/
theorem ends_stage_importByName {f : ModuleFault} (h : Refuses b.modules.table name id f)
    (stageName : String) (s : ModuleStage) :
    Ends (stage stageName s (Proc.importByName name)) b fun r b' => (∃ e, r = .error e) ∨
      ∃ p v, r = .ok (.object p) ∧ b'.world.promise? p = some (.rejected v) := by
  unfold Ends stage
  rw [exec_perform]
  split_ifs with hb
  · exact .inl ⟨_, rfl⟩
  · obtain ⟨v, w', hleads, hrejected⟩ :=
      leads_importByName (b := { b with world := default }) h b.world
    have hlimit : stepLimit = stepLimit - 7 + 1 + 6 := rfl
    rw [Proc.run_bind, hlimit, ((hleads.attempt).bind _).runFor (C := fun o => o) fun _ _ _ => rfl]
    exact .inr ⟨_, v, rfl, hrejected⟩

/-- An import whose promise was rejected has failed. -/
theorem ends_importedNamespace_rejected {p : Ref} {v : Value}
    (hp : b.world.promise? p = some (.rejected v)) (name : String) :
    Ends (importedNamespace name (.object p)) b fun r _ => ∃ e, r = .error e := by
  unfold importedNamespace
  refine (ends_perform_of (P := fun r => ∃ e, r = .error e) (E := True) ?_).mono ?_
  · rw [Proc.run_bind, run_promiseState?, hp]
    exact (Proc.Only.any _).bind (fun _ _ => .pure ⟨_, rfl⟩) b.world
  · rintro r b' (⟨-, rfl⟩ | hr | ⟨-, rfl⟩)
    · exact ⟨_, rfl⟩
    · exact hr
    · exact ⟨_, rfl⟩

end BridgeM

end ScriptBridge
