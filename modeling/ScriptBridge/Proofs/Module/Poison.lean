import ScriptBridge.Proofs.Async.Completion
import ScriptBridge.Proofs.Module.Closure
import ScriptBridge.Proofs.Module.Import
import ScriptBridge.Proofs.Module.Trace

/-!
# Loads that fail before their module runs

A load that fails before its module runs ends in one of two ways.  A unit that does not pass the
check has not reached the engine, and nothing has changed.  One that passes it is known to the
engine, so if it cannot be linked then, the module is dead.  The name of a dead module is not
declared, and so it may be loaded again; but the name leads to the dead module for good.

* `Dead.after` : a dead module stays dead, and in its place, whatever the host does.
* `Dead.load` : **no load of the name of a dead module succeeds.**
* `Bridge.failed_load` : what a load that fails before its module runs leaves behind.
-/

namespace ScriptBridge

open Script

namespace Bridge

variable {c : BridgeConfig} {events : List Event} {b b' : Bridge} {name : String} {id : Nat}

/-! ### Dead modules stay dead -/

/-- The bridge carries on with its pending calls and follows what it knew of modules. -/
def Endures (b b' : Bridge) : Prop := Advances b b' ∧ Tracks (fun _ _ => False) b b'

instance : IsPreorder Bridge Endures where
  refl b := ⟨refl_of _ b, refl_of _ b⟩
  trans _ _ _ h h' := ⟨trans_of Advances h.1 h'.1, trans_of (Tracks _) h.2 h'.2⟩

theorem frame_endures : BridgeM.Frame Endures := frame_advances.and (frame_tracks _)

/-- A dead module that its name leads to, and whose namespace is not kept. -/
structure Dead (b : Bridge) (name : String) (id : Nat) : Prop where
  sound : b.Sound
  sane : b.modules.table.Sane
  named : b.modules.table.named? name = some id
  dead : Loading.IsDead id name b.modules.table

theorem Dead.of_follows (h : b.Dead name id) (hfollows : b.Follows b') (hsound : b'.Sound) :
    b'.Dead name id := by
  have hdead := h.dead.of_steady hfollows.grown hfollows.steady
  refine ⟨hsound, hfollows.sane h.sane, hfollows.grown.named?_eq_some h.named fun m hm => ?_, hdead⟩
  obtain ⟨m', hm', -, -, -, hdropped⟩ := hdead
  obtain rfl : m' = m := Option.some.inj (hm'.symm.trans hm)
  exact hdropped

theorem Dead.endure (h : b.Dead name id) (hb : Endures b b') : b'.Dead name id :=
  h.of_follows hb.2.toFollows (hb.1 h.sound).1

end Bridge

namespace BridgeM

open Bridge

variable {b : Bridge} {name : String} {id : Nat}

/-! ### Loads -/

theorem keeps_ensureDeclared_advances (u : CompiledUnit) : Keeps Advances (ensureDeclared u) :=
  frame_advances.ensureDeclared (fun _ _ => advances_of_eq rfl rfl rfl)
    (fun _ _ => advances_of_eq rfl rfl rfl) u

/-- **The import of a dead module fails**, whatever unit of its name is declared for it. -/
theorem ends_importNamespace_dead {u : CompiledUnit} (h : b.Dead u.name id)
    (hname : ModuleName.resolve "" u.name = u.name) :
    Ends (importNamespace u) b fun r _ => ∃ e, r = .error e := by
  have hdeclare : Keeps Endures (ensureDeclared u) := fun b =>
    ⟨keeps_ensureDeclared_advances u b, keeps_ensureDeclared_tracks u b⟩
  refine (hdeclare.ends b).bind (fun _ b₁ h₁ => ?_) fun e _ _ => ⟨e, rfl⟩
  refine ((frame_endures.checkEvaluation u.name).ends b₁).bind (fun _ b₂ h₂ => ?_)
    fun e _ _ => ⟨e, rfl⟩
  have hdead : b₂.Dead u.name id := (h.endure h₁).endure h₂
  obtain ⟨f, hrefuses⟩ := refuses_of_dead hdead.sane (hname.symm ▸ hdead.named) hdead.dead
  have hstage := (frame_endures.stage u.name .resolution (Proc.importByName u.name)).ends b₂
  refine ((ends_stage_importByName hrefuses u.name .resolution).and hstage).bind ?_
    fun e _ _ => ⟨e, rfl⟩
  rintro promise b₃ ⟨⟨_, ⟨⟩⟩ | ⟨p, v, hpromise, hrejected⟩, h₃⟩
  obtain rfl := Except.ok.inj hpromise
  have hsound : b₃.Sound := (hdead.endure h₃).sound
  refine (frame_advances.drain.discard.ends b₃).bind (fun _ b₄ h₄ => ?_) fun e _ _ => ⟨e, rfl⟩
  -- the jobs leave a rejected promise as it is
  exact ends_importedNamespace_rejected ((h₄ hsound).2.world.settled p _ hrejected rfl) u.name

/-- A load of another name, or one that fails, keeps no namespace for the name; `P` is what is known
of the failures. -/
theorem ends_loadNamespace_of_fails {P : BridgeError → Bridge → Prop} (u : CompiledUnit)
    (himport : u.name = name →
      Ends (importNamespace u) b fun r b' => ∃ e, r = .error e ∧ P e b')
    (hnone : b.modules.namespaces.lookup name = none) :
    Ends (loadNamespace u) b fun r b' => b'.modules.namespaces.lookup name = none ∧
      (u.name = name → ∃ e, r = .error e ∧ P e b') := by
  refine .get_bind ?_
  cases hlookup : b.modules.namespaces.lookup u.name with
  | some ns =>
    refine .pure ⟨hnone, fun heq => ?_⟩
    rw [heq, hnone] at hlookup
    cases hlookup
  | none =>
    have hsame : Keeps SameNamespaces (importNamespace u) :=
      frame_sameNamespaces.importNamespace (fun _ _ => rfl) (fun _ _ => rfl) u
    have hstill : Ends (importNamespace u) b fun _ b' =>
        b'.modules.namespaces.lookup name = none :=
      (hsame.ends b).mono fun r b' hsame => by rwa [hsame]
    refine (hstill.and (.imp himport)).bind ?_ fun e b₁ h => ⟨h.1, fun heq => ?_⟩
    · rintro ns b₁ ⟨hnone₁, hfails⟩
      refine .modify_bind (.pure ⟨?_, fun heq => ?_⟩)
      · have hne : name ≠ u.name := by
          rintro rfl
          obtain ⟨_, ⟨⟩, -⟩ := hfails rfl
        change List.lookup name ((u.name, ns) :: b₁.modules.namespaces) = none
        rw [List.lookup_cons, beq_eq_false_iff_ne.2 hne]
        exact hnone₁
      · obtain ⟨_, ⟨⟩, -⟩ := hfails heq
    · obtain ⟨e', he', hP⟩ := h.2 heq
      cases he'
      exact ⟨e, rfl, hP⟩

theorem ends_loadBlob_of_fails {P : BridgeError → Bridge → Prop} (blob : List UInt8)
    (himport : ∀ u : CompiledUnit, u.name = name →
      Ends (importNamespace u) b fun r b' => ∃ e, r = .error e ∧ P e b')
    (hnone : b.modules.namespaces.lookup name = none) :
    Ends (loadBlob blob) b fun r b' => b'.modules.namespaces.lookup name = none ∧
      ∀ u, CompiledUnit.deserialize blob = .ok u → u.name = name →
        ∃ e, r = .error e ∧ (u.kind = .module → P e b') := by
  unfold loadBlob
  split
  · exact .throw ⟨hnone, fun u hu => by simp_all⟩
  · rename_i u hu
    split_ifs with hkind
    · refine .throw ⟨hnone, fun u' hu' _ => ⟨_, rfl, fun hmodule => ?_⟩⟩
      obtain rfl : u = u' := Except.ok.inj (hu.symm.trans hu')
      exact absurd hmodule hkind
    · refine (ends_loadNamespace_of_fails u (himport u) hnone).bind ?_ fun e b₁ h =>
        ⟨h.1, fun u' hu' heq => ?_⟩
      · rintro ns b₁ ⟨hnone₁, hfails⟩
        refine ((frame_sameNamespaces.keep ns).ends b₁).mono fun r b₂ hsame =>
          ⟨by rwa [hsame], ?_⟩
        rintro u' hu' heq
        obtain rfl : u = u' := Except.ok.inj (hu.symm.trans hu')
        obtain ⟨_, ⟨⟩, -⟩ := hfails heq
      · obtain rfl : u = u' := Except.ok.inj (hu.symm.trans hu')
        obtain ⟨e', he', hP⟩ := h.2 heq
        cases he'
        exact ⟨e, rfl, fun _ => hP⟩

/-- No namespace is kept for a dead module. -/
theorem ends_loadBlob_dead (blob : List UInt8) (h : b.Dead name id)
    (hname : ModuleName.resolve "" name = name)
    (hnone : b.modules.namespaces.lookup name = none) :
    Ends (loadBlob blob) b fun r b' => b'.modules.namespaces.lookup name = none ∧
      ∀ u, CompiledUnit.deserialize blob = .ok u → u.name = name → ∃ e, r = .error e := by
  refine (ends_loadBlob_of_fails (P := fun _ _ => True) blob ?_ hnone).mono fun r b' hload =>
    ⟨hload.1, fun u hu heq => (hload.2 u hu heq).imp fun _ => And.left⟩
  rintro u rfl
  exact (ends_importNamespace_dead h hname).mono fun _ _ => Exists.imp fun _ he => ⟨he, trivial⟩

end BridgeM

namespace Bridge

variable {c : BridgeConfig} {events : List Event} {b b' : Bridge} {name : String} {id : Nat}

/-- Only loads keep namespaces. -/
theorem Operation.keeps_sameNamespaces (op : Operation) (hop : ∀ blob, op ≠ .loadBlob blob) :
    Keeps SameNamespaces op.program := by
  have F := frame_sameNamespaces
  refine op.keeps F (fun hc => ?_) fun hm => ?_
  · exact op.keeps_of_handlesCalls F.toCoreFrame hc (fun _ _ => rfl) fun _ _ _ => rfl
  · cases op with
    | evalSource filename source isModule =>
      exact (F.keeps (F.evalSource (fun _ _ => rfl) (fun _ _ => rfl) _ _ _)).map
    | evaluateUnit u => exact (F.keeps (F.evaluateUnit (fun _ _ => rfl) _)).map
    | evalBlob blob => exact (F.keeps (F.evalBlob (fun _ _ => rfl) (fun _ _ => rfl) _)).map
    | loadBlob blob => exact absurd rfl (hop blob)
    | loadSource filename source =>
      exact (F.keeps (F.loadSource (fun _ _ => rfl) (fun _ _ => rfl) _ _)).map
    | registerModule blob => exact (BridgeM.Core.registerModule (fun _ _ => rfl) _).map
    | _ => cases hm

/-- What a load of the name of a dead module comes to. -/
theorem Dead.step_loadBlob (h : b.Dead name id) (hname : ModuleName.resolve "" name = name)
    (hnone : b.modules.namespaces.lookup name = none) (blob : List UInt8) :
    (b.step (.loadBlob blob)).2.modules.namespaces.lookup name = none ∧
      ∀ u, CompiledUnit.deserialize blob = .ok u → u.name = name →
        ∃ e, (b.step (.loadBlob blob)).1 = .error e := by
  obtain ⟨hnone', hfails⟩ := BridgeM.ends_loadBlob_dead blob h hname hnone
  rw [step, Operation.program, exec_map]
  refine ⟨hnone', fun u hu heq => ?_⟩
  obtain ⟨e, he⟩ := hfails u hu heq
  exact ⟨e, by rw [he]; rfl⟩

/-- One operation leaves a dead module dead, with no namespace kept for it. -/
theorem Dead.step (h : b.Dead name id) (hbooks : Books events b)
    (hname : ModuleName.resolve "" name = name)
    (hnone : b.modules.namespaces.lookup name = none) (op : Operation) :
    (b.step op).2.Dead name id ∧ (b.step op).2.modules.namespaces.lookup name = none := by
  refine ⟨h.of_follows (follows_step b op) (h.sound.step hbooks op).sound, ?_⟩
  -- only a load could keep a namespace for the name
  by_cases hop : ∃ blob, op = .loadBlob blob
  · obtain ⟨blob, rfl⟩ := hop
    exact (h.step_loadBlob hname hnone blob).1
  · have hsame := op.keeps_sameNamespaces (fun blob heq => hop ⟨blob, heq⟩) b
    exact (congrArg (List.lookup name) hsame).trans hnone

/-- **A dead module stays dead, whatever the host does.** -/
theorem Dead.after (h : b.Dead name id) (hbooks : Books events b)
    (hname : ModuleName.resolve "" name = name)
    (hnone : b.modules.namespaces.lookup name = none) (ops : List Operation) :
    (b.after ops).Dead name id ∧ (b.after ops).modules.namespaces.lookup name = none := by
  induction ops generalizing events b with
  | nil => exact ⟨h, hnone⟩
  | cons op ops ih =>
    obtain ⟨h', hnone'⟩ := h.step hbooks hname hnone op
    exact ih h' (hbooks.step op).1 hnone'

theorem Run.sound (run : Run c events b) : b.Sound ∧ Books events b := by
  induction run with
  | create h => exact ⟨(sound_blank c).setUp h, (books_blank c).setUp h⟩
  | step run op ih => exact ⟨(ih.1.step ih.2 op).sound, (ih.2.step op).1⟩

/-- **No load of the name of a dead module succeeds.** -/
theorem Dead.load (h : b.Dead name id) (hbooks : Books events b)
    (hname : ModuleName.resolve "" name = name)
    (hnone : b.modules.namespaces.lookup name = none) (ops : List Operation) {blob : List UInt8}
    {u : CompiledUnit} (hu : CompiledUnit.deserialize blob = .ok u) (heq : u.name = name) :
    ∃ e, ((b.after ops).step (.loadBlob blob)).1 = .error e := by
  obtain ⟨h', hnone'⟩ := h.after hbooks hname hnone ops
  exact (h'.step_loadBlob hname hnone' blob).2 u hu heq

theorem lookup_of_not_declared (h : b.modules.isDeclared name = false) :
    b.modules.namespaces.lookup name = none := by
  cases hlookup : b.modules.namespaces.lookup name with
  | none => rfl
  | some ns => simp [ModuleRegistry.isDeclared, hlookup] at h

end Bridge

namespace BridgeM

open Bridge

variable {α β : Type} {S : String → List UInt8 → Prop} {b : Bridge} {name : String} {id : Nat}
  {blob : List UInt8} {u : CompiledUnit}

/-! ### Loads of names that are not declared -/

/-- The module in a blob is loaded. -/
theorem exec_loadBlob (hu : CompiledUnit.deserialize blob = .ok u) (hkind : u.kind = .module)
    (b : Bridge) : exec (loadBlob blob) b = exec (do keep (← loadNamespace u)) b := by
  unfold loadBlob
  rw [hu]
  dsimp only
  rw [if_neg (not_not.2 hkind)]

/-- A unit that does not pass the check is not loaded, and nothing has changed. -/
theorem exec_loadBlob_of_error (hu : CompiledUnit.deserialize blob = .ok u)
    (hkind : u.kind = .module) (hnew : b.modules.isDeclared u.name = false) {e : BridgeError}
    (hcheck : b.modules.checkLinkable u.name u.payload = .error e) :
    exec (loadBlob blob) b = (.error e, b) := by
  have hensure : exec (ensureDeclared u) b = (.error e, b) := by
    rw [ensureDeclared, exec_bind, exec_get]
    simp only [hnew, Bool.false_eq_true, if_false]
    rw [exec_bind, exec_declareModule_of_error hcheck]
  have hload : exec (loadNamespace u) b = (.error e, b) := by
    rw [loadNamespace, exec_bind, exec_get]
    simp only [lookup_of_not_declared hnew]
    rw [exec_bind, importNamespace, exec_bind, hensure]
  rw [exec_loadBlob hu hkind, exec_bind, hload]

/-- A module was run, or what was to run it has failed; then the module is dead, unless the engine
was cut off. -/
def RunOrDead (id : Nat) (name : String) (r : Except BridgeError α) (b : Bridge) : Prop :=
  (b.modules.evaluations.lookup name).isSome = true ∨
    (∃ e, r = .error e) ∧ (b.isHalted = true ∨ Loading.IsDead id name b.modules.table)

/-- What comes after that leaves it alone. -/
theorem ends_bind_runOrDead {p : BridgeM α} {f : α → BridgeM β}
    (hp : Ends p b (RunOrDead id name)) (hf : ∀ a, Keeps (Tracks S) (f a)) :
    Ends (p >>= f) b (RunOrDead id name) := by
  refine hp.bind (fun a b₁ h => ?_) fun e b₁ h => h.imp_right fun h => ⟨⟨e, rfl⟩, h.2⟩
  obtain hnoted | ⟨⟨_, ⟨⟩⟩, -⟩ := h
  exact ((hf a).ends b₁).mono fun _ _ htracks => .inl (htracks.noted name hnoted)

/-- A load of a unit that passes the check runs its module, or leaves it dead. -/
theorem ends_loadBlob_runOrDead (hu : CompiledUnit.deserialize blob = .ok u)
    (hkind : u.kind = .module) (hnew : b.modules.isDeclared u.name = false) {a : Unit}
    (hcheck : b.modules.checkLinkable u.name u.payload = .ok a) :
    Ends (loadBlob blob) b (RunOrDead b.modules.table.records.size u.name) := by
  let Q {α : Type} (r : Except BridgeError α) (b' : Bridge) : Prop :=
    RunOrDead b.modules.table.records.size u.name r b'
  have F := frame_tracks fun _ _ => False
  have hdeclare : Ends (declareModule u) b Q :=
    (ends_declareModule_tracks (S := fun _ _ => False) hcheck).mono fun r b₁ h => by
      cases r with
      | ok a => exact .inl (h.noted ⟨a, rfl⟩)
      | error e => exact .inr ⟨⟨e, rfl⟩, h.failed ⟨e, rfl⟩⟩
  have hensure : Ends (ensureDeclared u) b Q := by
    refine .get_bind ?_
    rw [if_neg (Bool.eq_false_iff.1 hnew)]
    exact ends_bind_runOrDead hdeclare fun _ => F.drain.discard
  have himport : Ends (importNamespace u) b Q :=
    ends_bind_runOrDead (S := fun _ _ => False) hensure fun _ => F.importDeclared u
  have hload : Ends (loadNamespace u) b Q := by
    refine .get_bind ?_
    rw [lookup_of_not_declared hnew]
    refine himport.bind (fun ns b₁ h => .modify_bind (.pure ?_)) fun e b₁ h =>
      h.imp_right fun h => ⟨⟨e, rfl⟩, h.2⟩
    obtain hnoted | ⟨⟨_, ⟨⟩⟩, -⟩ := h
    exact .inl hnoted
  unfold loadBlob
  rw [hu]
  dsimp only
  rw [if_neg (not_not.2 hkind)]
  exact ends_bind_runOrDead hload F.keep

end BridgeM

namespace Bridge

variable {c : BridgeConfig} {events : List Event} {b : Bridge} {blob : List UInt8}
  {u : CompiledUnit}

/-- What is left of a load that fails before its module runs. -/
structure FailedLoad (b : Bridge) (blob : List UInt8) (u : CompiledUnit) : Prop where
  /-- If the unit does not pass the check, nothing has changed: all that the host does later is as
  it would be without that load. -/
  refused : ∀ {e : BridgeError}, b.modules.checkLinkable u.name u.payload = .error e →
    b.step (.loadBlob blob) = (.error e, b)
  /-- If it passes the check, and its name is not declared after the load, then the load has failed
  and has left a dead module of the name. -/
  dead : ∀ {a : Unit}, b.modules.checkLinkable u.name u.payload = .ok a →
    let b' := (b.step (.loadBlob blob)).2
    b'.isHalted = false → b'.modules.isDeclared u.name = false →
    (∃ e, (b.step (.loadBlob blob)).1 = .error e) ∧
      Loading.IsDead b.modules.table.records.size u.name b'.modules.table
  /-- If the name led to no module before, and is one that imports ask for, then no later load of
  the name succeeds, whatever unit it is and whatever the host does before. -/
  poisoned : ∀ {a : Unit}, b.modules.checkLinkable u.name u.payload = .ok a →
    b.modules.table.named? u.name = none → ModuleName.resolve "" u.name = u.name →
    let b' := (b.step (.loadBlob blob)).2
    b'.isHalted = false → b'.modules.isDeclared u.name = false →
    ∀ (ops : List Operation) {blob' : List UInt8} {u' : CompiledUnit},
      CompiledUnit.deserialize blob' = .ok u' → u'.name = u.name →
      ∃ e, ((b'.after ops).step (.loadBlob blob')).1 = .error e

/-- **A load that fails before its module runs has changed nothing, or leaves a dead module in the
place of its name.** -/
theorem failed_load (run : Run c events b) (hu : CompiledUnit.deserialize blob = .ok u)
    (hkind : u.kind = .module) (hnew : b.modules.isDeclared u.name = false) :
    FailedLoad b blob u := by
  have hstep : b.step (.loadBlob blob) = ((exec (BridgeM.loadBlob blob) b).1.map .handle,
      (exec (BridgeM.loadBlob blob) b).2) := by
    rw [step, Operation.program, exec_map]
  have hdead {a : Unit} (hcheck : b.modules.checkLinkable u.name u.payload = .ok a)
      (hhalted : (b.step (.loadBlob blob)).2.isHalted = false)
      (hdeclared : (b.step (.loadBlob blob)).2.modules.isDeclared u.name = false) :
      (∃ e, (b.step (.loadBlob blob)).1 = .error e) ∧ Loading.IsDead b.modules.table.records.size
        u.name (b.step (.loadBlob blob)).2.modules.table := by
    have hends := BridgeM.ends_loadBlob_runOrDead hu hkind hnew hcheck
    rw [hstep] at hhalted hdeclared ⊢
    obtain hnoted | ⟨⟨e, he⟩, hhalted' | hdead⟩ := hends
    · simp [ModuleRegistry.isDeclared, hnoted] at hdeclared
    · rw [hhalted'] at hhalted
      cases hhalted
    · exact ⟨⟨e, by rw [he]; rfl⟩, hdead⟩
  refine ⟨fun hcheck => ?_, hdead, fun hcheck hnamed hname hhalted hdeclared ops => ?_⟩
  · rw [hstep, BridgeM.exec_loadBlob_of_error hu hkind hnew hcheck]
    rfl
  · obtain ⟨hsound, hbooks⟩ := (run.step (.loadBlob blob)).sound
    obtain ⟨m, hm, hmname, -, -, hdropped⟩ := (hdead hcheck hhalted hdeclared).2
    have hfollows := b.follows_step (.loadBlob blob)
    have hdead' : (b.step (.loadBlob blob)).2.Dead u.name b.modules.table.records.size :=
      ⟨hsound, hfollows.sane run.sane, hfollows.grown.named?_eq_size hnamed hm hdropped hmname,
        (hdead hcheck hhalted hdeclared).2⟩
    intro blob' u' hu' heq
    exact hdead'.load hbooks hname (lookup_of_not_declared hdeclared) ops hu' heq

theorem deserialize_misled : CompiledUnit.deserialize misled.serialize = .ok misled :=
  CompiledUnit.deserialize_eq_ok_iff.2 ⟨⟨by decide, by decide⟩, rfl⟩

theorem deserialize_unresolvable :
    CompiledUnit.deserialize unresolvable.serialize = .ok unresolvable :=
  CompiledUnit.deserialize_eq_ok_iff.2 ⟨⟨by decide, by decide⟩, rfl⟩

/-- It holds of a bridge with modules and of two more, of which one does not pass the check and the
other one cannot be linked: the first load changes nothing, and the second one leaves a dead module,
so that no later load of the name succeeds. -/
theorem failed_load_importing : ∃ (b : Bridge) (events : List Event), Run {} events b ∧
    events.map (·.operation) = importing ∧
    (FailedLoad b unresolvable.serialize unresolvable ∧
      ∃ e, b.step (.loadBlob unresolvable.serialize) = (.error e, b)) ∧
    FailedLoad b misled.serialize misled ∧
      let b' := (b.step (.loadBlob misled.serialize)).2
      Loading.IsDead b.modules.table.records.size misled.name b'.modules.table ∧
      ∀ (ops : List Operation) {blob' : List UInt8} {u' : CompiledUnit},
        CompiledUnit.deserialize blob' = .ok u' → u'.name = misled.name →
        ∃ e, ((b'.after ops).step (.loadBlob blob')).1 = .error e := by
  have hlinks := links_importing
  obtain ⟨b, tags, hcreate⟩ := exists_create
  obtain ⟨events, hops, run⟩ := (Run.create hcreate).after importing
  rw [List.nil_append] at run
  rw [hcreate] at hlinks
  simp only [Except.toOption, Option.map, Option.some.injEq, ← after_importing, Prod.mk.injEq,
    List.cons.injEq] at hlinks
  generalize b.after importing = b at hlinks run
  obtain ⟨⟨-, -, -, hnew, hnew', hnamed, hrefused, hpassed, hhalted, hundeclared, -⟩, -⟩ := hlinks
  have hstep : (b.step (.loadBlob misled.serialize)).2 =
      (exec (do BridgeM.keep (← BridgeM.loadNamespace misled)) b).2 := by
    rw [step, Operation.program, exec_map, BridgeM.exec_loadBlob deserialize_misled rfl]
  rw [← hstep] at hhalted hundeclared
  have hfailed := failed_load run deserialize_unresolvable rfl hnew
  have hfailed' := failed_load run deserialize_misled rfl hnew'
  have hcheck : b.modules.checkLinkable misled.name misled.payload = .ok () := by
    cases h : b.modules.checkLinkable misled.name misled.payload with
    | ok a => rfl
    | error e =>
      rw [h] at hpassed
      cases hpassed
  refine ⟨b, events, run, hops, ⟨hfailed, ?_⟩, hfailed',
    (hfailed'.dead hcheck hhalted hundeclared).2, ?_⟩
  · cases h : b.modules.checkLinkable unresolvable.name unresolvable.payload with
    | ok a =>
      rw [h] at hrefused
      cases hrefused
    | error e => exact ⟨e, hfailed.refused h⟩
  · exact hfailed'.poisoned hcheck
      (Option.isSome_eq_false_iff.1 hnamed |> Option.isNone_iff_eq_none.1)
      (by decide) hhalted hundeclared

end Bridge

end ScriptBridge
