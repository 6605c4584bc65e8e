import ScriptBridge.Proofs.Bridge.Handles
import ScriptBridge.Proofs.Module.Declare

/-!
# Operations on modules

Every operation leaves the names of all live modules declared, unless a module is registered under
the name of another, or run as a script.

* `Operation.keeps_settles` : **each operation settles** what it does.
* `ends_loadBlob` : a load puts the namespace that is kept for the module under a new handle.
-/

namespace ScriptBridge

open Script

namespace Bridge

/-- All is settled after it, if it was before. -/
abbrev Settles : Bridge → Bridge → Prop := Orderly fun _ _ => False

theorem frame_settles : BridgeM.Frame Settles := frame_orderly _

/-- The same modules are loaded. -/
def SameNamespaces (b b' : Bridge) : Prop := b'.modules.namespaces = b.modules.namespaces

instance : IsPreorder Bridge SameNamespaces where
  refl _ := rfl
  trans _ _ _ h h' := h'.trans h

theorem engineFrame_sameNamespaces : BridgeM.EngineFrame SameNamespaces where
  world _ _ := rfl
  suspended _ _ := rfl
  halt _ _ _ := rfl
  insert _ _ := rfl
  released _ _ _ _ := rfl
  functions _ _ := rfl
  descriptors _ _ := rfl
  output _ _ := rfl
  stdout _ _ := rfl
  failures _ _ := rfl
  issue _ _ _ := rfl
  table _ _ := rfl

theorem frame_sameNamespaces : BridgeM.Frame SameNamespaces :=
  engineFrame_sameNamespaces.frame

/-- The namespace of a module may be kept when there is none. -/
theorem settles_cache {b : Bridge} {name : String} {v : Value}
    (hnone : b.modules.namespaces.lookup name = none) (hv : ∃ r, v = .object r) :
    Settles b { b with modules := { b.modules with
      namespaces := (name, v) :: b.modules.namespaces } } := by
  have hlookup {n : String} (hn : n ≠ name) :
      List.lookup n ((name, v) :: b.modules.namespaces) = b.modules.namespaces.lookup n := by
    rw [List.lookup_cons, beq_eq_false_iff_ne.2 hn]
  have hdeclared (n : String) (hn : b.modules.isDeclared n = true) :
      { b.modules with namespaces := (name, v) :: b.modules.namespaces }.isDeclared n = true := by
    simp only [ModuleRegistry.isDeclared, Bool.or_eq_true] at hn ⊢
    exact hn.imp_left fun hn => hn.imp_left fun hn => (lookup_cons_isSome v).2 (.inr hn)
  intro hb
  refine ⟨⟨hb.table, fun hrun id m hm hlive => ?_, fun n w hw => ?_⟩,
    ⟨fun h => h, .refl _, fun n w hw => ?_, hdeclared⟩⟩
  · exact (hb.declared hrun id m hm hlive).imp_left (hdeclared _)
  · by_cases hn : n = name
    · subst hn
      rw [List.lookup_cons_self] at hw
      exact Option.some.inj hw ▸ hv
    · rw [hlookup hn] at hw
      exact hb.namespaces n w hw
  · have hn : n ≠ name := by
      rintro rfl
      rw [hnone] at hw
      cases hw
    exact (hlookup hn).trans hw

end Bridge

namespace BridgeM

open Bridge

variable {b : Bridge}

/-! ### Each operation -/

/-- A source text is declared as a module under its name. -/
theorem keeps_loadSource (filename source : String) :
    Keeps Settles (loadSource filename source) := by
  refine .of_ends fun b => .get_bind ?_
  split_ifs with hname
  · exact .throw (refl_of Settles b)
  · refine frame_settles.ends_thenDrain (Q := fun _ b' => b.Settles b') ?_
      fun _ _ _ h h' => trans_of Settles h h'
    split
    · exact .throw (refl_of Settles b)
    · exact .throw (refl_of Settles b)
    · rename_i program _ _
      refine Ends.imp (c := b.Settled) (P := fun _ b' => b'.Settled ∧ b.Moves b') fun hb => ?_
      refine (ends_tableStage_add _ .evaluation hb (Bool.eq_false_iff.2 hname)
        (.inr ⟨program, rfl, rfl⟩)).bind ?_ fun _ _ h => h.settled
      intro id b₁ h₁
      obtain ⟨hmoves₁, hb₁⟩ := h₁.cases
      refine (ends_tableStage_giveUp _ .evaluation hmoves₁ hb₁
        (Loading.ends_orDrop (Loading.ends_resolve id _))).bind ?_ fun _ _ h => h.settled
      intro _ b₂ h₂
      obtain ⟨hmoves₂, hb₂⟩ := h₂.cases
      refine ends_evaluation _ .evaluation hmoves₂ hb₂ fun promise b₃ h₃ => ?_
      obtain ⟨hb₄, hmoves₄⟩ := frame_settles.keep promise b₃ h₃.1
      exact ⟨hb₄, h₃.2.trans hmoves₄⟩

theorem keeps_evalSource (filename source : String) (isModule : Bool) :
    Keeps Settles (evalSource filename source isModule) :=
  (keeps_loadSource filename source).ite
    (frame_settles.keeps (frame_settles.evalScript filename source))

/-- The engine keeps a module that is run as a script; here there is none. -/
theorem keeps_evaluateUnit {u : CompiledUnit} (hu : u.kind ≠ .module → u.HoldsNoModule) :
    Keeps Settles (evaluateUnit u) := by
  unfold evaluateUnit
  split_ifs with hkind
  · exact .throw _
  · have hread : Keeps Settles (updateTable (Loading.read u.payload)) := by
      intro b
      rw [exec_updateTable, Loading.exec_read]
      split_ifs
      · exact refl_of Settles b
      · cases hread : readModule u.payload with
        | error f => exact refl_of Settles b
        | ok module => exact absurd hread (hu hkind module)
    refine frame_settles.keeps_thenDrain (hread.discard.bind fun _ => ?_)
    exact (frame_settles.evaluate _).bind fun _ => frame_settles.keep _

theorem keeps_ensureDeclared (u : CompiledUnit) : Keeps Settles (ensureDeclared u) := by
  refine .of_ends fun b => .get_bind ?_
  have hdrain := frame_settles.drain.discard
  split_ifs with hname
  · exact hdrain b
  · have hdeclare : Ends (declareModule u) b fun _ b' => Settles b b' := fun hb =>
      ends_declareModule hb (Bool.eq_false_iff.2 hname)
    exact hdeclare.bind (fun _ b' h => (hdrain.ends b').mono fun _ _ h' => trans_of Settles h h')
      fun _ _ h => h

theorem keeps_evaluateModuleUnit (u : CompiledUnit) : Keeps Settles (evaluateModuleUnit u) :=
  frame_settles.keeps (frame_settles.evaluateModuleUnit_of (keeps_ensureDeclared u))

theorem keeps_importNamespace (u : CompiledUnit) : Keeps Settles (importNamespace u) :=
  frame_settles.importNamespace_of (keeps_ensureDeclared u)

/-! ### Loads -/

/-- An import yields an object. -/
theorem ends_importNamespace (u : CompiledUnit) (b : Bridge) :
    Ends (importNamespace u) b fun r _ => ∀ v, r = .ok v → ∃ ns, v = .object ns := by
  have herror (e : BridgeError) (_ : Bridge) (v : Value) (h : .error e = Except.ok v) :
      ∃ ns, v = .object ns := by cases h
  refine .bind_any (fun _ b₁ => .bind_any (fun _ b₂ => ?_) herror) herror
  refine .bind_any (fun promise b₃ => .bind_any (fun _ b₄ => ?_) herror) herror
  exact ends_importedNamespace u.name promise b₄

/-- The namespace of a module is kept from the first load on. -/
theorem ends_loadNamespace (u : CompiledUnit) (b : Bridge) :
    Ends (loadNamespace u) b fun r b' =>
      Settles b b' ∧ ∀ v, r = .ok v → b'.modules.namespaces.lookup u.name = some v := by
  refine .get_bind ?_
  cases hlookup : b.modules.namespaces.lookup u.name with
  | some ns =>
    refine .pure ⟨refl_of Settles b, fun v h => ?_⟩
    cases h
    exact hlookup
  | none =>
    have hsame : Keeps SameNamespaces (importNamespace u) :=
      frame_sameNamespaces.importNamespace (fun _ _ => rfl) (fun _ _ => rfl) u
    refine ((((keeps_importNamespace u).ends b).and (hsame.ends b)).and
      (ends_importNamespace u b)).bind ?_ fun e b' h => ⟨h.1.1, nofun⟩
    rintro ns b₁ ⟨⟨hsettles, hsame⟩, hobject⟩
    have hnone : b₁.modules.namespaces.lookup u.name = none := hsame ▸ hlookup
    refine .modify_bind (.pure ⟨trans_of Settles hsettles ?_, fun v h => ?_⟩)
    · exact settles_cache hnone (hobject ns rfl)
    · cases h
      exact List.lookup_cons_self

theorem keeps_loadNamespace (u : CompiledUnit) : Keeps Settles (loadNamespace u) :=
  .of_ends fun b => (ends_loadNamespace u b).mono fun _ _ h => h.1

variable {blob : List UInt8}

theorem keeps_evalBlob (hblob : ∀ u, CompiledUnit.deserialize blob = .ok u → u.kind ≠ .module →
    u.HoldsNoModule) : Keeps Settles (evalBlob blob) := by
  unfold evalBlob
  split
  · exact .throw _
  · rename_i u hu
    split
    · exact keeps_evaluateUnit (hblob u hu)
    · exact keeps_evaluateModuleUnit u

theorem keeps_loadBlob (blob : List UInt8) : Keeps Settles (loadBlob blob) := by
  unfold loadBlob
  split
  · exact .throw _
  · rename_i u hu
    refine Keeps.ite (.throw _) ((keeps_loadNamespace u).bind fun ns => ?_)
    exact frame_settles.keep ns

theorem keeps_registerModule
    (hblob : ∀ u, CompiledUnit.deserialize blob = .ok u → u.NamesItself) :
    Keeps Settles (registerModule blob) := by
  unfold registerModule
  split
  · exact .throw _
  · rename_i u hu
    refine Keeps.ite (.throw _) (Keeps.bind ?_ fun _ => .pure _)
    intro b hb
    exact ⟨hb.keep (hblob u hu), moves_keep b u.name u.payload⟩

/-- A module that is registered is kept, and that is all. -/
theorem exec_registerModule {u : CompiledUnit} (hu : CompiledUnit.deserialize blob = .ok u)
    (hkind : u.kind = .module) : exec (registerModule blob) b =
      (.ok u.name, b.withTable (b.modules.table.keep u.name u.payload)) := by
  unfold registerModule
  rw [hu]
  dsimp only
  rw [if_neg (not_not.2 hkind)]
  rfl

/-- **A load makes a handle for the namespace that is kept for the module.** -/
theorem ends_loadBlob (hb : b.Handled) :
    Ends (loadBlob blob) b fun r b' => ∀ h, r = .ok h → ∃ u v,
      CompiledUnit.deserialize blob = .ok u ∧ b'.modules.namespaces.lookup u.name = some v ∧
        b'.Names h v := by
  unfold loadBlob
  split
  · exact .throw nofun
  · rename_i u hu
    split_ifs
    · exact .throw nofun
    · have hhandles : Keeps KeepsHandles (loadNamespace u) :=
        frame_handles.loadNamespace (fun _ _ => keepsHandles_of_eq rfl)
          (fun _ _ => keepsHandles_of_eq rfl) (fun _ _ => keepsHandles_of_eq rfl) u
      refine ((ends_loadNamespace u b).and (hhandles.ends b)).bind ?_ fun _ _ _ => nofun
      rintro ns b₁ ⟨⟨-, hlookup⟩, -, hhandled⟩
      refine (((frame_sameNamespaces.keep ns).ends b₁).and (ends_keep (hhandled hb) ns)).mono ?_
      rintro r b₂ ⟨hsame, hnames⟩ h hr
      exact ⟨u, ns, hu, hsame ▸ hlookup ns rfl, hnames h hr⟩

end BridgeM

namespace Bridge

/-- The units in an operation say what their payloads are. -/
def Operation.Genuine : Operation → Prop
  | .evaluateUnit u => u.Genuine
  | .evalBlob blob | .loadBlob blob | .registerModule blob =>
    ∀ u, CompiledUnit.deserialize blob = .ok u → u.Genuine
  | _ => True

/-- A module that is registered has the name that it is registered under. -/
def Operation.NamesModules : Operation → Prop
  | .registerModule blob => ∀ u, CompiledUnit.deserialize blob = .ok u → u.NamesItself
  | _ => True

/-- What an operation registers: a name, with a payload. -/
def Operation.Registers : Operation → String → List UInt8 → Prop
  | .registerModule blob => fun name payload =>
    ∃ u, CompiledUnit.deserialize blob = .ok u ∧ u.name = name ∧ u.payload = payload
  | _ => fun _ _ => False

theorem Operation.NamesModules.knownAs {op : Operation} (h : op.NamesModules) (name : String)
    (payload : List UInt8) (hop : op.Registers name payload) : KnownAs name payload := by
  cases op with
  | registerModule blob =>
    obtain ⟨u, hu, rfl, rfl⟩ := hop
    exact h u hu
  | _ => cases hop

/-- What is run as a script is not a module. -/
def Operation.RunsScripts : Operation → Prop
  | .evaluateUnit u => u.kind ≠ .module → u.HoldsNoModule
  | .evalBlob blob =>
    ∀ u, CompiledUnit.deserialize blob = .ok u → u.kind ≠ .module → u.HoldsNoModule
  | _ => True

/-- The units in an operation do not lie where it matters. -/
structure Operation.Honest (op : Operation) : Prop where
  names : op.NamesModules
  scripts : op.RunsScripts

/-- A load checks by itself what its unit says. -/
theorem Operation.honest_loadBlob (blob : List UInt8) : (loadBlob blob).Honest := ⟨trivial, trivial⟩

/-- **Every operation on honest units leaves all settled.** -/
theorem Operation.keeps_settles (op : Operation) (h : op.Honest) : Keeps Settles op.program := by
  refine op.keeps frame_settles (fun hc => ?_) fun hm => ?_
  · exact op.keeps_of_handlesCalls frame_settles.toCoreFrame hc
      (fun _ _ => orderly_of_modules_eq rfl rfl) fun _ _ _ => orderly_of_modules_eq rfl rfl
  · cases op with
    | evalSource filename source isModule => exact (BridgeM.keeps_evalSource _ _ _).map
    | evaluateUnit u => exact (BridgeM.keeps_evaluateUnit h.scripts).map
    | evalBlob blob => exact (BridgeM.keeps_evalBlob h.scripts).map
    | loadBlob blob => exact (BridgeM.keeps_loadBlob _).map
    | loadSource filename source => exact (BridgeM.keeps_loadSource _ _).map
    | registerModule blob => exact (BridgeM.keeps_registerModule h.names).map
    | _ => cases hm

end Bridge

end ScriptBridge
