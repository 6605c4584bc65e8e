import ScriptBridge.Proofs.Module.Load
import ScriptBridge.Proofs.Module.Resolution

/-!
# The names of modules

A unit that was compiled as a module has a canonical name, and so has a source text that is run as
one.  Imports bring in modules that were kept under such names, so a bridge that is only given
compiled units has no other modules.

* `Bridge.Run.namesCanonical` : in such a run, **every module has a canonical name**, and all that
  is kept is kept under one.
-/

namespace ScriptBridge

open Script ModuleTable

/-- The name of a module: one that is its own canonical form. -/
def ModuleName.IsCanonical (name : String) : Prop := canonical name = name

open ModuleName

/-- If there is a module in the payload, then it has a canonical name. -/
def Script.HoldsCanonical (payload : List UInt8) : Prop :=
  ∀ name program, readModule payload = .ok (name, program) → IsCanonical name

namespace Script.ModuleTable

variable {t : ModuleTable} {name : String} {payload : List UInt8}

/-- All names of modules are canonical. -/
structure NamesCanonical (t : ModuleTable) : Prop where
  records : ∀ m ∈ t.records, IsCanonical m.name
  store : ∀ e ∈ t.store, IsCanonical e.1 ∧ HoldsCanonical e.2

theorem namesCanonical_empty : ({} : ModuleTable).NamesCanonical where
  records m hm := absurd hm (Array.not_mem_empty m)
  store _ he := absurd he List.not_mem_nil

/-- Names stay canonical. -/
def KeepsNames (t t' : ModuleTable) : Prop := t.NamesCanonical → t'.NamesCanonical

instance : IsPreorder ModuleTable KeepsNames where
  refl _ := id
  trans _ _ _ h h' ht := h' (h ht)

/-- A table with the same store may have other modules of the same names. -/
theorem keepsNames_of_records {rs : Array ModuleRecord}
    (h : ∀ m ∈ rs, ∃ m' ∈ t.records, m.name = m'.name) : t.KeepsNames { t with records := rs } := by
  refine fun ht => ⟨fun m hm => ?_, ht.store⟩
  obtain ⟨m', hm', hname⟩ := h m hm
  exact hname ▸ ht.records m' hm'

theorem keepsNames_modifyRecord (t : ModuleTable) (id : Nat) {f : ModuleRecord → ModuleRecord}
    (hf : ∀ m, (f m).name = m.name) : t.KeepsNames (t.modifyRecord id f) := by
  refine keepsNames_of_records fun m hm => ?_
  obtain ⟨i, hi⟩ := Array.mem_iff_getElem?.1 hm
  have hmodify : (t.modifyRecord id f).records[i]? = some m := hi
  rw [records_modifyRecord, Option.map_eq_some_iff] at hmodify
  obtain ⟨m', hm', rfl⟩ := hmodify
  refine ⟨m', Array.mem_of_getElem? hm', ?_⟩
  split_ifs
  · exact hf m'
  · rfl

theorem NamesCanonical.push (ht : t.NamesCanonical) (hname : IsCanonical name)
    (program : Program) :
    NamesCanonical { t with records := t.records.push { name, program } } := by
  refine ⟨fun m hm => ?_, ht.store⟩
  obtain hm | rfl := Array.mem_push.1 hm
  · exact ht.records m hm
  · exact hname

theorem NamesCanonical.keep (ht : t.NamesCanonical) (hname : IsCanonical name)
    (hpayload : HoldsCanonical payload) : (t.keep name payload).NamesCanonical := by
  refine ⟨ht.records, fun e he => ?_⟩
  obtain rfl | he := List.mem_cons.1 he
  · exact ⟨hname, hpayload⟩
  · exact ht.store e (List.mem_filter.1 he).1

end Script.ModuleTable

namespace Script.Loading

variable {α : Type} {p : Loading α}

theorem keepsNames_read {payload : List UInt8} (h : HoldsCanonical payload) :
    Keeps KeepsNames (read payload) := by
  intro t
  rw [exec_read]
  cases hread : readModule payload with
  | error f => exact refl_of _ t
  | ok module =>
    obtain ⟨name, program⟩ := module
    exact fun ht => ht.push (h name program hread) program

/-- What an import brings in was kept before. -/
theorem keepsNames_find (name : String) : Keeps KeepsNames (find name) := by
  refine Keeps.of_ends fun t => .get_bind ?_
  split
  · exact .pure (refl_of _ t)
  · rename_i payload _ hstore
    refine Ends.imp fun ht => ?_
    have hheld : HoldsCanonical payload := by
      obtain ⟨l₁, l₂, hl, -⟩ := List.lookup_eq_some_iff.1 hstore
      exact (ht.store (name, payload) (by simp [hl])).2
    refine ((keepsNames_read hheld).ends t).bind (fun id t' h => .modify_bind (.pure ?_))
      fun _ _ h => h ht
    exact ⟨(h ht).records, (h ht).store⟩
  · exact .throw (refl_of _ t)

theorem keepsNames_requestAll {below : Nat → Loading Unit}
    (hbelow : ∀ id, Keeps KeepsNames (below id)) (id : Nat) (names : List Str) :
    Keeps KeepsNames (requestAll below id names) := by
  have hrequest (s : Str) : Keeps KeepsNames (request id s) := by
    refine Keeps.get.bind fun t => (Keeps.ofExcept _).bind fun specifier => ?_
    refine (keepsNames_find _).bind fun target => (Keeps.modify fun t => ?_).bind fun _ => .pure _
    exact keepsNames_modifyRecord t id fun _ => rfl
  induction names with
  | nil => exact .pure _
  | cons s rest ih => exact (hrequest s).bind fun target => (hbelow target).bind fun _ => ih

theorem keepsNames_resolve (id : Nat) : Keeps KeepsNames (resolve id) := by
  have hfrom (fuel : Nat) : ∀ id, Keeps KeepsNames (resolveFrom fuel id) := by
    induction fuel with
    | zero => exact fun _ => .throw _
    | succ fuel ih =>
      refine fun id => Keeps.get.bind fun t => Keeps.ite ?_ (.pure _)
      refine (Keeps.modify fun t => ?_).bind fun _ => keepsNames_requestAll ih id _
      exact keepsNames_modifyRecord t id fun _ => rfl
  refine Keeps.get.bind fun t => (hfrom _ id).tryCatch fun f => ?_
  refine (Keeps.modify fun t => keepsNames_of_records fun m hm => ?_).bind fun _ => .throw _
  obtain ⟨m', hm', rfl⟩ := Array.mem_map.1 hm
  refine ⟨m', hm', ?_⟩
  split_ifs
  · exact ModuleRecord.ages_drop.name
  · rfl

theorem keepsNames_link (id : Nat) : Keeps KeepsNames (link id) := by
  refine Keeps.of_ends fun t => .get_bind ?_
  rcases t.linkOrder (t.records.size + 1) ([], []) id with ⟨_, order⟩
  dsimp only
  split
  · exact .throw (refl_of _ t)
  · refine .modify_bind (.pure ?_)
    obtain ⟨rs, hfold, hrs⟩ := foldl_modifyRecord order t
    rw [hfold]
    refine keepsNames_of_records fun m hm => ?_
    obtain ⟨i, hi⟩ := Array.mem_iff_getElem?.1 hm
    rw [hrs, Option.map_eq_some_iff] at hi
    obtain ⟨m', hm', rfl⟩ := hi
    refine ⟨m', Array.mem_of_getElem? hm', ?_⟩
    split_ifs <;> rfl

theorem keepsNames_orAbandon (hp : Keeps KeepsNames p) (id : Nat) :
    Keeps KeepsNames (p.orAbandon id) := by
  refine hp.tryCatch fun f => (Keeps.modify fun t => ?_).bind fun _ => .throw _
  exact keepsNames_modifyRecord t id fun _ => ModuleRecord.ages_abandon.name

theorem keepsNames_orDrop (hp : Keeps KeepsNames p) (id : Nat) :
    Keeps KeepsNames (p.orDrop id) := by
  refine hp.tryCatch fun f => (Keeps.modify fun t => ?_).bind fun _ => .throw _
  exact keepsNames_modifyRecord t id fun _ => ModuleRecord.ages_drop.name

/-- What a script asks of the table leaves the names canonical. -/
theorem keepsNames_serve (t : ModuleTable) (c : ModuleCall) : t.KeepsNames (t.serve c).2 := by
  cases c with
  | table => exact refl_of _ t
  | find name =>
    have hfind : Keeps KeepsNames (do return [← find name] : Loading (List Nat)) :=
      (keepsNames_find name).bind fun _ => .pure _
    exact hfind t
  | resolve id =>
    have hresolve : Keeps KeepsNames (do
        resolve id
        return [] : Loading (List Nat)) := (keepsNames_resolve id).bind fun _ => .pure _
    exact hresolve t
  | link id => exact keepsNames_link id t
  | start id =>
    intro ht
    simp only [ModuleTable.serve, ModuleTable.start]
    split_ifs
    · exact ⟨ht.records, ht.store⟩
    · exact ht

end Script.Loading

namespace CompiledUnit

/-- The unit comes from a source text. -/
def Compiled (u : CompiledUnit) : Prop :=
  ∃ (filename source : String) (kind : UnitKind), compile filename source kind = .ok u

variable {u : CompiledUnit}

theorem Compiled.genuine (h : u.Compiled) : u.Genuine := by
  obtain ⟨_, _, _, h⟩ := h
  exact genuine_compile h

/-- **A compiled module has a canonical name.** -/
theorem Compiled.isCanonical (h : u.Compiled) (hkind : u.kind = .module) : IsCanonical u.name := by
  obtain ⟨filename, source, kind, h⟩ := h
  obtain ⟨name, -, hname, rfl⟩ := of_compile h
  rw [IsCanonical, hname hkind]
  exact canonical_canonical filename

theorem Compiled.holdsCanonical (h : u.Compiled) : HoldsCanonical u.payload := by
  intro name program hread
  obtain ⟨hkind, rfl⟩ := h.genuine.of_readModule hread
  exact h.isCanonical hkind

end CompiledUnit

namespace Bridge

variable {b b' : Bridge}

/-- The names of the modules of a bridge stay canonical. -/
def KeepsCanonical (b b' : Bridge) : Prop := b.modules.table.KeepsNames b'.modules.table

instance : IsPreorder Bridge KeepsCanonical where
  refl b := refl_of ModuleTable.KeepsNames b.modules.table
  trans _ _ _ := trans_of ModuleTable.KeepsNames

theorem engineFrame_keepsCanonical : BridgeM.EngineFrame KeepsCanonical where
  world _ _ := id
  suspended _ _ := id
  halt _ _ _ := id
  insert _ _ := id
  released _ _ _ _ := id
  functions _ _ := id
  descriptors _ _ := id
  output _ _ := id
  stdout _ _ := id
  failures _ _ := id
  issue _ _ _ := id
  table b c := Loading.keepsNames_serve b.modules.table c

theorem frame_keepsCanonical : BridgeM.Frame KeepsCanonical := engineFrame_keepsCanonical.frame

end Bridge

namespace BridgeM

open Bridge

variable {α : Type} {p : Loading α} {u : CompiledUnit} {b : Bridge} {name : String}

theorem ends_tableStage_canonical (stageName : String) (s : ModuleStage)
    (hp : Ends p b.modules.table fun _ t => b.modules.table.KeepsNames t) :
    Ends (tableStage stageName s p) b fun _ b' => b.KeepsCanonical b' := by
  refine (ends_staged frame_keepsCanonical.toInner stageName s fun _ => hp).mono ?_
  rintro _ _ (_ | ⟨_, _, hnames⟩ | ⟨_, t, _, _, hnames, hrun⟩)
  · exact refl_of KeepsCanonical b
  · exact hnames
  · exact trans_of KeepsCanonical (b := b.withTable t) hnames hrun

theorem keepsCanonical_tableStage (hp : Keeps ModuleTable.KeepsNames p) (stageName : String)
    (s : ModuleStage) : Keeps KeepsCanonical (tableStage stageName s p) :=
  .of_ends fun b => ends_tableStage_canonical stageName s (hp.ends b.modules.table)

/-- The last stages of declaring a module. -/
theorem keepsCanonical_evaluation {p : Loading Unit} (hp : Keeps ModuleTable.KeepsNames p)
    (s s' : ModuleStage) (id : Nat) {next : Value → BridgeM α}
    (hnext : ∀ promise, Keeps KeepsCanonical (next promise)) :
    Keeps KeepsCanonical (do
      tableStage name s p
      let order ← tableStage name s' ((Loading.link id).orAbandon id)
      let promise ← stage name s' (Proc.evaluateLinked id order)
      noteEvaluation name promise
      next promise) := by
  refine (keepsCanonical_tableStage hp _ _).bind fun _ => ?_
  refine (keepsCanonical_tableStage (Loading.keepsNames_orAbandon (Loading.keepsNames_link id) id) _
    _).bind fun order => ?_
  refine (frame_keepsCanonical.stage _ _ _).bind fun promise => ?_
  exact (Keeps.modify fun _ hb => hb).bind fun _ => hnext promise

theorem keepsCanonical_declareModule (hname : IsCanonical u.name) :
    Keeps KeepsCanonical (declareModule u) := by
  refine .of_ends fun b => .get_bind ?_
  split
  · exact .throw (refl_of KeepsCanonical b)
  · rename_i hcheck
    obtain ⟨program, hread⟩ := ModuleRegistry.readModule_of_checkLinkable hcheck
    have hheld : HoldsCanonical u.payload := by
      intro n p hp
      rw [hread] at hp
      cases hp
      exact hname
    refine Keeps.ends
      ((keepsCanonical_tableStage (Loading.keepsNames_read hheld) _ _).bind fun id => ?_) b
    refine (Keeps.modify fun b hb => hb.keep hname hheld).bind fun _ => ?_
    exact keepsCanonical_evaluation
      (Loading.keepsNames_orAbandon (Loading.keepsNames_resolve id) id) _ _ id fun _ => .pure _

theorem keepsCanonical_loadSource (filename source : String) :
    Keeps KeepsCanonical (loadSource filename source) := by
  refine Keeps.get.bind fun b => Keeps.ite (.throw _) ?_
  refine frame_keepsCanonical.keeps_thenDrain ?_
  split
  · exact .throw _
  · exact .throw _
  · rename_i program _ _
    have hadd (name : String) (hname : IsCanonical name) :
        Keeps ModuleTable.KeepsNames (Loading.add name program) := fun _ ht => ht.push hname program
    refine (keepsCanonical_tableStage (hadd _ (canonical_canonical filename)) _ _).bind fun id => ?_
    exact keepsCanonical_evaluation
      (Loading.keepsNames_orDrop (Loading.keepsNames_resolve id) id)
      _ _ id frame_keepsCanonical.keep

theorem keepsCanonical_evaluateUnit (hu : u.Compiled) : Keeps KeepsCanonical (evaluateUnit u) := by
  refine Keeps.ite (.throw _) (frame_keepsCanonical.keeps_thenDrain (Keeps.bind ?_ fun _ => ?_))
  · refine Keeps.discard fun b => ?_
    rw [exec_updateTable]
    split_ifs
    · exact refl_of KeepsCanonical b
    · exact Loading.keepsNames_read hu.holdsCanonical b.modules.table
  · exact (frame_keepsCanonical.evaluate _).bind fun _ => frame_keepsCanonical.keep _

theorem keepsCanonical_ensureDeclared (hname : IsCanonical u.name) :
    Keeps KeepsCanonical (ensureDeclared u) := by
  refine Keeps.get.bind fun b => ?_
  have hdrain := frame_keepsCanonical.drain.discard
  split_ifs
  · exact hdrain
  · exact (keepsCanonical_declareModule hname).bind fun _ => hdrain

theorem keepsCanonical_evalBlob {blob : List UInt8}
    (h : ∀ u, CompiledUnit.deserialize blob = .ok u → u.Compiled) :
    Keeps KeepsCanonical (evalBlob blob) := by
  unfold evalBlob
  split
  · exact .throw _
  · rename_i u hu
    split
    · exact keepsCanonical_evaluateUnit (h u hu)
    · rename_i hkind
      have hdeclare := keepsCanonical_ensureDeclared ((h u hu).isCanonical hkind)
      exact frame_keepsCanonical.keeps (frame_keepsCanonical.evaluateModuleUnit_of hdeclare)

theorem keepsCanonical_loadBlob {blob : List UInt8}
    (h : ∀ u, CompiledUnit.deserialize blob = .ok u → u.Compiled) :
    Keeps KeepsCanonical (loadBlob blob) := by
  unfold loadBlob
  split
  · exact .throw _
  · rename_i u hu
    split_ifs with hkind
    · exact .throw _
    · have hdeclare := keepsCanonical_ensureDeclared ((h u hu).isCanonical (not_not.1 hkind))
      exact (frame_keepsCanonical.loadNamespace_of hdeclare fun _ _ => id).bind fun _ =>
        frame_keepsCanonical.keep _

theorem keepsCanonical_registerModule {blob : List UInt8}
    (h : ∀ u, CompiledUnit.deserialize blob = .ok u → u.Compiled) :
    Keeps KeepsCanonical (registerModule blob) := by
  unfold registerModule
  split
  · exact .throw _
  · rename_i u hu
    split_ifs with hkind
    · exact .throw _
    · have hname : IsCanonical u.name := (h u hu).isCanonical (not_not.1 hkind)
      exact (Keeps.modify fun b hb => hb.keep hname (h u hu).holdsCanonical).bind fun _ => .pure _

end BridgeM

namespace Bridge

variable {c : BridgeConfig} {events : List Event} {b : Bridge}

/-- The units in an operation come from source texts. -/
def Operation.Compiled : Operation → Prop
  | .evaluateUnit u => u.Compiled
  | .evalBlob blob | .loadBlob blob | .registerModule blob =>
    ∀ u, CompiledUnit.deserialize blob = .ok u → u.Compiled
  | _ => True

/-- **Every operation on compiled units leaves the names of modules canonical.** -/
theorem Operation.keepsCanonical (op : Operation) (h : op.Compiled) :
    Keeps KeepsCanonical op.program := by
  refine op.keeps frame_keepsCanonical (fun hc => ?_) fun hm => ?_
  · exact op.keeps_of_handlesCalls frame_keepsCanonical.toCoreFrame hc
      (fun _ _ => id) fun _ _ _ => id
  · cases op with
    | evalSource filename source isModule =>
      exact ((BridgeM.keepsCanonical_loadSource _ _).ite
        (frame_keepsCanonical.keeps (frame_keepsCanonical.evalScript filename source))).map
    | evaluateUnit u => exact (BridgeM.keepsCanonical_evaluateUnit h).map
    | evalBlob blob => exact (BridgeM.keepsCanonical_evalBlob h).map
    | loadBlob blob => exact (BridgeM.keepsCanonical_loadBlob h).map
    | loadSource filename source => exact (BridgeM.keepsCanonical_loadSource _ _).map
    | registerModule blob => exact (BridgeM.keepsCanonical_registerModule h).map
    | _ => cases hm

theorem keepsCanonical_setUp {tags tags' : TagSource} {b' : Bridge}
    (h : b.setUp tags = .ok (b', tags')) : b.KeepsCanonical b' := by
  obtain ⟨tag, ns, rfl⟩ := setUp_eq_ok h
  exact frame_keepsCanonical.require (installGlobals b.config) b

/-- **All modules have canonical names** in a run in which all units are compiled. -/
theorem Run.namesCanonical (run : Run c events b) (h : ∀ e ∈ events, e.operation.Compiled) :
    b.modules.table.NamesCanonical := by
  induction run with
  | create hb => exact keepsCanonical_setUp hb namesCanonical_empty
  | step run op ih =>
    have hop : op.Compiled := h ⟨op, _⟩ (List.mem_append_right _ (List.mem_singleton_self _))
    exact op.keepsCanonical hop _ (ih fun e he => h e (List.mem_append_left _ he))

end Bridge

end ScriptBridge
