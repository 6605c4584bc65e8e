import ScriptBridge.Proofs.Module.Linking
import ScriptBridge.Proofs.Module.Load

/-!
# What stays of the modules of a bridge

Whatever the host does, a module keeps its number and its name, what it has found, and the end that
it has come to (`Bridge.Follows`).  If registered modules are registered under their own names, then
what a module has found is what it asks for, too, and the modules that the bridge ran are linked
with all that they ask for (`Bridge.Traced`).

* `ends_declareModule_tracks` : **how declaring a module may fail**: a module that the engine has
  got is dead then.
* `Operation.keeps_tracks` : every operation keeps both.
* `follows_after`, `Run.traced` : so does every run.
-/

namespace ScriptBridge

open Script ModuleTable

namespace Script.ModuleTable

/-- A module of the name was linked with all that it asks for. -/
def Ran (t : ModuleTable) (name : String) : Prop :=
  ∃ (id : Nat) (m : ModuleRecord), t.records[id]? = some m ∧ m.name = name ∧ m.IsWhole ∧
    m.isLinked = true ∧ ∀ i ∈ m.requested.getD [], ∃ n, t.records[i]? = some n ∧ n.isLinked = true

variable {t t' : ModuleTable} {name : String}

theorem Ran.of_steady (h : t.Ran name) (hgrown : t.Extends t') (hsteady : t.Steady ∅ t') :
    t'.Ran name := by
  obtain ⟨id, m, hm, hname, ⟨l, hl, hlength⟩, hlinked, hbelow⟩ := h
  obtain ⟨m', hm', hages⟩ := hgrown.records hm
  obtain ⟨n, hn, -, -, hsame⟩ := hsteady id m hm (by simp [hl])
  obtain rfl : n = m' := Option.some.inj (hn.symm.trans hm')
  have hrequested : n.requested = m.requested := hsame (Set.notMem_empty id)
  refine ⟨id, n, hn, hages.name.trans hname, ⟨l, hrequested.trans hl, ?_⟩, hages.linked hlinked,
    fun i hi => ?_⟩
  · rwa [hages.program]
  · obtain ⟨k, hk, hlinked'⟩ := hbelow i (hrequested ▸ hi)
    obtain ⟨k', hk', hages'⟩ := hgrown.records hk
    exact ⟨k', hk', hages'.linked hlinked'⟩

end Script.ModuleTable

/-- What was found is there. -/
theorem Script.Loading.IsLinked.ran {id : Nat} {name : String} {t : ModuleTable}
    (h : Loading.IsLinked id name t) (hs : t.Searched) : t.Ran name := by
  obtain ⟨m, hm, hname, hwhole, hlinked, hbelow⟩ := h
  refine ⟨id, m, hm, hname, hwhole, hlinked, fun i hi => ?_⟩
  obtain ⟨place, hplace⟩ := List.mem_iff_getElem?.1 hi
  obtain ⟨_, _, n, -, -, hn, -⟩ := hs.found id m place i hm hplace
  exact ⟨n, hn, hbelow i hi n hn⟩

namespace Bridge

variable {S : String → List UInt8 → Prop} {b b' b'' : Bridge} {name : String}

/-- The later bridge has what was known of modules before. -/
structure Follows (b b' : Bridge) : Prop where
  sane : b.modules.table.Sane → b'.modules.table.Sane
  grown : b.modules.table.Extends b'.modules.table
  steady : b.modules.table.Steady ∅ b'.modules.table
  noted : ∀ name, (b.modules.evaluations.lookup name).isSome = true →
    (b'.modules.evaluations.lookup name).isSome = true

/-- A module of the name was run, or an import has brought one in. -/
def Brought (b : Bridge) (name : String) : Prop :=
  (b.modules.evaluations.lookup name).isSome = true ∨ name ∈ b.modules.table.imported

/-- What is known of modules if those that are registered name themselves. -/
structure Traced (b : Bridge) : Prop where
  named : b.modules.table.Named
  searched : b.modules.table.Searched
  ran : ∀ name promise, b.modules.evaluations.lookup name = some promise → b.modules.table.Ran name
  loaded : ∀ name, (b.modules.namespaces.lookup name).isSome = true → b.Brought name

/-- What an operation does to modules, if it registers `S`. -/
structure Tracks (S : String → List UInt8 → Prop) (b b' : Bridge) : Prop extends Follows b b' where
  stored : ∀ name payload, (name, payload) ∈ b'.modules.table.store →
    (name, payload) ∈ b.modules.table.store ∨ KnownAs name payload ∨ S name payload
  traced : (∀ name payload, S name payload → KnownAs name payload) → b.Traced → b'.Traced

theorem Follows.refl (b : Bridge) : b.Follows b := ⟨id, .refl _, .refl _, fun _ => id⟩

theorem Follows.trans (h : b.Follows b') (h' : b'.Follows b'') : b.Follows b'' :=
  ⟨fun hs => h'.sane (h.sane hs), h.grown.trans h'.grown, h.steady.trans h'.steady,
    fun name hn => h'.noted name (h.noted name hn)⟩

instance : IsPreorder Bridge (Tracks S) where
  refl b := ⟨.refl b, fun _ _ => .inl, fun _ => id⟩
  trans _ _ _ h h' := ⟨h.toFollows.trans h'.toFollows,
    fun name payload hmem => (h'.stored name payload hmem).elim (h.stored name payload) .inr,
    fun hS hb => h'.traced hS (h.traced hS hb)⟩

theorem Brought.of_follows (h : b.Brought name) (hb : b.Follows b') : b'.Brought name :=
  h.imp (hb.noted name) fun h => hb.grown.imported h

/-! ### Changes -/

/-- What is not about modules does not matter. -/
theorem tracks_of_modules_eq (h : b'.modules = b.modules) : Tracks S b b' := by
  constructor
  · constructor
    all_goals rw [h]
    · exact id
    · exact .refl _
    · exact .refl _
    · exact fun _ => id
  · rw [h]
    exact fun _ _ => .inl
  · intro _ hb
    constructor
    all_goals rw [h]
    · exact hb.named
    · exact hb.searched
    · exact hb.ran
    · exact fun name hname => (hb.loaded name hname).imp (fun hn => h ▸ hn) fun hn => h ▸ hn

/-- The table of modules may change in steady ways. -/
theorem tracks_withTable {t : ModuleTable} (hsane : b.modules.table.Sane → t.Sane)
    (hgrown : b.modules.table.Extends t) (hsteady : b.modules.table.Steady ∅ t)
    (hstored : ∀ name payload, (name, payload) ∈ t.store →
      (name, payload) ∈ b.modules.table.store ∨ KnownAs name payload ∨ S name payload)
    (hsearched : b.modules.table.Named → b.modules.table.Searched → t.Searched) :
    Tracks S b (b.withTable t) := by
  have hfollows : b.Follows (b.withTable t) := ⟨hsane, hgrown, hsteady, fun _ => id⟩
  refine ⟨hfollows, hstored, fun hS hb => ⟨?_, hsearched hb.named hb.searched, ?_, ?_⟩⟩
  · rintro name payload n p hmem hread
    obtain hold | hself | hnew := hstored name payload hmem
    · exact hb.named hold hread
    · exact hself n p hread
    · exact hS name payload hnew n p hread
  · exact fun name promise h => (hb.ran name promise h).of_steady hgrown hsteady
  · exact fun name h => (hb.loaded name h).of_follows hfollows

theorem tracks_of_proceeds {t : ModuleTable} (ht : b.modules.table.Proceeds ∅ t) :
    Tracks S b (b.withTable t) :=
  tracks_withTable ht.sane ht.grown ht.steady (fun _ _ hmem => .inl (ht.store ▸ hmem)) ht.searched

/-- The bridge may add a module. -/
theorem tracks_push (b : Bridge) (name : String) (program : Program) :
    Tracks S b (b.withTable { b.modules.table with
      records := b.modules.table.records.push { name, program } }) :=
  tracks_withTable (fun hs => hs.push name program) (extends_push _ _) (steady_push _ _ _)
    (fun _ _ => .inl) fun _ hs => hs.push name program (extends_push _ _) fun _ => .inl

/-- The bridge may keep a payload under the name of its module, and what it registers. -/
theorem tracks_keep {payload : List UInt8} (h : KnownAs name payload ∨ S name payload) :
    Tracks S b (b.withTable (b.modules.table.keep name payload)) := by
  refine tracks_withTable (fun hs => ⟨hs.sound, hs.started_linked, hs.started_nodup⟩)
    ⟨(Extends.refl _).records, List.suffix_refl _, List.Subset.refl _⟩ (.refl _)
    (fun n p hmem => ?_) fun _ hs => ⟨hs.found, hs.imported⟩
  obtain heq | hold := List.mem_cons.1 hmem
  · cases heq
    exact .inr h
  · exact .inl (List.mem_filter.1 hold).1

/-- The bridge with a promise for the evaluation of a module. -/
def withEvaluation (b : Bridge) (name : String) (promise : Value) : Bridge :=
  { b with modules := { b.modules with
    evaluations := (name, promise) :: b.modules.evaluations } }

theorem follows_withEvaluation (b : Bridge) (name : String) (promise : Value) :
    b.Follows (b.withEvaluation name promise) :=
  ⟨id, .refl _, .refl _, fun _ hn => (lookup_cons_isSome promise).2 (.inr hn)⟩

/-- The bridge may note that it has run a module. -/
theorem Traced.withEvaluation (hb : b.Traced) (h : b.modules.table.Ran name) (promise : Value) :
    (b.withEvaluation name promise).Traced := by
  refine ⟨hb.named, hb.searched, fun n p hn => ?_, fun n hn => ?_⟩
  · by_cases hname : n = name
    · exact hname ▸ h
    · have hlookup : List.lookup n ((name, promise) :: b.modules.evaluations) = some p := hn
      rw [List.lookup_cons, beq_eq_false_iff_ne.2 hname] at hlookup
      exact hb.ran n p hlookup
  · exact (hb.loaded n hn).of_follows (follows_withEvaluation b name promise)

/-- The bridge may keep the namespace of a module that was brought in. -/
theorem tracks_cache (v : Value) (h : b.Brought name) :
    Tracks S b { b with modules := { b.modules with
      namespaces := (name, v) :: b.modules.namespaces } } := by
  refine ⟨⟨id, .refl _, .refl _, fun _ => id⟩, fun _ _ => .inl, fun _ hb =>
    ⟨hb.named, hb.searched, hb.ran, ?_⟩⟩
  intro n hn
  obtain rfl | hn := (lookup_cons_isSome v).1 hn
  · exact h
  · exact hb.loaded n hn

theorem engineFrame_tracks (S : String → List UInt8 → Prop) : BridgeM.EngineFrame (Tracks S) where
  world _ _ := tracks_of_modules_eq rfl
  suspended _ _ := tracks_of_modules_eq rfl
  halt _ _ _ := tracks_of_modules_eq rfl
  insert _ _ := tracks_of_modules_eq rfl
  released _ _ _ _ := tracks_of_modules_eq rfl
  functions _ _ := tracks_of_modules_eq rfl
  descriptors _ _ := tracks_of_modules_eq rfl
  output _ _ := tracks_of_modules_eq rfl
  stdout _ _ := tracks_of_modules_eq rfl
  failures _ _ := tracks_of_modules_eq rfl
  issue _ _ _ := tracks_of_modules_eq rfl
  table b c := tracks_of_proceeds (Loading.proceeds_serve b.modules.table c)

theorem frame_tracks (S : String → List UInt8 → Prop) : BridgeM.Frame (Tracks S) :=
  (engineFrame_tracks S).frame

end Bridge

namespace BridgeM

open Bridge

variable {α : Type} {S : String → List UInt8 → Prop} {b b₀ : Bridge} {name : String} {id : Nat}

/-! ### Declaring modules -/

/-- How declaring a module ends, once the engine has got it under a number: its evaluation is noted,
or it is dead, or the engine was cut off. -/
structure Attempted (S : String → List UInt8 → Prop) (b₀ : Bridge) (id : Nat) (name : String)
    (r : Except BridgeError α) (b : Bridge) : Prop where
  tracks : Tracks S b₀ b
  noted : (∃ a, r = .ok a) → (b.modules.evaluations.lookup name).isSome = true
  failed : (∃ e, r = .error e) → b.isHalted = true ∨ Loading.IsDead id name b.modules.table

theorem Attempted.of_tracks {b₁ : Bridge} {r : Except BridgeError α}
    (h : Attempted S b₁ id name r b) (h₁ : Tracks S b₀ b₁) : Attempted S b₀ id name r b :=
  ⟨trans_of (Tracks S) h₁ h.tracks, h.noted, h.failed⟩

/-- A stage that is about the new module: it passes with `X`, or the module is dead. -/
theorem ends_staged_new {p : Loading α} {X : ModuleTable → Prop} (stageName : String)
    (s : ModuleStage)
    (hp : Ends p b.modules.table fun r t => b.modules.table.Proceeds ∅ t ∧
      Loading.After X (Loading.IsDead id name) r t) :
    Ends (tableStage stageName s p) b fun r b' => Tracks S b b' ∧
      ((∃ a, r = .ok a) → X b'.modules.table) ∧
      ((∃ e, r = .error e) → b'.isHalted = true ∨ Loading.IsDead id name b'.modules.table) := by
  refine (ends_staged (frame_tracks S).toInner stageName s fun _ => hp).mono ?_
  rintro _ _ (⟨e, hb⟩ | ⟨a, t, hproceeds, hX⟩ | ⟨f, t, e, b', ⟨hproceeds, hdead⟩, hrun⟩)
  · exact ⟨refl_of (Tracks S) b, nofun, fun _ => .inl hb⟩
  · exact ⟨tracks_of_proceeds hproceeds, fun _ => hX, nofun⟩
  · refine ⟨trans_of (Tracks S) (tracks_of_proceeds hproceeds) hrun, nofun, fun _ => .inr ?_⟩
    exact Loading.IsDead.of_steady hdead hrun.grown hrun.steady

/-- The last stages of declaring a module. -/
theorem ends_evaluation_tracks (stageName : String) (s : ModuleStage)
    (hfound : Loading.IsFound id name b.modules.table) {next : Value → BridgeM α}
    (hnext : ∀ promise b₁, (b₁.modules.evaluations.lookup name).isSome = true →
      Ends (next promise) b₁ fun r b' => Tracks S b₁ b' ∧ ∃ a, r = .ok a) :
    Ends (do
      let order ← tableStage stageName s ((Loading.link id).orAbandon id)
      let promise ← stage stageName s (Proc.evaluateLinked id order)
      noteEvaluation name promise
      next promise) b (Attempted S b id name) := by
  refine (ends_staged_new stageName s (Loading.ends_link_orAbandon hfound)).bind ?_ fun e b₁ h =>
    ⟨h.1, nofun, fun _ => h.2.2 ⟨e, rfl⟩⟩
  rintro order b₁ ⟨htracks₁, hlinked, -⟩
  have hstage := ((frame_tracks S).stage stageName s (Proc.evaluateLinked id order)).ends b₁
  refine (hstage.and (ends_stage_evaluateLinked stageName s id order b₁)).bind ?_ ?_
  · rintro promise b₂ ⟨htracks₂, -⟩
    have htracks₃ : Tracks S b₁ (b₂.withEvaluation name promise) := by
      refine ⟨htracks₂.toFollows.trans (follows_withEvaluation b₂ name promise), htracks₂.stored,
        fun hS hb₁ => ?_⟩
      have hran : b₁.modules.table.Ran name := (hlinked ⟨order, rfl⟩).ran hb₁.searched
      exact (htracks₂.traced hS hb₁).withEvaluation (hran.of_steady htracks₂.grown htracks₂.steady)
        promise
    have hnoted :
        ((b₂.withEvaluation name promise).modules.evaluations.lookup name).isSome = true :=
      (lookup_cons_isSome promise).2 (.inl rfl)
    refine .modify_bind ((hnext promise (b₂.withEvaluation name promise) hnoted).mono ?_)
    rintro _ b' ⟨htracks₄, a, rfl⟩
    refine ⟨trans_of (Tracks S) htracks₁ (trans_of (Tracks S) htracks₃ htracks₄),
      fun _ => ?_, nofun⟩
    exact htracks₄.noted name hnoted
  · rintro e b₂ ⟨htracks₂, hhalted | ⟨_, ⟨⟩⟩⟩
    exact ⟨trans_of (Tracks S) htracks₁ htracks₂, nofun, fun _ => .inl hhalted⟩

/-- A unit that does not pass the check does not reach the engine. -/
theorem exec_declareModule_of_error {u : CompiledUnit} {e : BridgeError}
    (h : b.modules.checkLinkable u.name u.payload = .error e) :
    exec (declareModule u) b = (.error e, b) := by
  rw [declareModule, exec_bind, exec_get]
  simp only [h]
  rfl

/-- **A unit that passes the check is given to the engine**, and dead there if that fails. -/
theorem ends_declareModule_tracks {u : CompiledUnit} {a : Unit}
    (h : b.modules.checkLinkable u.name u.payload = .ok a) :
    Ends (declareModule u) b (Attempted S b b.modules.table.records.size u.name) := by
  obtain ⟨program, hread⟩ := ModuleRegistry.readModule_of_checkLinkable h
  refine .get_bind ?_
  rw [h]
  let t₁ : ModuleTable := { b.modules.table with
    records := b.modules.table.records.push { name := u.name, program } }
  have hadd : Ends (Loading.read u.payload) b.modules.table fun r t =>
      r = .ok b.modules.table.records.size ∧ t = t₁ := by
    unfold Ends
    rw [Loading.exec_read, hread]
    exact ⟨rfl, rfl⟩
  refine (ends_staged (frame_tracks S).toInner u.name .nameExtraction fun _ => hadd).bind ?_ ?_
  · rintro id b₁ (_ | ⟨_, _, ⟨⟨⟩, rfl⟩⟩ | _)
    refine .modify_bind ?_
    let b₂ := (b.withTable t₁).withTable (t₁.keep u.name u.payload)
    have htracks₂ : Tracks S b b₂ := by
      refine trans_of (Tracks S) (tracks_push b u.name program)
        (tracks_keep (.inl fun n p hp => ?_))
      rw [hread] at hp
      cases hp
      rfl
    have hnew : Loading.IsNew b.modules.table.records.size u.name b₂.modules.table :=
      ⟨_, Array.getElem?_push_size, rfl, rfl, rfl, rfl⟩
    refine (ends_staged_new (S := S) u.name .resolution
      (Loading.ends_resolve_orAbandon hnew)).bind ?_ ?_
    · rintro _ b₃ ⟨htracks₃, hfound, -⟩
      have hlast := ends_evaluation_tracks (S := S) (b := b₃) u.name .evaluation (hfound ⟨_, rfl⟩)
        fun _ b₄ _ => .pure ⟨refl_of (Tracks S) b₄, (), rfl⟩
      exact hlast.mono fun _ _ h => h.of_tracks (trans_of (Tracks S) htracks₂ htracks₃)
    · exact fun e b₃ h => ⟨trans_of (Tracks S) htracks₂ h.1, nofun, fun _ => h.2.2 ⟨e, rfl⟩⟩
  · rintro e b₁ (⟨_, hhalted⟩ | _ | ⟨f, t, _, _, ⟨⟨⟩, -⟩, -⟩)
    exact ⟨refl_of (Tracks S) b, nofun, fun _ => .inl hhalted⟩

theorem ends_declareModule_attempted (u : CompiledUnit) (b : Bridge) :
    Ends (declareModule u) b fun r b' => Tracks S b b' ∧
      ((∃ a, r = .ok a) → (b'.modules.evaluations.lookup u.name).isSome = true) := by
  cases h : b.modules.checkLinkable u.name u.payload with
  | error e =>
    unfold Ends
    rw [exec_declareModule_of_error h]
    exact ⟨refl_of (Tracks S) b, nofun⟩
  | ok a => exact (ends_declareModule_tracks h).mono fun _ _ h => ⟨h.tracks, h.noted⟩

/-- A source text that is run as a module is linked with all that it asks for. -/
theorem keeps_loadSource_tracks (filename source : String) :
    Keeps (Tracks S) (loadSource filename source) := by
  refine .of_ends fun b => .get_bind ?_
  split_ifs
  · exact .throw (refl_of (Tracks S) b)
  · refine (frame_tracks S).ends_thenDrain (Q := fun _ b' => Tracks S b b') ?_
      fun _ _ _ h h' => trans_of (Tracks S) h h'
    split
    · exact .throw (refl_of (Tracks S) b)
    · exact .throw (refl_of (Tracks S) b)
    · rename_i program _ _
      generalize ModuleName.canonical filename = name
      let t₁ : ModuleTable := { b.modules.table with
        records := b.modules.table.records.push { name, program } }
      have hadd : Ends (Loading.add name program) b.modules.table fun r t =>
          r = .ok b.modules.table.records.size ∧ t = t₁ := ⟨rfl, rfl⟩
      refine (ends_staged (frame_tracks S).toInner name .evaluation fun _ => hadd).bind ?_ ?_
      · rintro id b₁ (_ | ⟨_, _, ⟨⟨⟩, rfl⟩⟩ | _)
        have hnew : Loading.IsNew b.modules.table.records.size name
            (b.withTable t₁).modules.table :=
          ⟨_, Array.getElem?_push_size, rfl, rfl, rfl, rfl⟩
        have htracks₁ : Tracks S b (b.withTable t₁) := tracks_push b name program
        refine (ends_staged (frame_tracks S).toInner name .evaluation fun _ =>
          Loading.ends_resolve_orDrop hnew).bind ?_ ?_
        · rintro _ b₂ (_ | ⟨_, t₂, hproceeds, hfound⟩ | _)
          have htracks₂ : Tracks S b ((b.withTable t₁).withTable t₂) :=
            trans_of (Tracks S) htracks₁ (tracks_of_proceeds hproceeds)
          have hlast := ends_evaluation_tracks (S := S) (b := (b.withTable t₁).withTable t₂) name
            .evaluation hfound fun promise b₃ _ => ⟨(frame_tracks S).keep promise b₃, _, rfl⟩
          exact hlast.mono fun _ _ h => trans_of (Tracks S) htracks₂ h.tracks
        · rintro e b₂ (_ | _ | ⟨f, t₂, _, _, ⟨hproceeds, -⟩, hrun⟩)
          · exact htracks₁
          · have hfailed := trans_of (Tracks S) (tracks_of_proceeds hproceeds) hrun
            exact trans_of (Tracks S) htracks₁ hfailed
      · rintro e b₁ (_ | _ | ⟨f, t, _, _, ⟨⟨⟩, -⟩, -⟩)
        exact refl_of (Tracks S) b

/-! ### Each operation -/

theorem keeps_evaluateUnit_tracks (u : CompiledUnit) : Keeps (Tracks S) (evaluateUnit u) := by
  unfold evaluateUnit
  refine Keeps.ite (.throw _) ((frame_tracks S).keeps_thenDrain (Keeps.bind ?_ fun _ => ?_))
  · refine Keeps.discard fun b => ?_
    rw [exec_updateTable, Loading.exec_read]
    split_ifs
    · exact refl_of (Tracks S) b
    · split
      · exact refl_of (Tracks S) b
      · exact tracks_push b _ _
  · exact ((frame_tracks S).evaluate _).bind fun _ => (frame_tracks S).keep _

/-- What is declared was brought in, or its namespace is kept. -/
theorem brought_of_isDeclared (h : b.modules.isDeclared name = true)
    (hnone : b.modules.namespaces.lookup name = none) : b.Brought name := by
  simpa [ModuleRegistry.isDeclared, hnone, Brought] using h

theorem ends_ensureDeclared_tracks (u : CompiledUnit) (b : Bridge) :
    Ends (ensureDeclared u) b fun r b' => Tracks S b b' ∧
      ((∃ a, r = .ok a) → b.modules.namespaces.lookup u.name = none → b'.Brought u.name) := by
  have hdrain := (frame_tracks S).drain.discard
  refine .get_bind ?_
  split_ifs with hname
  · refine (hdrain.ends b).mono fun _ _ htracks => ⟨htracks, fun _ hnone => ?_⟩
    exact (brought_of_isDeclared hname hnone).of_follows htracks.toFollows
  · refine (ends_declareModule_attempted u b).bind ?_ fun _ _ h => ⟨h.1, nofun⟩
    rintro _ b₁ ⟨htracks₁, hnoted⟩
    refine (hdrain.ends b₁).mono fun _ _ htracks =>
      ⟨trans_of (Tracks S) htracks₁ htracks, fun _ _ => ?_⟩
    exact .inl (htracks.noted u.name (hnoted ⟨_, rfl⟩))

theorem keeps_ensureDeclared_tracks (u : CompiledUnit) : Keeps (Tracks S) (ensureDeclared u) :=
  .of_ends fun b => (ends_ensureDeclared_tracks u b).mono fun _ _ h => h.1

theorem keeps_evaluateModuleUnit_tracks (u : CompiledUnit) :
    Keeps (Tracks S) (evaluateModuleUnit u) :=
  (frame_tracks S).keeps ((frame_tracks S).evaluateModuleUnit_of (keeps_ensureDeclared_tracks u))

theorem keeps_evalBlob_tracks (blob : List UInt8) : Keeps (Tracks S) (evalBlob blob) := by
  unfold evalBlob
  split
  · exact .throw _
  · split
    · exact keeps_evaluateUnit_tracks _
    · exact keeps_evaluateModuleUnit_tracks _

/-- The namespace of a module is kept only if the module was brought in. -/
theorem keeps_loadNamespace_tracks (u : CompiledUnit) : Keeps (Tracks S) (loadNamespace u) := by
  refine .of_ends fun b => .get_bind ?_
  cases hlookup : b.modules.namespaces.lookup u.name with
  | some ns => exact .pure (refl_of (Tracks S) b)
  | none =>
    have himport : Ends (importNamespace u) b fun r b' => Tracks S b b' ∧
        ((∃ ns, r = .ok ns) → b'.Brought u.name) := by
      refine (ends_ensureDeclared_tracks u b).bind ?_ fun _ _ h => ⟨h.1, nofun⟩
      rintro _ b₁ ⟨htracks₁, hbrought⟩
      refine (((frame_tracks S).importDeclared u).ends b₁).mono fun _ b₂ htracks₂ => ?_
      refine ⟨trans_of (Tracks S) htracks₁ htracks₂, fun _ => ?_⟩
      exact (hbrought ⟨_, rfl⟩ hlookup).of_follows htracks₂.toFollows
    refine himport.bind ?_ fun _ _ h => h.1
    rintro ns b₁ ⟨htracks₁, hbrought⟩
    exact .modify_bind (.pure (trans_of (Tracks S) htracks₁ (tracks_cache ns (hbrought ⟨ns, rfl⟩))))

theorem keeps_loadBlob_tracks (blob : List UInt8) : Keeps (Tracks S) (loadBlob blob) := by
  unfold loadBlob
  split
  · exact .throw _
  · exact Keeps.ite (.throw _)
      ((keeps_loadNamespace_tracks _).bind fun _ => (frame_tracks S).keep _)

theorem keeps_registerModule_tracks (blob : List UInt8) :
    Keeps (Tracks (Operation.registerModule blob).Registers) (registerModule blob) := by
  unfold registerModule
  split
  · exact .throw _
  · rename_i u hu
    split_ifs with hkind
    · exact .throw _
    · exact Keeps.bind (fun b => tracks_keep (.inr ⟨u, hu, rfl, rfl⟩)) fun _ => .pure _

end BridgeM

namespace Bridge

variable {c : BridgeConfig} {events : List Event} {b : Bridge}

/-- **Every operation leaves alone what is known of modules**, and it goes on with what is known if
it registers modules under their own names. -/
theorem Operation.keeps_tracks (op : Operation) : Keeps (Tracks op.Registers) op.program := by
  refine op.keeps (frame_tracks _) (fun hc => ?_) fun hm => ?_
  · exact op.keeps_of_handlesCalls (frame_tracks _).toCoreFrame hc
      (fun _ _ => tracks_of_modules_eq rfl) fun _ _ _ => tracks_of_modules_eq rfl
  · cases op with
    | evalSource filename source isModule =>
      exact ((BridgeM.keeps_loadSource_tracks _ _).ite
        ((frame_tracks _).keeps ((frame_tracks _).evalScript filename source))).map
    | evaluateUnit u => exact (BridgeM.keeps_evaluateUnit_tracks u).map
    | evalBlob blob => exact (BridgeM.keeps_evalBlob_tracks blob).map
    | loadBlob blob => exact (BridgeM.keeps_loadBlob_tracks blob).map
    | loadSource filename source => exact (BridgeM.keeps_loadSource_tracks _ _).map
    | registerModule blob => exact (BridgeM.keeps_registerModule_tracks blob).map
    | _ => cases hm

/-! ### Runs -/

theorem follows_step (b : Bridge) (op : Operation) : b.Follows (b.step op).2 :=
  (op.keeps_tracks b).toFollows

/-- **Whatever the host does**, a bridge follows what it was. -/
theorem follows_after (b : Bridge) (ops : List Operation) : b.Follows (b.after ops) := by
  induction ops generalizing b with
  | nil => exact .refl b
  | cons op ops ih => exact (b.follows_step op).trans (ih _)

theorem traced_blank (c : BridgeConfig) : (blank c).Traced where
  named := nofun
  searched := ⟨fun _ _ _ _ h => by simp [blank] at h, nofun⟩
  ran := nofun
  loaded := nofun

theorem sane_blank (c : BridgeConfig) : (blank c).modules.table.Sane :=
  ⟨fun h => by simp [blank] at h, nofun, .nil⟩

/-- What a new bridge has of modules came in by running the engine once. -/
theorem tracks_setUp {b' : Bridge} {tags tags' : TagSource}
    (h : b.setUp tags = .ok (b', tags')) : Tracks (fun _ _ => False) b b' := by
  obtain ⟨tag, ns, rfl⟩ := setUp_eq_ok h
  have hrun := (frame_tracks fun _ _ => False).require (installGlobals b.config) b
  refine trans_of (Tracks fun _ _ => False) hrun ?_
  exact tracks_of_modules_eq rfl

theorem Run.sane (run : Run c events b) : b.modules.table.Sane := by
  induction run with
  | create hb => exact (tracks_setUp hb).sane (sane_blank c)
  | step run op ih => exact (follows_step _ op).sane ih

/-- **Modules are traced in every run** in which those that are registered name themselves. -/
theorem Run.traced (run : Run c events b) (h : ∀ e ∈ events, e.operation.NamesModules) :
    b.Traced := by
  induction run with
  | create hb => exact (tracks_setUp hb).traced (fun _ _ => False.elim) (traced_blank c)
  | step run op ih =>
    have hop : op.NamesModules := h ⟨op, _⟩ (List.mem_append_right _ (List.mem_singleton_self _))
    exact (op.keeps_tracks _).traced hop.knownAs (ih fun e he => h e (List.mem_append_left _ he))

end Bridge

end ScriptBridge

