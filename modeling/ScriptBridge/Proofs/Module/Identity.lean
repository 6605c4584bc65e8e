import ScriptBridge.Proofs.Module.Trace

/-!
# Modules under their names

All imports find modules by name.  What is registered is read when its name is first imported, and
the module that comes in has the name that its payload says.  Only if that is the name that was
asked for does the engine know the module by it (`Loading.exec_find_stored`), and the next import of
the name finds it again.

* `Bridge.keeps_identity` : a name under which only modules of that name are registered **leads to
  one module**, and no other module of the name starts by an import.
-/

namespace ScriptBridge

open Script ModuleTable

namespace Script.ModuleTable

/-- The table after scripts have asked for modules. -/
def asked (t : ModuleTable) (calls : List ModuleCall) : ModuleTable :=
  calls.foldl (fun t c => (t.serve c).2) t

variable {t t' : ModuleTable} {name : String} {id : Nat}

theorem proceeds_asked (t : ModuleTable) (calls : List ModuleCall) :
    t.Proceeds ∅ (t.asked calls) := by
  induction calls generalizing t with
  | nil => exact refl_of _ t
  | cons c calls ih => exact trans_of (Proceeds ∅) (Loading.proceeds_serve t c) (ih _)

/-- What is stored under the name is a module of the name. -/
def NamedAt (t : ModuleTable) (name : String) : Prop :=
  ∀ payload, (name, payload) ∈ t.store → KnownAs name payload

/-- A dropped module has not started. -/
theorem Sane.not_started (ht : t.Sane) {m : ModuleRecord} (hm : t.records[id]? = some m)
    (hdropped : m.isDropped = true) : id ∉ t.started := by
  intro hid
  obtain ⟨m', hm', hlinked⟩ := ht.started_linked hid
  obtain rfl : m' = m := Option.some.inj (hm'.symm.trans hm)
  exact (ht.sound hm).dropped hdropped ((ht.sound hm).linked hlinked)

/-- A name leads to the same module, or that one was dropped before it could start. -/
theorem Extends.named?_or_dropped (h : t.Extends t') (ht' : t'.Sane)
    (hnamed : t.named? name = some id) : t'.named? name = some id ∨
      (∃ m, t'.records[id]? = some m ∧ m.isDropped = true) ∧ id ∉ t'.started := by
  obtain ⟨⟨m, hm, -, -⟩, -⟩ := named?_eq_some_iff.1 hnamed
  obtain ⟨m', hm', -⟩ := h.records hm
  cases hdropped : m'.isDropped with
  | true => exact .inr ⟨⟨m', hm', hdropped⟩, ht'.not_started hm' hdropped⟩
  | false =>
    refine .inl (h.named?_eq_some hnamed fun n hn => ?_)
    obtain rfl : m' = n := Option.some.inj (hm'.symm.trans hn)
    exact hdropped

end Script.ModuleTable

namespace Script.Loading

variable {t t' : ModuleTable} {name : String} {id : Nat}

/-- **An import of a stored module makes it known under the name exactly if that is its name.** -/
theorem exec_find_stored {payload : List UInt8} {n : String} {program : Program}
    (hnamed : t.named? name = none) (hstore : t.store.lookup name = some payload)
    (hread : readModule payload = .ok (n, program)) :
    ∃ t', exec (find name) t = (.ok t.records.size, t') ∧
      t'.records[t.records.size]? = some { name := n, program } ∧
      t'.named? name = if n = name then some t.records.size else none := by
  let m : ModuleRecord := { name := n, program }
  have hfind : exec (find name) t = (.ok t.records.size,
      { t with records := t.records.push m, imported := name :: t.imported }) := by
    rw [find, exec_bind, exec_get]
    simp only [hnamed, hstore]
    rw [exec_bind, exec_read, hread]
    rfl
  refine ⟨_, hfind, Array.getElem?_push_size, ?_⟩
  rw [named?] at hnamed ⊢
  rw [Array.findIdx?_push, hnamed, Option.none_or]
  simp [m]

/-- What is found by a name is known by it, if what is stored under the name has it. -/
theorem named?_of_exec_find (hname : t.NamedAt name) (hfind : exec (find name) t = (.ok id, t')) :
    (∃ m, t'.records[id]? = some m ∧ m.name = name) ∧ t'.named? name = some id := by
  cases hnamed : t.named? name with
  | some i =>
    rw [exec_find_named hnamed] at hfind
    cases hfind
    obtain ⟨⟨m, hm, -, heq⟩, -⟩ := named?_eq_some_iff.1 hnamed
    exact ⟨⟨m, hm, heq⟩, hnamed⟩
  | none =>
    cases hstore : t.store.lookup name with
    | none =>
      rw [find, exec_bind, exec_get] at hfind
      simp only [hnamed, hstore] at hfind
      cases hfind
    | some payload =>
      cases hread : readModule payload with
      | error f =>
        rw [find, exec_bind, exec_get] at hfind
        simp only [hnamed, hstore] at hfind
        rw [exec_bind, exec_read, hread] at hfind
        cases hfind
      | ok module =>
        obtain ⟨n, program⟩ := module
        obtain ⟨t₁, hfind₁, hm, hnamed₁⟩ := exec_find_stored hnamed hstore hread
        rw [hfind₁] at hfind
        cases hfind
        obtain ⟨l₁, l₂, hl, -⟩ := List.lookup_eq_some_iff.1 hstore
        obtain rfl : n = name := hname payload (hl ▸ by simp) n program hread
        exact ⟨⟨_, hm, rfl⟩, by rw [hnamed₁, if_pos rfl]⟩

end Script.Loading

namespace Bridge

variable {c : BridgeConfig} {events : List Event} {b : Bridge} {name : String}

/-- The name leads to one module, whatever scripts and the host do. -/
structure KeepsIdentity (b : Bridge) (name : String) : Prop where
  /-- The module in a stored payload comes in when the name is imported, and it has the name. -/
  stored : ∀ {calls : List ModuleCall} {payload : List UInt8} {n : String} {program : Program},
    let t := b.modules.table.asked calls
    t.named? name = none → t.store.lookup name = some payload →
    readModule payload = .ok (n, program) →
    ∃ t', exec (Loading.find name) t = (.ok t.records.size, t') ∧
      t'.records[t.records.size]? = some { name, program }
  /-- From then on the engine knows the module by the name, as any that an import of the name comes
  to. -/
  known : ∀ {calls : List ModuleCall} {id : Nat} {t : ModuleTable},
    exec (Loading.find name) (b.modules.table.asked calls) = (.ok id, t) →
    (∃ m, t.records[id]? = some m ∧ m.name = name) ∧ t.named? name = some id
  /-- Each later import of the name comes to the same module, unless that was dropped because its
  own imports were missing.  It has not started then, and never will. -/
  same : ∀ {id : Nat} (ops : List Operation) (calls : List ModuleCall),
    b.modules.table.named? name = some id →
    let t := (b.after ops).modules.table.asked calls
    exec (Loading.find name) t = (.ok id, t) ∨
      (∃ m, t.records[id]? = some m ∧ m.isDropped = true) ∧ id ∉ t.started
  /-- No module starts twice. -/
  once : ∀ (ops : List Operation) (calls : List ModuleCall),
    ((b.after ops).modules.table.asked calls).started.Nodup

/-- What is stored under a name was registered under it, or is a module of the name. -/
theorem Run.namedAt (run : Run c events b) (h : ∀ e ∈ events, ∀ payload,
    e.operation.Registers name payload → KnownAs name payload) : b.modules.table.NamedAt name := by
  induction run with
  | create hb =>
    intro payload hmem
    obtain hold | hself | hnew := (tracks_setUp hb).stored name payload hmem
    · simp [blank] at hold
    · exact hself
    · exact hnew.elim
  | step run op ih =>
    intro payload hmem
    obtain hold | hself | hnew := (op.keeps_tracks _).stored name payload hmem
    · exact ih (fun e he => h e (List.mem_append_left _ he)) payload hold
    · exact hself
    · exact h ⟨op, _⟩ (List.mem_append_right _ (List.mem_singleton_self _)) payload hnew

/-- **A registered module keeps its identity**, if the name it is registered under is its own. -/
theorem keeps_identity (run : Run c events b) (h : ∀ e ∈ events, ∀ payload,
    e.operation.Registers name payload → KnownAs name payload) : KeepsIdentity b name := by
  have hname (calls : List ModuleCall) : (b.modules.table.asked calls).NamedAt name := by
    intro payload hmem
    rw [(proceeds_asked b.modules.table calls).store] at hmem
    exact run.namedAt h payload hmem
  have hsane (ops : List Operation) (calls : List ModuleCall) :
      ((b.after ops).modules.table.asked calls).Sane :=
    (proceeds_asked _ calls).sane ((b.follows_after ops).sane run.sane)
  constructor
  · intro calls payload n program t hnamed hstore hread
    obtain ⟨t', hfind, hm, -⟩ := Loading.exec_find_stored hnamed hstore hread
    obtain ⟨l₁, l₂, hl, -⟩ := List.lookup_eq_some_iff.1 hstore
    obtain rfl : n = name := hname calls payload (hl ▸ by simp) n program hread
    exact ⟨t', hfind, hm⟩
  · exact Loading.named?_of_exec_find (hname _)
  · intro id ops calls hnamed t
    have hgrown := (b.follows_after ops).grown.trans (proceeds_asked _ calls).grown
    exact (hgrown.named?_or_dropped (hsane ops calls) hnamed).imp_left Loading.exec_find_named
  · exact fun ops calls => (hsane ops calls).started_nodup

/-- It holds of a module that was compiled, after the host has registered it. -/
theorem keeps_identity_registered : ∃ (u : CompiledUnit) (b : Bridge) (events : List Event),
    Run {} events b ∧ events.map (·.operation) = [.registerModule u.serialize] ∧
      (∀ e ∈ events, ∀ payload, e.operation.Registers "m.js" payload → KnownAs "m.js" payload) ∧
      KeepsIdentity b "m.js" := by
  obtain ⟨u, -, hname, -, hgenuine, hblob⟩ := CompiledUnit.exists_genuine
  obtain ⟨b, tags, hb⟩ := exists_create
  obtain ⟨events, hops, run⟩ := (Run.create hb).after [.registerModule u.serialize]
  have hknown : ∀ e ∈ events, ∀ payload, e.operation.Registers "m.js" payload →
      KnownAs "m.js" payload := by
    intro e he payload hregisters
    have hop := List.mem_map_of_mem (f := (·.operation)) he
    rw [hops, List.mem_singleton] at hop
    rw [hop] at hregisters
    obtain ⟨u', hu', -, rfl⟩ := hregisters
    obtain rfl : u = u' := Except.ok.inj (hblob.symm.trans hu')
    exact hname ▸ hgenuine.namesItself
  exact ⟨u, _, events, run, hops, hknown, keeps_identity run hknown⟩

end Bridge

end ScriptBridge
