import Mathlib.Data.List.Nodup
import ScriptBridge.Proofs.Program
import ScriptBridge.Script.Module.Table

/-!
# One live module a name

A module that was given up stays known by its number.  A module that was not is *live*, and of each
name at most one module is live, ever (`ModuleTable.WellFormed.unique`).  Only linked modules start,
each once, and a linked module stays live; so at most one module of each name starts.

* `ModuleTable.Extends` : what later tables keep of a table.
* `ModuleTable.Serves` : in addition, the table stays in order, and only imports have brought new
  modules in.
* `serves_of_records`, `WellFormed.push`, `serves_start`, `WellFormed.keep` : the changes of a
  table.

Modules can be forced into a table against this order: a payload may lie about its name.  A table
stays `Sane` whatever is done to it, and what it `Extends` does not depend on any order either.
-/

namespace ScriptBridge.Script

namespace ModuleRecord

/-- A linked module is live, and a dropped one is not. -/
structure Sound (m : ModuleRecord) : Prop where
  linked : m.isLinked = true → m.fault = none
  dropped : m.isDropped = true → m.fault ≠ none

/-- What stays of a module: what it is, why it was given up, and that it is linked or dropped. -/
structure Ages (m m' : ModuleRecord) : Prop where
  name : m'.name = m.name
  program : m'.program = m.program
  fault : m.fault ≠ none → m'.fault = m.fault
  linked : m.isLinked = true → m'.isLinked = true
  dropped : m.isDropped = true → m'.isDropped = true

theorem Ages.refl (m : ModuleRecord) : m.Ages m := ⟨rfl, rfl, fun _ => rfl, id, id⟩

theorem Ages.trans {m m' m'' : ModuleRecord} (h : m.Ages m') (h' : m'.Ages m'') : m.Ages m'' where
  name := h'.name.trans h.name
  program := h'.program.trans h.program
  fault := fun hf => (h'.fault (by rwa [h.fault hf])).trans (h.fault hf)
  linked := fun hl => h'.linked (h.linked hl)
  dropped := fun hd => h'.dropped (h.dropped hd)

/-- A live module was live before. -/
theorem Ages.live {m m' : ModuleRecord} (h : m.Ages m') (hlive : m'.fault = none) :
    m.fault = none := by
  by_contra hf
  exact hf (h.fault hf ▸ hlive)

variable {m : ModuleRecord} {f : ModuleFault}

theorem abandon_of_linked (h : m.isLinked = true) : m.abandon f = m := if_pos h

/-- A module that is given up is not live. -/
theorem fault_abandon (h : m.isLinked = false) : (m.abandon f).fault ≠ none := by
  rw [abandon, h]
  cases m.fault <;> simp

theorem ages_abandon : m.Ages (m.abandon f) := by
  unfold abandon
  split_ifs with h
  · exact .refl m
  · refine ⟨rfl, rfl, fun hf => ?_, id, id⟩
    obtain ⟨f', hf'⟩ := Option.ne_none_iff_exists'.1 hf
    simp [hf']

theorem Sound.abandon (h : m.Sound) : (m.abandon f).Sound := by
  by_cases hl : m.isLinked = true
  · rwa [abandon_of_linked hl]
  · refine ⟨fun hl' => ?_, fun _ => fault_abandon (Bool.eq_false_iff.2 hl)⟩
    rw [ModuleRecord.abandon, if_neg hl] at hl'
    exact absurd hl' hl

theorem isLinked_abandon : (m.abandon f).isLinked = m.isLinked := by
  unfold abandon
  split_ifs
  all_goals rfl

theorem drop_of_linked (h : m.isLinked = true) : m.drop f = m := if_pos h

theorem drop_of_not_linked (h : m.isLinked = false) :
    m.drop f = { m.abandon f with isDropped := true } := by
  rw [drop, h]
  rfl

theorem fault_drop (h : m.isLinked = false) : (m.drop f).fault ≠ none := by
  rw [drop_of_not_linked h]
  exact fault_abandon h

theorem isLinked_drop : (m.drop f).isLinked = m.isLinked := by
  cases h : m.isLinked with
  | true => rw [drop_of_linked h, h]
  | false =>
    rw [drop_of_not_linked h]
    exact isLinked_abandon.trans h

theorem ages_drop : m.Ages (m.drop f) := by
  cases h : m.isLinked with
  | true =>
    rw [drop_of_linked h]
    exact .refl m
  | false =>
    rw [drop_of_not_linked h]
    exact ages_abandon.trans ⟨rfl, rfl, fun _ => rfl, id, fun _ => rfl⟩

theorem requested_abandon : (m.abandon f).requested = m.requested := by
  unfold abandon
  split_ifs
  all_goals rfl

theorem isDropped_abandon : (m.abandon f).isDropped = m.isDropped := by
  unfold abandon
  split_ifs
  all_goals rfl

theorem requested_drop : (m.drop f).requested = m.requested := by
  cases h : m.isLinked with
  | true => rw [drop_of_linked h]
  | false =>
    rw [drop_of_not_linked h]
    exact requested_abandon

theorem Sound.drop (h : m.Sound) : (m.drop f).Sound := by
  cases hl : m.isLinked with
  | true => rwa [drop_of_linked hl]
  | false =>
    rw [drop_of_not_linked hl]
    exact ⟨h.abandon.linked, fun _ => fault_abandon hl⟩

end ModuleRecord

namespace ModuleTable

variable {t t' : ModuleTable} {rs : Array ModuleRecord}

theorem record_of_getElem? {id : Nat} {m : ModuleRecord} (h : t.records[id]? = some m) :
    t.record id = m := by
  rw [record, Array.getD_eq_getD_getElem?, h, Option.getD_some]

/-- The tables that there can be, whatever the payloads say. -/
structure Sane (t : ModuleTable) : Prop where
  sound : ∀ {id : Nat} {m : ModuleRecord}, t.records[id]? = some m → m.Sound
  /-- The modules that started are linked. -/
  started_linked : ∀ {id : Nat}, id ∈ t.started → ∃ m, t.records[id]? = some m ∧ m.isLinked = true
  started_nodup : t.started.Nodup

/-- Modules are stored under their own names. -/
def Named (t : ModuleTable) : Prop :=
  ∀ {name payload n p}, (name, payload) ∈ t.store → readModule payload = .ok (n, p) → n = name

/-- The tables that there can be, if payloads say the names that they are stored under. -/
structure WellFormed (t : ModuleTable) : Prop extends Sane t where
  /-- Of each name, at most one module is live. -/
  unique : ∀ {i j : Nat} {m m' : ModuleRecord}, t.records[i]? = some m → t.records[j]? = some m' →
    m.fault = none → m'.fault = none → m.name = m'.name → i = j
  store_name : t.Named

/-- The table keeps what was known before. -/
structure Extends (t t' : ModuleTable) : Prop where
  records : ∀ {id : Nat} {m : ModuleRecord}, t.records[id]? = some m →
    ∃ m', t'.records[id]? = some m' ∧ m.Ages m'
  started : t.started <:+ t'.started
  imported : t.imported ⊆ t'.imported

/-- The new modules came in by imports. -/
def Imports (t t' : ModuleTable) : Prop :=
  ∀ (id : Nat) (m : ModuleRecord), t.records[id]? = none → t'.records[id]? = some m →
    m.name ∈ t'.imported

/-- What is asked of a table changes it in order. -/
structure Serves (t t' : ModuleTable) : Prop where
  sane : t.Sane → t'.Sane
  grown : t.Extends t'
  store : t'.store = t.store
  wellFormed : t.WellFormed → t'.WellFormed
  imports : t.Named → t.Imports t'

theorem Extends.refl (t : ModuleTable) : t.Extends t :=
  ⟨fun {_ m} h => ⟨m, h, .refl m⟩, List.suffix_refl _, List.Subset.refl _⟩

theorem Extends.trans {t'' : ModuleTable} (h : t.Extends t') (h' : t'.Extends t'') :
    t.Extends t'' := by
  refine ⟨fun hm => ?_, h.started.trans h'.started, List.Subset.trans h.imported h'.imported⟩
  obtain ⟨m', hm', hages⟩ := h.records hm
  obtain ⟨m'', hm'', hages'⟩ := h'.records hm'
  exact ⟨m'', hm'', hages.trans hages'⟩

theorem Extends.lt_size (h : t.Extends t') {id : Nat} (hid : id < t.records.size) :
    id < t'.records.size := by
  obtain ⟨m, hm, -⟩ := h.records (Array.getElem?_eq_getElem hid)
  exact (Array.getElem?_eq_some_iff.1 hm).1

theorem Imports.refl (t : ModuleTable) : t.Imports t := by
  intro id m hnone hm
  rw [hnone] at hm
  cases hm

theorem Imports.trans {t'' : ModuleTable} (h : t.Imports t') (hext : t'.Extends t'')
    (h' : t'.Imports t'') : t.Imports t'' := by
  intro id m hnone hm
  cases hm' : t'.records[id]? with
  | none => exact h' id m hm' hm
  | some m' =>
    obtain ⟨m'', hm'', hages⟩ := hext.records hm'
    obtain rfl : m'' = m := Option.some.inj (hm''.symm.trans hm)
    rw [hages.name]
    exact hext.imported (h id m' hnone hm')

theorem Named.of_store_eq (h : t.Named) (hstore : t'.store = t.store) : t'.Named :=
  fun hmem => h (hstore ▸ hmem)

instance : IsPreorder ModuleTable Serves where
  refl t := ⟨id, .refl t, rfl, id, fun _ => .refl t⟩
  trans _ _ _ h h' := {
    sane := fun ht => h'.sane (h.sane ht)
    grown := h.grown.trans h'.grown
    store := h'.store.trans h.store
    wellFormed := fun ht => h'.wellFormed (h.wellFormed ht)
    imports := fun hn => (h.imports hn).trans h'.grown (h'.imports (hn.of_store_eq h.store)) }

/-! ### Changes -/

/-- Modules may age, one by one. -/
theorem serves_of_records (g : Nat → ModuleRecord → ModuleRecord)
    (hrs : ∀ id, rs[id]? = t.records[id]?.map (g id))
    (hages : ∀ (id : Nat) (m : ModuleRecord), t.records[id]? = some m → m.Ages (g id m))
    (hsound : ∀ (id : Nat) (m : ModuleRecord), t.records[id]? = some m → m.Sound →
      (g id m).Sound) :
    t.Serves { t with records := rs } := by
  have hold {id : Nat} {m : ModuleRecord} (h : t.records[id]? = some m) :
      rs[id]? = some (g id m) := by
    rw [hrs, h, Option.map_some]
  have hback {id : Nat} {m' : ModuleRecord} (h : rs[id]? = some m') :
      ∃ m, t.records[id]? = some m ∧ g id m = m' := by
    rwa [hrs, Option.map_eq_some_iff] at h
  have hsane (ht : t.Sane) : Sane { t with records := rs } := by
    refine ⟨fun {id m'} h => ?_, fun {id} hid => ?_, ht.started_nodup⟩
    · obtain ⟨m, hm, rfl⟩ := hback h
      exact hsound id m hm (ht.sound hm)
    · obtain ⟨m, hm, hlinked⟩ := ht.started_linked hid
      exact ⟨g id m, hold hm, (hages id m hm).linked hlinked⟩
  refine ⟨hsane,
    ⟨fun hm => ⟨_, hold hm, hages _ _ hm⟩, List.suffix_refl _, List.Subset.refl _⟩, rfl,
    fun ht => ⟨hsane ht.toSane, ?_, ht.store_name⟩, fun _ id m hnone hm => ?_⟩
  · intro i j m₁ m₂ h₁ h₂ hlive₁ hlive₂ hname
    obtain ⟨n₁, hn₁, rfl⟩ := hback h₁
    obtain ⟨n₂, hn₂, rfl⟩ := hback h₂
    have hages₁ := hages i n₁ hn₁
    have hages₂ := hages j n₂ hn₂
    rw [hages₁.name, hages₂.name] at hname
    exact ht.unique hn₁ hn₂ (hages₁.live hlive₁) (hages₂.live hlive₂) hname
  · obtain ⟨n, hn, -⟩ := hback hm
    rw [hnone] at hn
    cases hn

theorem records_modifyRecord (t : ModuleTable) (id : Nat) (f : ModuleRecord → ModuleRecord)
    (i : Nat) : (t.modifyRecord id f).records[i]? =
      t.records[i]?.map fun m => if i = id then f m else m := by
  rw [modifyRecord, Array.getElem?_modify]
  by_cases hi : id = i
  · simp [hi]
  · simp [hi, Ne.symm hi]

theorem serves_modifyRecord {id : Nat} {f : ModuleRecord → ModuleRecord}
    (hages : ∀ m : ModuleRecord, m.Ages (f m))
    (hsound : ∀ m : ModuleRecord, m.Sound → (f m).Sound) : t.Serves (t.modifyRecord id f) := by
  refine serves_of_records (fun i m => if i = id then f m else m) (records_modifyRecord t id f)
    (fun i m _ => ?_) fun i m _ hm => ?_
  · split_ifs
    · exact hages m
    · exact .refl m
  · split_ifs
    · exact hsound m hm
    · exact hm

theorem of_getElem?_push {id : Nat} {m m' : ModuleRecord} (h : (rs.push m)[id]? = some m') :
    rs[id]? = some m' ∨ id = rs.size ∧ m' = m := by
  rw [Array.getElem?_push] at h
  split_ifs at h with hid
  · exact .inr ⟨hid, (Option.some.inj h).symm⟩
  · exact .inl h

theorem getElem?_push {id : Nat} {m m' : ModuleRecord} (h : rs[id]? = some m') :
    (rs.push m)[id]? = some m' := by
  have hid := (Array.getElem?_eq_some_iff.1 h).1
  rw [Array.getElem?_push_lt hid, ← h, Array.getElem?_eq_getElem hid]

/-- The module that a name leads to is the first one of the name that was not dropped. -/
theorem named?_eq_some_iff {name : String} {id : Nat} : t.named? name = some id ↔
    (∃ m, t.records[id]? = some m ∧ m.isDropped = false ∧ m.name = name) ∧
      ∀ (i : Nat) (m : ModuleRecord), i < id → t.records[i]? = some m → m.isDropped = true ∨
        m.name ≠ name := by
  rw [named?, Array.findIdx?_eq_some_iff_getElem]
  constructor
  · rintro ⟨hid, hm, hfirst⟩
    refine ⟨⟨t.records[id], Array.getElem?_eq_getElem hid, by simpa using hm⟩, fun i m hi hm' => ?_⟩
    obtain ⟨hlt, rfl⟩ := Array.getElem?_eq_some_iff.1 hm'
    have hnot := hfirst i hi
    by_contra! h
    exact hnot (by simpa using h)
  · rintro ⟨⟨m, hm, hdropped, hname⟩, hfirst⟩
    obtain ⟨hid, rfl⟩ := Array.getElem?_eq_some_iff.1 hm
    refine ⟨hid, by simp [hdropped, hname], fun i hi h => ?_⟩
    obtain hd | hn := hfirst i _ hi (Array.getElem?_eq_getElem (Nat.lt_trans hi hid))
    · simp [hd] at h
    · simp [hn] at h

/-- A name leads to the same module as long as that is not dropped. -/
theorem Extends.named?_eq_some (h : t.Extends t') {name : String} {id : Nat}
    (hnamed : t.named? name = some id)
    (hkept : ∀ m, t'.records[id]? = some m → m.isDropped = false) : t'.named? name = some id := by
  obtain ⟨⟨m, hm, -, hname⟩, hfirst⟩ := named?_eq_some_iff.1 hnamed
  obtain ⟨m', hm', hages⟩ := h.records hm
  refine named?_eq_some_iff.2
    ⟨⟨m', hm', hkept m' hm', hages.name.trans hname⟩, fun i n' hi hn' => ?_⟩
  obtain ⟨hid, -⟩ := Array.getElem?_eq_some_iff.1 hm
  obtain ⟨n, hn⟩ : ∃ n, t.records[i]? = some n :=
    ⟨_, Array.getElem?_eq_getElem (Nat.lt_trans hi hid)⟩
  obtain ⟨n'', hn'', hages'⟩ := h.records hn
  obtain rfl : n'' = n' := Option.some.inj (hn''.symm.trans hn')
  rw [hages'.name]
  exact (hfirst i n hi hn).imp_left hages'.dropped

/-- A name that led nowhere leads to the next module, if that has the name. -/
theorem Extends.named?_eq_size (h : t.Extends t') {name : String} (hnamed : t.named? name = none)
    {m : ModuleRecord} (hm : t'.records[t.records.size]? = some m) (hkept : m.isDropped = false)
    (hname : m.name = name) : t'.named? name = some t.records.size := by
  refine named?_eq_some_iff.2 ⟨⟨m, hm, hkept, hname⟩, fun i n' hi hn' => ?_⟩
  have hn : t.records[i]? = some t.records[i] := Array.getElem?_eq_getElem hi
  obtain ⟨n, hn'', hages⟩ := h.records hn
  obtain rfl : n = n' := Option.some.inj (hn''.symm.trans hn')
  rw [named?, Array.findIdx?_eq_none_iff] at hnamed
  have hfree := hnamed t.records[i] (Array.getElem_mem hi)
  rw [hages.name]
  cases hdropped : t.records[i].isDropped with
  | true => exact .inl (hages.dropped hdropped)
  | false => exact .inr (by simpa [hdropped] using hfree)

/-- A module may be added. -/
theorem Sane.push (ht : t.Sane) (name : String) (program : Program) :
    Sane { t with records := t.records.push { name, program } } := by
  refine ⟨fun {id m} h => ?_, fun {id} hid => ?_, ht.started_nodup⟩
  · obtain h | ⟨-, rfl⟩ := of_getElem?_push h
    · exact ht.sound h
    · exact ⟨nofun, nofun⟩
  · obtain ⟨m, hm, hlinked⟩ := ht.started_linked hid
    exact ⟨m, getElem?_push hm, hlinked⟩

/-- A module may be added if no live one has its name. -/
theorem WellFormed.push (ht : t.WellFormed) {name : String} (program : Program)
    (hfresh : ∀ {id : Nat} {m : ModuleRecord}, t.records[id]? = some m → m.fault = none →
      m.name ≠ name) :
    { t with records := t.records.push { name, program } }.WellFormed := by
  refine ⟨ht.toSane.push name program, ?_, ht.store_name⟩
  intro i j m₁ m₂ h₁ h₂ hlive₁ hlive₂ hname
  obtain h₁ | ⟨hi, rfl⟩ := of_getElem?_push h₁
  · obtain h₂ | ⟨-, rfl⟩ := of_getElem?_push h₂
    · exact ht.unique h₁ h₂ hlive₁ hlive₂ hname
    · exact absurd hname (hfresh h₁ hlive₁)
  · obtain h₂ | ⟨hj, -⟩ := of_getElem?_push h₂
    · exact absurd hname.symm (hfresh h₂ hlive₂)
    · rw [hi, hj]

theorem extends_push (t : ModuleTable) (m : ModuleRecord) :
    t.Extends { t with records := t.records.push m } :=
  ⟨fun {_ m} hm => ⟨m, getElem?_push hm, .refl m⟩, List.suffix_refl _, List.Subset.refl _⟩

/-- A body starts once. -/
theorem serves_start (t : ModuleTable) (id : Nat) : t.Serves (t.start id).2 := by
  unfold start
  split_ifs with h
  · simp only [Bool.and_eq_true, Bool.not_eq_true', List.contains_eq_mem, decide_eq_false_iff_not]
      at h
    have hsane (ht : t.Sane) : Sane { t with started := id :: t.started } := by
      refine ⟨ht.sound, fun {i} hi => ?_, List.nodup_cons.2 ⟨h.2, ht.started_nodup⟩⟩
      obtain rfl | hi := List.mem_cons.1 hi
      · have hlinked := h.1
        rw [record, Array.getD_eq_getD_getElem?] at hlinked
        cases hm : t.records[i]? with
        | none =>
          rw [hm] at hlinked
          cases hlinked
        | some m =>
          rw [hm] at hlinked
          exact ⟨m, rfl, hlinked⟩
      · exact ht.started_linked hi
    exact ⟨hsane, ⟨(Extends.refl t).records, List.suffix_cons _ _, List.Subset.refl _⟩, rfl,
      fun ht => ⟨hsane ht.toSane, ht.unique, ht.store_name⟩, fun _ => Imports.refl t⟩
  · exact refl_of Serves t

/-- A payload is kept under the name of its module. -/
theorem Named.keep (ht : t.Named) {name : String} {payload : List UInt8}
    (hname : ∀ {n p}, readModule payload = .ok (n, p) → n = name) :
    (t.keep name payload).Named := by
  intro name' payload' n p hmem hread
  obtain heq | hmem := List.mem_cons.1 hmem
  · cases heq
    exact hname hread
  · exact ht (List.mem_filter.1 hmem).1 hread

theorem WellFormed.keep (ht : t.WellFormed) {name : String} {payload : List UInt8}
    (hname : ∀ {n p}, readModule payload = .ok (n, p) → n = name) :
    (t.keep name payload).WellFormed :=
  ⟨⟨ht.sound, ht.started_linked, ht.started_nodup⟩, ht.unique, Named.keep ht.store_name hname⟩

end ModuleTable

end ScriptBridge.Script
