import Mathlib.Data.Set.Insert
import ScriptBridge.Proofs.Module.Loading

/-!
# What modules ask for

A module finds the modules that it asks for in one go, in the order in which its text asks for them.
From then on it has them for good, whatever became of the search: the modules below it may be
missing.

* `ModuleTable.Steady` : what a module has found is not touched again, except while it is `asking`.
* `ModuleTable.Searched` : a module that was found has the name that was asked for.
* `ends_resolve_asked` : **a search that succeeds has found all**, and one that fails leaves the
  module in the table.
* `ends_link_linked` : a module is linked together with all that it asks for.
-/

namespace ScriptBridge.Script

namespace ModuleRecord

/-- All that the module asks for was found. -/
def IsWhole (m : ModuleRecord) : Prop :=
  ∃ l, m.requested = some l ∧ m.program.requests.length ≤ l.length

end ModuleRecord

namespace ModuleTable

variable {t t' t'' : ModuleTable} {asking : Set Nat} {id : Nat}

/-- Modules that have asked for others have what they found, unless they are still asking. -/
def Steady (asking : Set Nat) (t t' : ModuleTable) : Prop :=
  ∀ (id : Nat) (m : ModuleRecord), t.records[id]? = some m → m.requested ≠ none →
    ∃ m', t'.records[id]? = some m' ∧ m'.requested ≠ none ∧ m'.isDropped = m.isDropped ∧
      (id ∉ asking → m'.requested = m.requested)

/-- The module that was found is the one that `m` asks for at a place. -/
def Answers (t : ModuleTable) (m : ModuleRecord) (place found : Nat) : Prop :=
  ∃ s specifier m', m.program.requests[place]? = some s ∧ specifierText s = .ok specifier ∧
    t.records[found]? = some m' ∧ m'.name = ModuleName.resolve m.name specifier

/-- A module of the name is there. -/
def HasName (t : ModuleTable) (name : String) : Prop :=
  ∃ (id : Nat) (m : ModuleRecord), t.records[id]? = some m ∧ m.name = name

/-- What was found is what was asked for. -/
structure Searched (t : ModuleTable) : Prop where
  found : ∀ (id : Nat) (m : ModuleRecord) (place found : Nat), t.records[id]? = some m →
    (m.requested.getD [])[place]? = some found → t.Answers m place found
  /-- An import has brought in a module of its name. -/
  imported : ∀ name ∈ t.imported, t.HasName name

/-- What happens to a table while some modules are asking. -/
structure Proceeds (asking : Set Nat) (t t' : ModuleTable) : Prop extends Serves t t' where
  steady : t.Steady asking t'
  searched : t.Named → t.Searched → t'.Searched

theorem Steady.refl (t : ModuleTable) : t.Steady asking t :=
  fun _ m hm hasked => ⟨m, hm, hasked, rfl, fun _ => rfl⟩

theorem Steady.trans (h : t.Steady asking t') (h' : t'.Steady asking t'') :
    t.Steady asking t'' := by
  intro id m hm hasked
  obtain ⟨m', hm', hasked', hdropped, hsame⟩ := h id m hm hasked
  obtain ⟨m'', hm'', hasked'', hdropped', hsame'⟩ := h' id m' hm' hasked'
  exact ⟨m'', hm'', hasked'', hdropped'.trans hdropped, fun hid => (hsame' hid).trans (hsame hid)⟩

instance : IsPreorder ModuleTable (Proceeds asking) where
  refl t := ⟨refl_of Serves t, .refl t, fun _ h => h⟩
  trans _ _ _ h h' := ⟨trans_of Serves h.toServes h'.toServes, h.steady.trans h'.steady,
    fun hn hs => h'.searched (hn.of_store_eq h.store) (h.searched hn hs)⟩

theorem Proceeds.mono {asking' : Set Nat} (h : t.Proceeds asking t') (hsub : asking ⊆ asking') :
    t.Proceeds asking' t' := by
  refine ⟨h.toServes, fun id m hm hasked => ?_, h.searched⟩
  obtain ⟨m', hm', hasked', hdropped, hsame⟩ := h.steady id m hm hasked
  exact ⟨m', hm', hasked', hdropped, fun hid => hsame fun h => hid (hsub h)⟩

/-- What was found stays the answer. -/
theorem Answers.of_extends {m m' : ModuleRecord} {place found : Nat} (h : t.Answers m place found)
    (hages : m.Ages m') (ht : t.Extends t') : t'.Answers m' place found := by
  obtain ⟨s, specifier, n, hs, hspecifier, hn, hname⟩ := h
  obtain ⟨n', hn', hages'⟩ := ht.records hn
  rw [← hages.name] at hname
  exact ⟨s, specifier, n', hages.program ▸ hs, hspecifier, hn', hages'.name.trans hname⟩

/-- A module that has not asked for anything may ask now. -/
theorem Proceeds.of_asking {t₁ : ModuleTable} (hnone : (t.record id).requested = none)
    (h₁ : t.Proceeds ∅ t₁) (h₂ : t₁.Proceeds {id} t') : t.Proceeds ∅ t' := by
  refine ⟨trans_of Serves h₁.toServes h₂.toServes, fun i m hm hasked => ?_, fun hn hs =>
    h₂.searched (hn.of_store_eq h₁.store) (h₁.searched hn hs)⟩
  have hi : i ≠ id := by
    rintro rfl
    rw [record_of_getElem? hm] at hnone
    exact hasked hnone
  obtain ⟨m₁, hm₁, hasked₁, hdropped₁, hsame₁⟩ := h₁.steady i m hm hasked
  obtain ⟨m₂, hm₂, hasked₂, hdropped₂, hsame₂⟩ := h₂.steady i m₁ hm₁ hasked₁
  exact ⟨m₂, hm₂, hasked₂, hdropped₂.trans hdropped₁, fun hid => (hsame₂ hi).trans (hsame₁ hid)⟩

theorem HasName.of_extends {name : String} (h : t.HasName name) (ht : t.Extends t') :
    t'.HasName name := by
  obtain ⟨id, m, hm, hname⟩ := h
  obtain ⟨m', hm', hages⟩ := ht.records hm
  exact ⟨id, m', hm', hages.name.trans hname⟩

/-! ### Changes -/

/-- A change of modules one by one that leaves alone what they have found. -/
theorem proceeds_of_records {rs : Array ModuleRecord} (g : Nat → ModuleRecord → ModuleRecord)
    (hrs : ∀ id, rs[id]? = t.records[id]?.map (g id)) (hserves : t.Serves { t with records := rs })
    (hages : ∀ (id : Nat) (m : ModuleRecord), m.Ages (g id m))
    (hsame : ∀ (id : Nat) (m : ModuleRecord), (g id m).requested = m.requested)
    (hdropped : ∀ (id : Nat) (m : ModuleRecord), m.requested ≠ none →
      (g id m).isDropped = m.isDropped) : t.Proceeds asking { t with records := rs } := by
  refine ⟨hserves, fun id m hm hasked => ?_, fun _ hs => ⟨fun id m' place found hm' hfound => ?_,
    fun name hname => (hs.imported name hname).of_extends hserves.grown⟩⟩
  · exact ⟨g id m, by simp [hrs, hm], by rwa [hsame], hdropped id m hasked, fun _ => hsame id m⟩
  · have hm : rs[id]? = some m' := hm'
    rw [hrs, Option.map_eq_some_iff] at hm
    obtain ⟨m, hm, rfl⟩ := hm
    rw [hsame] at hfound
    exact (hs.found id m place found hm hfound).of_extends (hages id m) hserves.grown

/-- A module that comes in has asked for nothing. -/
theorem steady_push (t : ModuleTable) (m : ModuleRecord) (imported : List String) :
    t.Steady asking { t with records := t.records.push m, imported } :=
  fun _ m hm hasked => ⟨m, getElem?_push hm, hasked, rfl, fun _ => rfl⟩

theorem Searched.push (h : t.Searched) (name : String) (program : Program) {imported : List String}
    (hgrown : t.Extends { t with records := t.records.push { name, program }, imported })
    (himported : ∀ n ∈ imported, n ∈ t.imported ∨ n = name) :
    Searched { t with records := t.records.push { name, program }, imported } := by
  refine ⟨fun id m place found hm hfound => ?_, fun n hn => ?_⟩
  · obtain hm | ⟨-, rfl⟩ := of_getElem?_push hm
    · exact (h.found id m place found hm hfound).of_extends (.refl m) hgrown
    · simp at hfound
  · obtain hn | rfl := himported n hn
    · exact (h.imported n hn).of_extends hgrown
    · exact ⟨t.records.size, { name := n, program }, Array.getElem?_push_size, rfl⟩

/-- What a module has found may be changed while it is asking. -/
theorem steady_modifyRecord (t : ModuleTable) {f : ModuleRecord → ModuleRecord}
    (hf : ∀ m : ModuleRecord, m.requested ≠ none →
      (f m).requested ≠ none ∧ (f m).isDropped = m.isDropped) :
    t.Steady {id} (t.modifyRecord id f) := by
  intro i m hm hasked
  refine ⟨if i = id then f m else m, by rw [records_modifyRecord, hm, Option.map_some], ?_⟩
  split_ifs with hi
  · exact ⟨(hf m hasked).1, (hf m hasked).2, fun h => absurd hi h⟩
  · exact ⟨hasked, rfl, fun _ => rfl⟩

theorem Searched.modifyRecord (h : t.Searched) {f : ModuleRecord → ModuleRecord}
    (hages : ∀ m : ModuleRecord, m.Ages (f m)) (hgrown : t.Extends (t.modifyRecord id f))
    (hf : ∀ m place found, t.records[id]? = some m →
      ((f m).requested.getD [])[place]? = some found → t.Answers m place found) :
    (t.modifyRecord id f).Searched := by
  refine ⟨fun i m' place found hm' hfound => ?_, fun name hname =>
    (h.imported name hname).of_extends hgrown⟩
  rw [records_modifyRecord, Option.map_eq_some_iff] at hm'
  obtain ⟨m, hm, rfl⟩ := hm'
  split_ifs at hfound ⊢ with hi
  · subst hi
    exact (hf m place found hm hfound).of_extends (hages m) hgrown
  · exact (h.found i m place found hm hfound).of_extends (.refl m) hgrown

end ModuleTable

namespace Loading

open ModuleTable

variable {t t' : ModuleTable} {id : Nat}

/-! ### Searching -/

/-- A module that is found by name has the name. -/
theorem ends_find (name : String) (t : ModuleTable) :
    Ends (find name) t fun r t' => t.Proceeds ∅ t' ∧
      (t.Named → ∀ id, r = .ok id → ∃ m, t'.records[id]? = some m ∧ m.name = name) := by
  refine .get_bind ?_
  split
  · rename_i id _ hnamed
    refine .pure ⟨refl_of (Proceeds ∅) t, fun _ id' h => ?_⟩
    cases h
    obtain ⟨⟨m, hm, -, hname⟩, -⟩ := named?_eq_some_iff.1 hnamed
    exact ⟨m, hm, hname⟩
  · rename_i payload hnamed hstore
    unfold Ends
    rw [exec_bind, exec_read]
    cases hread : readModule payload with
    | error f => exact ⟨refl_of (Proceeds ∅) t, fun _ _ => nofun⟩
    | ok module =>
      obtain ⟨n, program⟩ := module
      have hserves := (resolves_import t hnamed hstore hread).1
      refine ⟨⟨hserves, steady_push t _ _, fun hnames hs => ?_⟩, ?_⟩
      · refine hs.push n program hserves.grown fun n' hn' => ?_
        rw [name_of_lookup hnames hstore hread]
        exact (List.mem_cons.1 hn').symm
      intro hnames id h
      cases h
      exact ⟨⟨n, program, none, false, none, false⟩, Array.getElem?_push_size,
        name_of_lookup hnames hstore hread⟩
  · exact .throw ⟨refl_of (Proceeds ∅) t, fun _ _ => nofun⟩

/-- The module is asking, and these requests of it are left. -/
def Asking (t : ModuleTable) (id : Nat) (rest : List Str) : Prop :=
  ∀ m, t.records[id]? = some m →
    ∃ l, m.requested = some l ∧ m.program.requests.drop l.length = rest

/-- Another module does not disturb one that is asking. -/
theorem Asking.of_proceeds {rest : List Str} (h : Asking t id rest) (ht : t.Proceeds ∅ t')
    (hid : id < t.records.size) : Asking t' id rest := by
  have hm : t.records[id]? = some t.records[id] := Array.getElem?_eq_getElem hid
  obtain ⟨l, hl, hrest⟩ := h _ hm
  intro m' hm'
  obtain ⟨n, hn, -, -, hsame⟩ := ht.steady id _ hm (by simp [hl])
  obtain ⟨n', hn', hages⟩ := ht.grown.records hm
  obtain rfl : n = m' := Option.some.inj (hn.symm.trans hm')
  obtain rfl : n' = n := Option.some.inj (hn'.symm.trans hm')
  exact ⟨l, (hsame (Set.notMem_empty id)).trans hl, by rw [hages.program, hrest]⟩

/-- A module that is asking notes what it has found. -/
def note (found : Nat) (m : ModuleRecord) : ModuleRecord :=
  { m with requested := some (m.requested.getD [] ++ [found]) }

/-- What is noted is what the next request asks for. -/
theorem proceeds_note {s : Str} {rest : List Str} {specifier : String} {found : Nat}
    (hask : Asking t id (s :: rest)) (hs : specifierText s = .ok specifier)
    (hfound : t.Named → ∀ m, t.records[id]? = some m → ∃ m', t.records[found]? = some m' ∧
      m'.name = ModuleName.resolve m.name specifier) :
    t.Proceeds {id} (t.modifyRecord id (note found)) ∧
      Asking (t.modifyRecord id (note found)) id rest := by
  have hserves : t.Serves (t.modifyRecord id (note found)) :=
    serves_modifyRecord (fun _ => ages_asking) fun _ hm => ⟨hm.linked, hm.dropped⟩
  have hnext {m : ModuleRecord} {l : List Nat}
      (hrest : m.program.requests.drop l.length = s :: rest) :
      m.program.requests[l.length]? = some s ∧ m.program.requests.drop (l.length + 1) = rest := by
    rw [← List.head?_drop, hrest, ← List.tail_drop, hrest]
    exact ⟨rfl, rfl⟩
  refine ⟨⟨hserves, steady_modifyRecord t fun m _ => ⟨nofun, rfl⟩, fun hnamed hsearched => ?_⟩, ?_⟩
  · refine hsearched.modifyRecord (fun _ => ages_asking) hserves.grown fun m place n hm hn => ?_
    obtain ⟨l, hl, hrest⟩ := hask m hm
    rw [note, hl, Option.getD_some, Option.getD_some] at hn
    -- a place before the last one was noted earlier
    obtain hlt | hle := Nat.lt_or_ge place l.length
    · rw [List.getElem?_append_left hlt] at hn
      exact hsearched.found id m place n hm (by rwa [hl])
    · rw [List.getElem?_append_right hle, List.getElem?_singleton] at hn
      split_ifs at hn with hplace
      obtain rfl : place = l.length := by omega
      obtain rfl : found = n := Option.some.inj hn
      obtain ⟨m', hm', hname⟩ := hfound hnamed m hm
      exact ⟨s, specifier, m', (hnext hrest).1, hs, hm', hname⟩
  · intro m' hm'
    rw [records_modifyRecord, Option.map_eq_some_iff] at hm'
    obtain ⟨m, hm, rfl⟩ := hm'
    obtain ⟨l, hl, hrest⟩ := hask m hm
    rw [if_pos rfl]
    refine ⟨l ++ [found], by rw [note, hl, Option.getD_some], ?_⟩
    rw [List.length_append, List.length_singleton]
    exact (hnext hrest).2

theorem ends_request {s : Str} {rest : List Str} (hask : Asking t id (s :: rest))
    (hid : id < t.records.size) : Ends (request id s) t fun r t' => t.Proceeds {id} t' ∧
      ((∃ found, r = .ok found) → Asking t' id rest) := by
  have hm : t.records[id]? = some t.records[id] := Array.getElem?_eq_getElem hid
  refine .get_bind (.ofExcept_bind (fun specifier hs => ?_) fun f _ =>
    ⟨refl_of (Proceeds {id}) t, nofun⟩)
  rw [record_of_getElem? hm]
  refine (ends_find _ t).bind (fun found t₁ h₁ => .modify_bind (.pure ?_)) fun e t₁ h₁ =>
    ⟨h₁.1.mono (Set.empty_subset _), nofun⟩
  obtain ⟨hproceeds, hname⟩ := h₁
  have hfound (hnamed : t₁.Named) (m₁ : ModuleRecord) (hm₁ : t₁.records[id]? = some m₁) :
      ∃ m', t₁.records[found]? = some m' ∧ m'.name = ModuleName.resolve m₁.name specifier := by
    obtain ⟨m, hm', hages⟩ := hproceeds.grown.records hm
    obtain rfl : m = m₁ := Option.some.inj (hm'.symm.trans hm₁)
    rw [hages.name]
    exact hname (hnamed.of_store_eq hproceeds.store.symm) found rfl
  obtain ⟨hnote, hask'⟩ := proceeds_note (hask.of_proceeds hproceeds hid) hs hfound
  exact ⟨trans_of (Proceeds {id}) (hproceeds.mono (Set.empty_subset _)) hnote, fun _ => hask'⟩

/-- What a search for all that a module asks for comes to. -/
theorem ends_requestAll {below : Nat → Loading Unit} (hbelow : ∀ id, Keeps (Proceeds ∅) (below id))
    {names : List Str} (hask : Asking t id names) (hid : id < t.records.size) :
    Ends (requestAll below id names) t fun r t' => t.Proceeds {id} t' ∧
      ((∃ a, r = .ok a) → Asking t' id []) := by
  induction names generalizing t with
  | nil => exact .pure ⟨refl_of (Proceeds {id}) t, fun _ => hask⟩
  | cons s rest ih =>
    refine (ends_request hask hid).bind (fun found t₁ h₁ => ?_) fun e t₁ h₁ => ⟨h₁.1, nofun⟩
    obtain ⟨hproceeds₁, hask₁⟩ := h₁
    refine ((hbelow found).ends t₁).bind (fun _ t₂ h₂ => ?_) fun e t₂ h₂ => ⟨?_, nofun⟩
    · have hid₁ := hproceeds₁.grown.lt_size hid
      have hask₂ := (hask₁ ⟨found, rfl⟩).of_proceeds h₂ hid₁
      refine (ih hask₂ (h₂.grown.lt_size hid₁)).mono fun r t₃ h₃ => ⟨?_, h₃.2⟩
      exact trans_of (Proceeds {id}) hproceeds₁
        (trans_of (Proceeds {id}) (h₂.mono (Set.empty_subset _)) h₃.1)
    · exact trans_of (Proceeds {id}) hproceeds₁ (h₂.mono (Set.empty_subset _))

/-- Whatever becomes of a search, the module has asked then, and it is dropped only if it was. -/
def Asked (id : Nat) (t t' : ModuleTable) : Prop :=
  ∀ m, t.records[id]? = some m →
    ∃ m', t'.records[id]? = some m' ∧ m'.requested ≠ none ∧ m'.isDropped = m.isDropped

/-- The start of a search: nothing is found yet. -/
theorem proceeds_start (hnone : (t.record id).requested = none) :
    let t₁ := t.modifyRecord id fun m => { m with requested := some [] }
    t.Proceeds ∅ t₁ ∧ Asked id t t₁ ∧
      Asking t₁ id (t.record id).program.requests := by
  have hserves : t.Serves (t.modifyRecord id fun m => { m with requested := some [] }) :=
    serves_modifyRecord (fun _ => ages_asking) fun _ hm => ⟨hm.linked, hm.dropped⟩
  refine ⟨⟨hserves, fun i m hm hasked => ?_, fun _ hs => ?_⟩, fun m hm => ?_, fun m' hm' => ?_⟩
  · have hi : i ≠ id := by
      rintro rfl
      rw [record_of_getElem? hm] at hnone
      exact hasked hnone
    refine ⟨m, ?_, hasked, rfl, fun _ => rfl⟩
    rw [records_modifyRecord, hm, Option.map_some, if_neg hi]
  · refine hs.modifyRecord (fun _ => ages_asking) hserves.grown fun m place found _ h => ?_
    simp at h
  · refine ⟨{ m with requested := some [] }, ?_, nofun, rfl⟩
    rw [records_modifyRecord, hm, Option.map_some, if_pos rfl]
  · rw [records_modifyRecord, Option.map_eq_some_iff] at hm'
    obtain ⟨m, hm, rfl⟩ := hm'
    rw [if_pos rfl, record_of_getElem? hm]
    exact ⟨[], rfl, rfl⟩

theorem Asked.of_steady {t₁ : ModuleTable} {asking : Set Nat} (h : Asked id t t₁)
    (hsteady : t₁.Steady asking t') : Asked id t t' := by
  intro m hm
  obtain ⟨m₁, hm₁, hasked₁, hdropped₁⟩ := h m hm
  obtain ⟨m₂, hm₂, hasked₂, hdropped₂, -⟩ := hsteady id m₁ hm₁ hasked₁
  exact ⟨m₂, hm₂, hasked₂, hdropped₂.trans hdropped₁⟩

theorem ends_resolveFrom_succ {fuel : Nat} (hbelow : ∀ id, Keeps (Proceeds ∅) (resolveFrom fuel id))
    (id : Nat) (t : ModuleTable) :
    Ends (resolveFrom (fuel + 1) id) t fun r t' => t.Proceeds ∅ t' ∧ Asked id t t' ∧
      ((∃ a, r = .ok a) → (t.record id).requested = none → Asking t' id []) := by
  refine .get_bind ?_
  dsimp only
  split_ifs with hnone
  · rw [Option.isNone_iff_eq_none] at hnone
    obtain ⟨hproceeds₁, hasked₁, hask₁⟩ := proceeds_start hnone
    refine .modify_bind ?_
    by_cases hid : id < t.records.size
    · refine (ends_requestAll hbelow hask₁ (hproceeds₁.grown.lt_size hid)).mono ?_
      rintro r t₂ ⟨hproceeds₂, hdone⟩
      exact ⟨hproceeds₁.of_asking hnone hproceeds₂, hasked₁.of_steady hproceeds₂.steady,
        fun hr _ => hdone hr⟩
    · -- there is no module of that number, and it asks for nothing
      have hrecord : t.record id = default := by
        rw [record, Array.getD_eq_getD_getElem?, Array.getElem?_eq_none (Nat.le_of_not_lt hid)]
        rfl
      rw [hrecord] at hask₁ ⊢
      exact .pure ⟨hproceeds₁, hasked₁, fun _ _ => hask₁⟩
  · rw [Option.isNone_iff_eq_none] at hnone
    refine .pure ⟨refl_of (Proceeds ∅) t, fun m hm => ⟨m, hm, ?_, rfl⟩, fun _ h => absurd h hnone⟩
    rwa [record_of_getElem? hm] at hnone

/-- A module that has asked finds nothing new. -/
theorem exec_resolve_asked {m : ModuleRecord} (hm : t.records[id]? = some m)
    (hasked : m.requested ≠ none) : exec (resolve id) t = (.ok (), t) := by
  have hrecord : (t.record id).requested.isNone = false := by
    rw [record_of_getElem? hm, Bool.eq_false_iff, ne_eq, Option.isNone_iff_eq_none]
    exact hasked
  have hfrom (fuel : Nat) : exec (resolveFrom (fuel + 1) id) t = (.ok (), t) := by
    rw [resolveFrom, exec_bind, exec_get]
    simp only [hrecord]
    rfl
  rw [resolve, exec_bind, exec_get]
  simp only [exec_tryCatch, hfrom]

theorem keeps_resolveFrom_proceeds (fuel id : Nat) : Keeps (Proceeds ∅) (resolveFrom fuel id) := by
  induction fuel generalizing id with
  | zero => exact .throw _
  | succ fuel ih => exact .of_ends fun t => (ends_resolveFrom_succ ih id t).mono fun _ _ h => h.1

/-- A search that fails drops only modules that never asked. -/
theorem proceeds_dropUnasked (t : ModuleTable) (f : ModuleFault) :
    t.Proceeds ∅ { t with records := t.records.map fun m =>
      if m.requested.isNone then m.drop f else m } := by
  refine proceeds_of_records (fun _ m => if m.requested.isNone then m.drop f else m)
    (fun i => by simp) (resolves_dropUnasked t f).1 (fun _ m => ?_) (fun _ m => ?_)
    fun _ m hasked => ?_
  · split_ifs
    · exact ModuleRecord.ages_drop
    · exact .refl m
  · split_ifs
    · exact ModuleRecord.requested_drop
    · rfl
  · rw [if_neg (by simpa using hasked)]

/-- **A search that succeeds has found all**, and whatever becomes of it, the module stays. -/
theorem ends_resolve_asked (id : Nat) (t : ModuleTable) :
    Ends (resolve id) t fun r t' => t.Proceeds ∅ t' ∧ Asked id t t' ∧
      ((∃ a, r = .ok a) → (t.record id).requested = none → Asking t' id []) := by
  refine .get_bind ?_
  refine (ends_resolveFrom_succ (keeps_resolveFrom_proceeds _) id t).tryCatch ?_ ?_
  · rintro a t₁ h
    exact h
  · rintro f t₁ ⟨hproceeds₁, hasked₁, -⟩
    refine .modify_bind (.throw ?_)
    have hdrop := proceeds_dropUnasked t₁ f
    exact ⟨trans_of (Proceeds ∅) hproceeds₁ hdrop, hasked₁.of_steady hdrop.steady, nofun⟩

end Loading

end ScriptBridge.Script
