import ScriptBridge.Proofs.Module.Table

/-!
# Programs on the table of modules

Whatever a script, or the bridge, asks of the table of modules keeps it in order.

* `keeps_resolve`, `keeps_link` : finding imports and linking are in order; only linking links.
* `serves_serve` : so is **every answer to a script**.
* `ends_giveUp` : a program that fails gives a module up, if it was not linked before.
-/

namespace ScriptBridge.Script

open ModuleTable

namespace ModuleTable

/-- No module becomes linked. -/
def Resolves (t t' : ModuleTable) : Prop :=
  t.Serves t' ∧ ∀ (id : Nat) (m' : ModuleRecord), t'.records[id]? = some m' → m'.isLinked = true →
    ∃ m, t.records[id]? = some m ∧ m.isLinked = true

instance : IsPreorder ModuleTable Resolves where
  refl t := ⟨refl_of Serves t, fun _ m h hl => ⟨m, h, hl⟩⟩
  trans _ _ _ h h' := by
    refine ⟨trans_of Serves h.1 h'.1, fun id m'' hm'' hl'' => ?_⟩
    obtain ⟨m', hm', hl'⟩ := h'.2 id m'' hm'' hl''
    exact h.2 id m' hm' hl'

theorem resolves_of_records {t : ModuleTable} {rs : Array ModuleRecord}
    (g : Nat → ModuleRecord → ModuleRecord) (hrs : ∀ id, rs[id]? = t.records[id]?.map (g id))
    (hages : ∀ (id : Nat) (m : ModuleRecord), m.Ages (g id m))
    (hsound : ∀ (id : Nat) (m : ModuleRecord), m.Sound → (g id m).Sound)
    (hlinked : ∀ (id : Nat) (m : ModuleRecord), (g id m).isLinked = m.isLinked) :
    t.Resolves { t with records := rs } := by
  refine ⟨serves_of_records g hrs (fun id m _ => hages id m) fun id m _ => hsound id m,
    fun id m' hm' hl => ?_⟩
  rw [hrs, Option.map_eq_some_iff] at hm'
  obtain ⟨m, hm, rfl⟩ := hm'
  exact ⟨m, hm, hlinked id m ▸ hl⟩

theorem resolves_modifyRecord (t : ModuleTable) (id : Nat) {f : ModuleRecord → ModuleRecord}
    (hages : ∀ m : ModuleRecord, m.Ages (f m)) (hsound : ∀ m : ModuleRecord, m.Sound → (f m).Sound)
    (hlinked : ∀ m : ModuleRecord, (f m).isLinked = m.isLinked) :
    t.Resolves (t.modifyRecord id f) := by
  refine ⟨serves_modifyRecord hages hsound, fun i m' hm' hl => ?_⟩
  rw [records_modifyRecord, Option.map_eq_some_iff] at hm'
  obtain ⟨m, hm, rfl⟩ := hm'
  refine ⟨m, hm, ?_⟩
  split_ifs at hl
  · rwa [hlinked] at hl
  · exact hl

end ModuleTable

namespace Loading

variable {α : Type} {t : ModuleTable}

/-! ### Finding modules -/

theorem exec_read (payload : List UInt8) (t : ModuleTable) : exec (read payload) t =
    match readModule payload with
    | .error f => (.error f, t)
    | .ok (name, program) =>
      (.ok t.records.size, { t with records := t.records.push { name, program } }) := by
  rw [read, exec_bind, exec_ofExcept]
  rcases readModule payload with f | ⟨name, program⟩
  · rfl
  · rfl

/-- A name that leads to a module is found there. -/
theorem exec_find_named {name : String} {id : Nat} (hnamed : t.named? name = some id) :
    exec (find name) t = (.ok id, t) := by
  rw [find, exec_bind, exec_get]
  simp only [hnamed]
  rfl

/-- A name that is not found is not that of a live module. -/
theorem fresh_of_named?_eq_none (ht : t.Sane) {name : String} (h : t.named? name = none)
    {id : Nat} {m : ModuleRecord} (hm : t.records[id]? = some m) (hlive : m.fault = none) :
    m.name ≠ name := by
  rw [named?, Array.findIdx?_eq_none_iff] at h
  have hdropped : m.isDropped = false := by
    by_contra hd
    exact (ht.sound hm).dropped (by simpa using hd) hlive
  have hname := h m (Array.mem_of_getElem? hm)
  simpa [hdropped] using hname

/-- The store has each module under its own name. -/
theorem name_of_lookup (ht : t.Named) {name n : String} {payload : List UInt8} {p : Program}
    (hstore : t.store.lookup name = some payload) (hread : readModule payload = .ok (n, p)) :
    n = name := by
  obtain ⟨l₁, l₂, hl, -⟩ := List.lookup_eq_some_iff.1 hstore
  exact ht (hl ▸ by simp) hread

/-- A module that the store has comes in under the name that is asked for. -/
theorem resolves_import (t : ModuleTable) {name n : String} {payload : List UInt8} {p : Program}
    (hnamed : t.named? name = none) (hstore : t.store.lookup name = some payload)
    (hread : readModule payload = .ok (n, p)) :
    t.Resolves { t with
      records := t.records.push { name := n, program := p }, imported := name :: t.imported } := by
  have hgrown : t.Extends { t with
      records := t.records.push { name := n, program := p }, imported := name :: t.imported } :=
    ⟨(extends_push t _).records, List.suffix_refl _, List.subset_cons_self _ _⟩
  refine ⟨⟨fun ht => { ht.push n p with }, hgrown, rfl, fun ht => ?_, fun ht id m hnone hm => ?_⟩,
    fun id m hm hl => ?_⟩
  · obtain rfl := name_of_lookup ht.store_name hstore hread
    exact { ht.push p (fresh_of_named?_eq_none ht.toSane hnamed) with }
  · obtain rfl := name_of_lookup ht hstore hread
    obtain hm | ⟨-, rfl⟩ := of_getElem?_push hm
    · rw [hnone] at hm
      cases hm
    · exact List.mem_cons_self
  · obtain hm | ⟨-, rfl⟩ := of_getElem?_push hm
    · exact ⟨m, hm, hl⟩
    · cases hl

theorem keeps_find (name : String) : Keeps Resolves (find name) := by
  refine Keeps.of_ends fun t => .get_bind ?_
  split
  · exact .pure (refl_of _ t)
  · rename_i payload hnamed hstore
    unfold Ends
    rw [exec_bind, exec_read]
    cases hread : readModule payload with
    | error f => exact refl_of _ t
    | ok module => exact resolves_import t hnamed hstore hread
  · exact .throw (refl_of _ t)

/-- What a module asks for is noted beside what stays of it. -/
theorem ages_asking {m : ModuleRecord} {l : Option (List Nat)} : m.Ages { m with requested := l } :=
  ⟨rfl, rfl, fun _ => rfl, fun h => h, fun h => h⟩

theorem keeps_request (id : Nat) (s : Str) : Keeps Resolves (request id s) := by
  refine Keeps.get.bind fun t => (Keeps.ofExcept _).bind fun specifier => ?_
  refine (keeps_find _).bind fun target => (Keeps.modify fun t => ?_).bind fun _ => .pure _
  exact resolves_modifyRecord t id (fun _ => ages_asking) (fun _ hm => ⟨hm.linked, hm.dropped⟩)
    fun _ => rfl

theorem keeps_requestAll {below : Nat → Loading Unit} (hbelow : ∀ id, Keeps Resolves (below id))
    (id : Nat) (names : List Str) : Keeps Resolves (requestAll below id names) := by
  induction names with
  | nil => exact .pure _
  | cons s rest ih => exact (keeps_request id s).bind fun target => (hbelow target).bind fun _ => ih

theorem keeps_resolveFrom (fuel id : Nat) : Keeps Resolves (resolveFrom fuel id) := by
  induction fuel generalizing id with
  | zero => exact .throw _
  | succ fuel ih =>
    refine Keeps.get.bind fun t => Keeps.ite ?_ (.pure _)
    refine (Keeps.modify fun t => ?_).bind fun _ => keeps_requestAll ih id _
    exact resolves_modifyRecord t id (fun _ => ages_asking) (fun _ hm => ⟨hm.linked, hm.dropped⟩)
      fun _ => rfl

/-- When a search has failed, the modules that never asked are dropped. -/
theorem resolves_dropUnasked (t : ModuleTable) (f : ModuleFault) :
    t.Resolves { t with records := t.records.map fun m =>
      if m.requested.isNone then m.drop f else m } := by
  refine resolves_of_records (fun _ m => if m.requested.isNone then m.drop f else m)
    (fun i => by simp) (fun i m => ?_) (fun i m hm => ?_) fun i m => ?_
  · split_ifs
    · exact ModuleRecord.ages_drop
    · exact .refl m
  · split_ifs
    · exact hm.drop
    · exact hm
  · split_ifs
    · exact ModuleRecord.isLinked_drop
    · rfl

theorem keeps_resolve (id : Nat) : Keeps Resolves (resolve id) := by
  refine Keeps.get.bind fun t => (keeps_resolveFrom _ id).tryCatch fun f => ?_
  exact (Keeps.modify fun t => resolves_dropUnasked t f).bind fun _ => .throw _

/-! ### Linking -/

/-- Linking modules marks them, and that is all. -/
theorem foldl_modifyRecord (order : List Nat) (t : ModuleTable) :
    ∃ rs, order.foldl (fun t m => t.modifyRecord m fun r => { r with isLinked := true }) t =
        { t with records := rs } ∧
      ∀ i, rs[i]? = t.records[i]?.map fun m =>
        if i ∈ order then { m with isLinked := true } else m := by
  induction order generalizing t with
  | nil => exact ⟨t.records, rfl, fun i => by simp⟩
  | cons id order ih =>
    obtain ⟨rs, hfold, hrs⟩ := ih (t.modifyRecord id fun r => { r with isLinked := true })
    refine ⟨rs, hfold, fun i => ?_⟩
    rw [hrs, records_modifyRecord, Option.map_map]
    congr 1
    funext m
    by_cases hi : i = id
    · by_cases ho : id ∈ order <;> simp [hi, ho]
    · simp [hi]

/-- A module that was given up is not linked. -/
theorem fault_of_linkFault? {id : Nat} {m : ModuleRecord} (h : t.linkFault? id = none)
    (hm : t.records[id]? = some m) : m.fault = none := by
  rw [linkFault?, Option.or_eq_none_iff] at h
  simpa [record, Array.getD_eq_getD_getElem?, hm] using h.1

/-- Linking is in order, and changes nothing if it fails. -/
theorem ends_link (id : Nat) (t : ModuleTable) :
    Ends (link id) t fun r t' => t.Serves t' ∧ ((∃ f, r = .error f) → t' = t) := by
  refine .get_bind ?_
  rcases t.linkOrder (t.records.size + 1) ([], []) id with ⟨_, order⟩
  cases hfaults : order.findSome? t.linkFault? with
  | some f =>
    simp only [hfaults]
    refine .throw ?_
    exact ⟨refl_of _ t, fun _ => rfl⟩
  | none =>
    simp only [hfaults]
    refine .modify_bind (.pure ⟨?_, nofun⟩)
    obtain ⟨rs, hfold, hrs⟩ := foldl_modifyRecord order t
    rw [hfold]
    refine serves_of_records _ hrs (fun i m hm => ?_) fun i m hm hsound => ?_
    · split_ifs
      · exact ⟨rfl, rfl, fun _ => rfl, fun _ => rfl, fun h => h⟩
      · exact .refl m
    · split_ifs with hi
      · have hlive := fault_of_linkFault? (List.findSome?_eq_none_iff.1 hfaults i hi) hm
        exact ⟨fun _ => hlive, hsound.dropped⟩
      · exact hsound

theorem keeps_link (id : Nat) : Keeps Serves (link id) :=
  .of_ends fun t => (ends_link id t).mono fun _ _ h => h.1

/-! ### Giving up -/

/-- The module is not linked, if there is one of that number. -/
def Unlinked (id : Nat) (t : ModuleTable) : Prop :=
  ∀ m, t.records[id]? = some m → m.isLinked = false

/-- The module was given up, if there is one of that number. -/
def GivenUp (id : Nat) (t : ModuleTable) : Prop := ∀ m, t.records[id]? = some m → m.fault ≠ none

/-- The outcome of a program that is about one module: `P` holds after a success, and `E` after a
failure. -/
def After (P E : ModuleTable → Prop) : Except ModuleFault α → ModuleTable → Prop
  | .ok _, t => P t
  | .error _, t => E t

theorem Unlinked.of_resolves {id : Nat} {t' : ModuleTable} (h : Unlinked id t)
    (ht : t.Resolves t') : Unlinked id t' := by
  intro m' hm'
  by_contra hl
  obtain ⟨m, hm, hlinked⟩ := ht.2 id m' hm' (by simpa using hl)
  rw [h m hm] at hlinked
  cases hlinked

/-- A program that gives a module up if it fails. -/
theorem ends_giveUp {p : Loading α} {id : Nat} {P : ModuleTable → Prop}
    {g : ModuleFault → ModuleRecord → ModuleRecord}
    (hages : ∀ (f : ModuleFault) (m : ModuleRecord), m.Ages (g f m))
    (hsound : ∀ (f : ModuleFault) (m : ModuleRecord), m.Sound → (g f m).Sound)
    (hdead : ∀ f m, m.isLinked = false → (g f m).fault ≠ none)
    (hp : Ends p t fun r t' => t.Serves t' ∧ (Unlinked id t → After P (Unlinked id) r t')) :
    Ends (tryCatch p fun f => do
      modify fun t => t.modifyRecord id (g f)
      throw f) t fun r t' => t.Serves t' ∧ (Unlinked id t → After P (GivenUp id) r t') := by
  refine Ends.tryCatch hp (fun _ _ h => h) fun f t' ⟨hserves, hafter⟩ => .modify_bind (.throw ?_)
  refine ⟨trans_of Serves hserves (serves_modifyRecord (hages f) (hsound f)), fun hid m' hm' => ?_⟩
  rw [records_modifyRecord, Option.map_eq_some_iff] at hm'
  obtain ⟨m, hm, rfl⟩ := hm'
  rw [if_pos rfl]
  exact hdead f m (hafter hid m hm)

theorem ends_orAbandon {p : Loading α} {id : Nat} {P : ModuleTable → Prop}
    (hp : Ends p t fun r t' => t.Serves t' ∧ (Unlinked id t → After P (Unlinked id) r t')) :
    Ends (p.orAbandon id) t fun r t' => t.Serves t' ∧ (Unlinked id t → After P (GivenUp id) r t') :=
  ends_giveUp (g := fun f m => m.abandon f) (fun _ _ => ModuleRecord.ages_abandon)
    (fun _ _ hm => hm.abandon) (fun _ _ => ModuleRecord.fault_abandon) hp

theorem ends_orDrop {p : Loading α} {id : Nat} {P : ModuleTable → Prop}
    (hp : Ends p t fun r t' => t.Serves t' ∧ (Unlinked id t → After P (Unlinked id) r t')) :
    Ends (p.orDrop id) t fun r t' => t.Serves t' ∧ (Unlinked id t → After P (GivenUp id) r t') :=
  ends_giveUp (g := fun f m => m.drop f) (fun _ _ => ModuleRecord.ages_drop)
    (fun _ _ hm => hm.drop) (fun _ _ => ModuleRecord.fault_drop) hp

/-- Finding what a module asks for does not link it. -/
theorem ends_resolve (id : Nat) (t : ModuleTable) :
    Ends (resolve id) t fun r t' =>
      t.Serves t' ∧ (Unlinked id t → After (Unlinked id) (Unlinked id) r t') := by
  refine ((keeps_resolve id).ends t).mono fun r t' h => ⟨h.1, fun hid => ?_⟩
  cases r with
  | ok _ => exact hid.of_resolves h
  | error _ => exact hid.of_resolves h

/-- A module that cannot be linked is not. -/
theorem ends_link_after (id : Nat) (t : ModuleTable) :
    Ends (link id) t fun r t' =>
      t.Serves t' ∧ (Unlinked id t → After (fun _ => True) (Unlinked id) r t') := by
  refine (ends_link id t).mono fun r t' h => ⟨h.1, fun hid => ?_⟩
  cases r with
  | ok _ => trivial
  | error f =>
    obtain rfl := h.2 ⟨f, rfl⟩
    exact hid

/-! ### Answers -/

/-- **Whatever a script asks of the table keeps it in order.** -/
theorem serves_serve (t : ModuleTable) (c : ModuleCall) : t.Serves (t.serve c).2 := by
  cases c with
  | table => exact refl_of _ t
  | find name =>
    have hfind : Keeps Resolves (do return [← find name] : Loading (List Nat)) :=
      (keeps_find name).bind fun _ => .pure _
    exact (hfind t).1
  | resolve id =>
    have hresolve : Keeps Resolves (do
        resolve id
        return [] : Loading (List Nat)) := (keeps_resolve id).bind fun _ => .pure _
    exact (hresolve t).1
  | link id => exact keeps_link id t
  | start id => exact serves_start t id

end Loading

end ScriptBridge.Script
