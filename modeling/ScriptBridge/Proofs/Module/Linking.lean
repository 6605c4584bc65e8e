import ScriptBridge.Proofs.Module.Search

/-!
# Linking

A module is linked together with all modules that it asks for, as far as they are not linked yet.
The order in which they are linked comes from a depth-first walk (`Walks`), which leaves out none of
those that the first module asks for.

* `ends_link_linked` : **a module that was linked asks for linked modules.**
* `link_of_fault` : a module that was given up is never linked.
* `proceeds_serve` : answers to scripts leave alone what modules have found.
-/

namespace ScriptBridge.Script

namespace ModuleTable

variable {t : ModuleTable} {id : Nat}

/-! ### The order -/

/-- A part of a walk: what is seen in it is done at its end. -/
structure Walks (acc acc' : List Nat × List Nat) : Prop where
  seen : acc.1 ⊆ acc'.1
  order : acc.2 ⊆ acc'.2
  done : ∀ id ∈ acc'.1, id ∈ acc.1 ∨ id ∈ acc'.2

theorem Walks.refl (acc : List Nat × List Nat) : Walks acc acc :=
  ⟨List.Subset.refl _, List.Subset.refl _, fun _ => .inl⟩

theorem Walks.trans {acc acc' acc'' : List Nat × List Nat} (h : Walks acc acc')
    (h' : Walks acc' acc'') : Walks acc acc'' := by
  refine ⟨List.Subset.trans h.seen h'.seen, List.Subset.trans h.order h'.order, fun id hid => ?_⟩
  obtain hid | hid := h'.done id hid
  · exact (h.done id hid).imp_right fun hid => h'.order hid
  · exact .inr hid

variable {f : List Nat × List Nat → Nat → List Nat × List Nat}

theorem walks_foldl (hf : ∀ acc id, Walks acc (f acc id)) (ids : List Nat)
    (acc : List Nat × List Nat) : Walks acc (ids.foldl f acc) := by
  induction ids generalizing acc with
  | nil => exact .refl acc
  | cons id ids ih => exact (hf acc id).trans (ih _)

/-- Walking along a list leaves out none of it. -/
theorem mem_foldl {p : Nat → Prop} (hf : ∀ acc id, Walks acc (f acc id))
    (hseen : ∀ acc id, id ∈ (f acc id).1 ∨ p id) (ids : List Nat) (acc : List Nat × List Nat) :
    ∀ id ∈ ids, id ∈ (ids.foldl f acc).1 ∨ p id := by
  induction ids generalizing acc with
  | nil => exact fun _ => nofun
  | cons id ids ih =>
    rintro i (_ | ⟨_, hi⟩)
    · exact (hseen acc id).imp_left fun h => (walks_foldl hf ids _).seen h
    · exact ih _ i hi

theorem walks_linkOrder (fuel : Nat) (acc : List Nat × List Nat) (id : Nat) :
    Walks acc (t.linkOrder fuel acc id) := by
  induction fuel generalizing acc id with
  | zero => exact .refl acc
  | succ fuel ih =>
    obtain ⟨seen, order⟩ := acc
    rw [linkOrder]
    split_ifs
    · exact .refl _
    · have hbelow := walks_foldl ih ((t.record id).requested.getD []) (id :: seen, order)
      refine ⟨fun i hi => hbelow.seen (List.mem_cons_of_mem id hi), fun i hi =>
        List.mem_append_left _ (hbelow.order hi), fun i hi => ?_⟩
      obtain hi | hi := hbelow.done i hi
      · obtain rfl | hi := List.mem_cons.1 hi
        · exact .inr (List.mem_append_right _ (List.mem_singleton_self i))
        · exact .inl hi
      · exact .inr (List.mem_append_left _ hi)

theorem mem_seen_linkOrder (fuel : Nat) (acc : List Nat × List Nat) (id : Nat) :
    id ∈ (t.linkOrder (fuel + 1) acc id).1 ∨ (t.record id).isLinked = true := by
  obtain ⟨seen, order⟩ := acc
  rw [linkOrder]
  split_ifs with h
  · simpa using h
  · exact .inl ((walks_foldl (walks_linkOrder fuel) _ (id :: seen, order)).seen List.mem_cons_self)

/-- The order has the module that the walk starts from, and all that this one asks for. -/
theorem mem_linkOrder (fuel : Nat) (hid : (t.record id).isLinked = false) :
    id ∈ (t.linkOrder (fuel + 2) ([], []) id).2 ∧
      ∀ i ∈ (t.record id).requested.getD [], i ∈ (t.linkOrder (fuel + 2) ([], []) id).2 ∨
        (t.record i).isLinked = true := by
  rw [linkOrder, if_neg (by simp [hid])]
  have hself (order : List Nat) : id ∈ order ++ [id] :=
    List.mem_append_right _ (List.mem_singleton_self id)
  have hwalks := walks_foldl (walks_linkOrder (t := t) (fuel + 1)) ((t.record id).requested.getD [])
    ([id], [])
  refine ⟨hself _, fun i hi => ?_⟩
  refine (mem_foldl (walks_linkOrder (fuel + 1)) (mem_seen_linkOrder fuel) _
    ([id], []) i hi).imp_left fun hseen => ?_
  obtain hi | hi := hwalks.done i hseen
  · obtain rfl := List.mem_singleton.1 hi
    exact hself _
  · exact List.mem_append_left _ hi

end ModuleTable

namespace Loading

open ModuleTable

variable {t : ModuleTable} {id : Nat} {m : ModuleRecord}

theorem exec_link (id : Nat) (t : ModuleTable) : exec (link id) t =
    match (t.linkOrder (t.records.size + 1) ([], []) id).2.findSome? t.linkFault? with
    | some f => (.error f, t)
    | none => (.ok (t.linkOrder (t.records.size + 1) ([], []) id).2,
        (t.linkOrder (t.records.size + 1) ([], []) id).2.foldl
          (fun t m => t.modifyRecord m fun r => { r with isLinked := true }) t) := by
  rw [link, exec_bind, exec_get]
  dsimp only
  cases (t.linkOrder (t.records.size + 1) ([], []) id).2.findSome? t.linkFault? with
  | none => rfl
  | some f => rfl

/-- A walk from a module that there is has room for two steps. -/
theorem mem_order (hm : t.records[id]? = some m) (hunlinked : m.isLinked = false) :
    id ∈ (t.linkOrder (t.records.size + 1) ([], []) id).2 ∧ ∀ i ∈ m.requested.getD [],
      i ∈ (t.linkOrder (t.records.size + 1) ([], []) id).2 ∨ (t.record i).isLinked = true := by
  obtain ⟨hid, -⟩ := Array.getElem?_eq_some_iff.1 hm
  obtain ⟨n, hn⟩ : ∃ n, t.records.size = n + 1 := Nat.exists_eq_succ_of_ne_zero (by omega)
  rw [hn, ← record_of_getElem? hm]
  exact mem_linkOrder n (record_of_getElem? hm ▸ hunlinked)

/-- A module that was given up is never linked. -/
theorem link_of_fault (ht : t.Sane) (hm : t.records[id]? = some m) (hfault : m.fault ≠ none) :
    ∃ f, exec (link id) t = (.error f, t) := by
  have hunlinked : m.isLinked = false := by
    by_contra h
    exact hfault ((ht.sound hm).linked (by simpa using h))
  rw [exec_link]
  cases h : (t.linkOrder (t.records.size + 1) ([], []) id).2.findSome? t.linkFault? with
  | some f => exact ⟨f, rfl⟩
  | none =>
    have hnone := List.findSome?_eq_none_iff.1 h id (mem_order hm hunlinked).1
    exact absurd (fault_of_linkFault? hnone hm) hfault

theorem keeps_link_proceeds (id : Nat) : Keeps (Proceeds ∅) (link id) := by
  intro t
  have hserves := keeps_link id t
  rw [exec_link] at hserves ⊢
  cases h : (t.linkOrder (t.records.size + 1) ([], []) id).2.findSome? t.linkFault? with
  | some f => exact refl_of (Proceeds ∅) t
  | none =>
    simp only [h] at hserves ⊢
    obtain ⟨rs, hfold, hrs⟩ := foldl_modifyRecord (t.linkOrder (t.records.size + 1) ([], []) id).2 t
    rw [hfold] at hserves ⊢
    refine proceeds_of_records _ hrs hserves (fun i m => ?_) (fun i m => ?_) fun i m _ => ?_
    · split_ifs
      · exact ⟨rfl, rfl, fun _ => rfl, fun _ => rfl, fun h => h⟩
      · exact .refl m
    all_goals split_ifs <;> rfl

/-- **A module that was linked asks for linked modules.** -/
theorem ends_link_linked (hm : t.records[id]? = some m) (hunlinked : m.isLinked = false) :
    Ends (link id) t fun r t' => (∃ order, r = .ok order) →
      (∃ m', t'.records[id]? = some m' ∧ m'.isLinked = true) ∧
        ∀ i ∈ m.requested.getD [], ∀ n, t'.records[i]? = some n → n.isLinked = true := by
  obtain ⟨hself, hbelow⟩ := mem_order hm hunlinked
  unfold Ends
  rw [exec_link]
  cases h : (t.linkOrder (t.records.size + 1) ([], []) id).2.findSome? t.linkFault? with
  | some f =>
    rintro ⟨_, ⟨⟩⟩
  | none =>
    rintro -
    obtain ⟨rs, hfold, hrs⟩ := foldl_modifyRecord (t.linkOrder (t.records.size + 1) ([], []) id).2 t
    simp only [hfold]
    refine ⟨⟨_, by rw [hrs, hm, Option.map_some, if_pos hself], rfl⟩, fun i hi n hn => ?_⟩
    rw [hrs, Option.map_eq_some_iff] at hn
    obtain ⟨m₀, hm₀, rfl⟩ := hn
    obtain hi | hi := hbelow i hi
    · rw [if_pos hi]
    · rw [record_of_getElem? hm₀] at hi
      split_ifs
      · rfl
      · exact hi

/-! ### Answers and failures -/

theorem keeps_find_proceeds (name : String) : Keeps (Proceeds ∅) (find name) :=
  .of_ends fun t => (ends_find name t).mono fun _ _ h => h.1

theorem keeps_resolve_proceeds (id : Nat) : Keeps (Proceeds ∅) (resolve id) :=
  .of_ends fun t => (ends_resolve_asked id t).mono fun _ _ h => h.1

/-- What a script asks of the table leaves alone what modules have found. -/
theorem proceeds_serve (t : ModuleTable) (c : ModuleCall) : t.Proceeds ∅ (t.serve c).2 := by
  cases c with
  | table => exact refl_of _ t
  | find name =>
    have hfind : Keeps (Proceeds ∅) (do return [← find name] : Loading (List Nat)) :=
      (keeps_find_proceeds name).bind fun _ => .pure _
    exact hfind t
  | resolve id =>
    have hresolve : Keeps (Proceeds ∅) (do
        resolve id
        return [] : Loading (List Nat)) := (keeps_resolve_proceeds id).bind fun _ => .pure _
    exact hresolve t
  | link id => exact keeps_link_proceeds id t
  | start id =>
    have hserves := serves_start t id
    have hrecords : (t.start id).2.records = t.records := by
      unfold start
      split_ifs
      all_goals rfl
    have himported : (t.start id).2.imported = t.imported := by
      unfold start
      split_ifs
      all_goals rfl
    refine ⟨hserves, fun i m hm hasked => ⟨m, hrecords ▸ hm, hasked, rfl, fun _ => rfl⟩,
      fun _ hs => ⟨fun i m place found hm hfound => ?_, fun name hname => ?_⟩⟩
    · exact (hs.found i m place found (hrecords ▸ hm) hfound).of_extends (.refl m) hserves.grown
    · exact (hs.imported name (himported ▸ hname)).of_extends hserves.grown

/-! ### The stages of a new module -/

/-- A module of the name that has asked for nothing yet. -/
def IsNew (id : Nat) (name : String) (t : ModuleTable) : Prop :=
  ∃ m, t.records[id]? = some m ∧ m.name = name ∧ m.requested = none ∧ m.isLinked = false ∧
    m.isDropped = false

/-- A module of the name that has found all that it asks for, and is not linked yet. -/
def IsFound (id : Nat) (name : String) (t : ModuleTable) : Prop :=
  ∃ m, t.records[id]? = some m ∧ m.name = name ∧ m.IsWhole ∧ m.isLinked = false ∧
    m.isDropped = false

/-- A module of the name that is linked, with all that it asks for. -/
def IsLinked (id : Nat) (name : String) (t : ModuleTable) : Prop :=
  ∃ m, t.records[id]? = some m ∧ m.name = name ∧ m.IsWhole ∧ m.isLinked = true ∧
    ∀ i ∈ m.requested.getD [], ∀ n, t.records[i]? = some n → n.isLinked = true

/-- A module of the name that was given up after it had asked for others.  Its name stays taken. -/
def IsDead (id : Nat) (name : String) (t : ModuleTable) : Prop :=
  ∃ m, t.records[id]? = some m ∧ m.name = name ∧ m.fault ≠ none ∧ m.requested ≠ none ∧
    m.isDropped = false

theorem IsDead.of_steady {t' : ModuleTable} {name : String} (h : IsDead id name t)
    (hgrown : t.Extends t') (hsteady : t.Steady ∅ t') : IsDead id name t' := by
  obtain ⟨m, hm, hname, hfault, hasked, hdropped⟩ := h
  obtain ⟨m', hm', hages⟩ := hgrown.records hm
  obtain ⟨n, hn, hasked', hdropped', -⟩ := hsteady id m hm hasked
  obtain rfl : n = m' := Option.some.inj (hn.symm.trans hm')
  exact ⟨n, hn, hages.name.trans hname, by rwa [hages.fault hfault], hasked',
    hdropped'.trans hdropped⟩

/-- Giving a module up leaves alone what it has found. -/
theorem proceeds_abandon (id : Nat) (f : ModuleFault) (t : ModuleTable) :
    t.Proceeds ∅ (t.modifyRecord id (·.abandon f)) := by
  refine proceeds_of_records (fun i m => if i = id then m.abandon f else m)
    (records_modifyRecord t id _) ?_ (fun i m => ?_) (fun i m => ?_) fun i m _ => ?_
  · exact serves_modifyRecord (fun _ => ModuleRecord.ages_abandon) fun _ hm => hm.abandon
  · split_ifs
    · exact ModuleRecord.ages_abandon
    · exact .refl m
  · split_ifs
    · exact ModuleRecord.requested_abandon
    · rfl
  · split_ifs
    · exact ModuleRecord.isDropped_abandon
    · rfl

/-- A module that had asked for nothing may be dropped. -/
theorem proceeds_drop {t' : ModuleTable} (h : t.Proceeds ∅ t') (hm : t.records[id]? = some m)
    (hnone : m.requested = none) (f : ModuleFault) :
    t.Proceeds ∅ (t'.modifyRecord id (·.drop f)) := by
  have hserves : t'.Serves (t'.modifyRecord id (·.drop f)) :=
    serves_modifyRecord (fun _ => ModuleRecord.ages_drop) fun _ hm => hm.drop
  refine ⟨trans_of Serves h.toServes hserves, fun i n hn hasked => ?_, fun hnamed hs => ?_⟩
  · have hi : i ≠ id := by
      rintro rfl
      obtain rfl : n = m := Option.some.inj (hn.symm.trans hm)
      exact hasked hnone
    obtain ⟨n', hn', hsteady⟩ := h.steady i n hn hasked
    exact ⟨n', by rw [records_modifyRecord, hn', Option.map_some, if_neg hi], hsteady⟩
  · have hs' := h.searched hnamed hs
    refine hs'.modifyRecord (fun _ => ModuleRecord.ages_drop) hserves.grown
      fun n place found hn hfound => ?_
    rw [ModuleRecord.requested_drop] at hfound
    exact hs'.found id n place found hn hfound

/-- A module that is given up after it has asked for others is dead. -/
theorem isDead_abandon {name : String} (f : ModuleFault) (hm : t.records[id]? = some m)
    (hname : m.name = name) (hunlinked : m.isLinked = false) (hasked : m.requested ≠ none)
    (hdropped : m.isDropped = false) : IsDead id name (t.modifyRecord id (·.abandon f)) := by
  refine ⟨m.abandon f, by rw [records_modifyRecord, hm, Option.map_some, if_pos rfl], ?_⟩
  exact ⟨ModuleRecord.ages_abandon.name.trans hname, ModuleRecord.fault_abandon hunlinked,
    by rwa [ModuleRecord.requested_abandon], ModuleRecord.isDropped_abandon.trans hdropped⟩

/-- Whatever becomes of the search of a new module, it has asked then and is still there. -/
theorem ends_resolve_new {name : String} (h : IsNew id name t) :
    Ends (resolve id) t fun r t' => t.Proceeds ∅ t' ∧ ∃ m, t'.records[id]? = some m ∧
      m.name = name ∧ m.requested ≠ none ∧ m.isLinked = false ∧ m.isDropped = false ∧
        ((∃ a, r = .ok a) → m.IsWhole) := by
  obtain ⟨m, hm, hname, hnone, hunlinked, hdropped⟩ := h
  refine ((ends_resolve_asked id t).and (ends_resolve id t)).mono ?_
  rintro r t' ⟨⟨hproceeds, hasked, hdone⟩, -, hafter⟩
  obtain ⟨m', hm', hasked', hdropped'⟩ := hasked m hm
  obtain ⟨n, hn, hages⟩ := hproceeds.grown.records hm
  obtain rfl : n = m' := Option.some.inj (hn.symm.trans hm')
  have hunlinked' : n.isLinked = false := by
    have hid := hafter fun m₀ hm₀ => by
      obtain rfl : m = m₀ := Option.some.inj (hm.symm.trans hm₀)
      exact hunlinked
    cases r with
    | ok _ => exact hid n hn
    | error _ => exact hid n hn
  refine ⟨hproceeds, n, hn, hages.name.trans hname, hasked', hunlinked', hdropped'.trans hdropped,
    fun hr => ?_⟩
  obtain ⟨l, hl, hrest⟩ := hdone hr (record_of_getElem? hm ▸ hnone) n hn
  exact ⟨l, hl, List.drop_eq_nil_iff.1 hrest⟩

theorem ends_resolve_orAbandon {name : String} (h : IsNew id name t) :
    Ends ((resolve id).orAbandon id) t fun r t' =>
      t.Proceeds ∅ t' ∧ After (IsFound id name) (IsDead id name) r t' := by
  refine (ends_resolve_new h).tryCatch ?_ ?_
  · rintro a t' ⟨hproceeds, m, hm, hname, -, hunlinked, hdropped, hwhole⟩
    exact ⟨hproceeds, m, hm, hname, hwhole ⟨a, rfl⟩, hunlinked, hdropped⟩
  · rintro f t' ⟨hproceeds, m, hm, hname, hasked, hunlinked, hdropped, -⟩
    refine .modify_bind (.throw ⟨trans_of (Proceeds ∅) hproceeds (proceeds_abandon id f t'), ?_⟩)
    exact isDead_abandon f hm hname hunlinked hasked hdropped

/-- A search that fails may also free the name of the module. -/
theorem ends_resolve_orDrop {name : String} (h : IsNew id name t) :
    Ends ((resolve id).orDrop id) t fun r t' =>
      t.Proceeds ∅ t' ∧ After (IsFound id name) (fun _ => True) r t' := by
  refine (ends_resolve_new h).tryCatch ?_ ?_
  · rintro a t' ⟨hproceeds, m, hm, hname, -, hunlinked, hdropped, hwhole⟩
    exact ⟨hproceeds, m, hm, hname, hwhole ⟨a, rfl⟩, hunlinked, hdropped⟩
  · rintro f t' ⟨hproceeds, -⟩
    obtain ⟨m, hm, -, hnone, -⟩ := h
    exact .modify_bind (.throw ⟨proceeds_drop hproceeds hm hnone f, trivial⟩)

theorem ends_link_orAbandon {name : String} (h : IsFound id name t) :
    Ends ((link id).orAbandon id) t fun r t' =>
      t.Proceeds ∅ t' ∧ After (IsLinked id name) (IsDead id name) r t' := by
  obtain ⟨m, hm, hname, hwhole, hunlinked, hdropped⟩ := h
  have hasked : m.requested ≠ none := by
    obtain ⟨l, hl, -⟩ := hwhole
    simp [hl]
  refine (((keeps_link_proceeds id).ends t).and ((ends_link_linked hm hunlinked).and
    (ends_link id t))).tryCatch ?_ ?_
  · rintro order t' ⟨hproceeds, hlinked, -⟩
    obtain ⟨⟨m', hm', hlinked'⟩, hbelow⟩ := hlinked ⟨order, rfl⟩
    obtain ⟨n, hn, hages⟩ := hproceeds.grown.records hm
    obtain rfl : n = m' := Option.some.inj (hn.symm.trans hm')
    obtain ⟨n', hn', -, -, hsame⟩ := hproceeds.steady id m hm hasked
    obtain rfl : n' = n := Option.some.inj (hn'.symm.trans hn)
    have hrequested : n'.requested = m.requested := hsame (Set.notMem_empty id)
    obtain ⟨l, hl, hlength⟩ := hwhole
    refine ⟨hproceeds, n', hn, hages.name.trans hname, ⟨l, hrequested.trans hl, ?_⟩, hlinked', ?_⟩
    · rwa [hages.program]
    · rwa [hrequested]
  · rintro f t' ⟨-, -, -, hsame⟩
    obtain rfl := hsame ⟨f, rfl⟩
    refine .modify_bind (.throw ⟨proceeds_abandon id f t', ?_⟩)
    exact isDead_abandon f hm hname hunlinked hasked hdropped

end Loading

end ScriptBridge.Script
