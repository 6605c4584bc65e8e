import Mathlib.Tactic.SplitIfs
import ScriptBridge.Handle.Table
import ScriptBridge.Proofs.Handle.Word

/-!
# The invariant of a table of values

The free list of a table names every empty slot, and each of them once (`HandleTable.Listed`); the
table is well formed if besides each slot has an index.  Both operations change one slot only:

* `Listed.insert_slots`, `release?_eq_some` : the slots after a step, and the slot that changed.
* `Listed.insert`, `Listed.release?` : **the invariant is preserved**, also when a generation wraps
  round to one that was used before.
* `Listed.get?_insert`, `get?_release?` : what a handle names after a step.
-/

namespace ScriptBridge

namespace HandleTable

variable {α : Type} {t t' : HandleTable α} {h : Handle} {v : α}

/-- The free list has every empty slot once. -/
structure Listed (t : HandleTable α) : Prop where
  /-- No slot is reused twice. -/
  free_nodup : t.free.Nodup
  /-- The slots to reuse are the empty ones. -/
  mem_free : ∀ i : UInt32, i ∈ t.free ↔ ∃ g, t.slots[i.toNat]? = some ⟨g, none⟩

/-- There is a slot to reuse, or an index for a new one. -/
def HasRoom (t : HandleTable α) : Prop := t.free = [] → t.slots.size < 2 ^ 32

/-- The free list has every empty slot once, and the indices fit into a handle. -/
structure WellFormed (t : HandleTable α) : Prop where
  /-- There is an index for every slot. -/
  small : t.slots.size ≤ 2 ^ 32
  /-- No slot is reused twice. -/
  free_nodup : t.free.Nodup
  /-- The slots to reuse are the empty ones. -/
  mem_free : ∀ i : UInt32, i ∈ t.free ↔ ∃ g, t.slots[i.toNat]? = some ⟨g, none⟩

theorem WellFormed.listed (hw : t.WellFormed) : t.Listed := ⟨hw.free_nodup, hw.mem_free⟩

theorem Listed.wellFormed (hl : t.Listed) (hsize : t.slots.size ≤ 2 ^ 32) : t.WellFormed :=
  ⟨hsize, hl.free_nodup, hl.mem_free⟩

theorem get?_eq_some_iff : t.get? h = some v ↔
    h.tag = t.tag ∧ t.slots[h.index.toNat]? = some ⟨h.generation, some v⟩ := by
  unfold get?
  split_ifs with htag
  · cases hs : t.slots[h.index.toNat]? with
    | none => simp
    | some slot =>
      obtain ⟨g, w⟩ := slot
      simp only [htag, true_and, Option.some.injEq, Slot.mk.injEq]
      split_ifs with hg
      · simp [hg]
      · simp [hg]
  · simp [htag]

theorem contains_iff : t.contains h = true ↔ ∃ v, t.get? h = some v := by
  rw [contains, Option.isSome_iff_exists]

/-- Nothing is kept at an index where there is no value. -/
theorem get?_eq_none_of_slot (hs : ∀ g v, t.slots[h.index.toNat]? ≠ some ⟨g, some v⟩) :
    t.get? h = none := by
  rw [Option.eq_none_iff_forall_ne_some]
  intro v hv
  exact hs _ _ (get?_eq_some_iff.1 hv).2

/-- Tables that agree on the slot of a handle agree on what it names. -/
theorem get?_congr (htag : t'.tag = t.tag)
    (hs : t'.slots[h.index.toNat]? = t.slots[h.index.toNat]?) : t'.get? h = t.get? h := by
  simp only [get?, htag, hs]

theorem Listed.empty (tag : UInt16) : (empty tag : HandleTable α).Listed where
  free_nodup := List.nodup_nil
  mem_free i := by simp [HandleTable.empty]

theorem WellFormed.empty (tag : UInt16) : (empty tag : HandleTable α).WellFormed :=
  (Listed.empty tag).wellFormed (by simp [HandleTable.empty])

/-! ### Insertion -/

@[simp] theorem insert_tag : (t.insert v).2.tag = t.tag := by
  unfold HandleTable.insert
  split
  · split <;> rfl
  · rfl

/-- The index of a slot that is added. -/
theorem toNat_toUInt32_size (hsize : t.slots.size < 2 ^ 32) :
    t.slots.size.toUInt32.toNat = t.slots.size := by
  simp only [Nat.toUInt32_eq, UInt32.toNat_ofNat']
  omega

/-- There is room for what was inserted. -/
theorem hasRoom_of_insert (hsize : (t.insert v).2.slots.size ≤ 2 ^ 32) : t.HasRoom := by
  intro hfree
  simp only [HandleTable.insert, hfree, Array.size_push] at hsize
  exact hsize

/-- What an insertion does: it fills the slot that the new handle names, and that slot was empty
or is new. -/
theorem Listed.insert_slots (hl : t.Listed) (hroom : t.HasRoom) :
    (t.insert v).1.tag = t.tag ∧
    (∀ g w, t.slots[(t.insert v).1.index.toNat]? ≠ some ⟨g, some w⟩) ∧
    (∀ i, (t.insert v).2.slots[i]? =
      if i = (t.insert v).1.index.toNat then some ⟨(t.insert v).1.generation, some v⟩
      else t.slots[i]?) ∧
    (t.insert v).2.size = t.size + 1 := by
  cases hfree : t.free with
  | cons i free =>
    -- a slot that was released is taken, in the generation that it has come to
    obtain ⟨g, hslot⟩ := (hl.mem_free i).1 (by rw [hfree]; exact List.mem_cons_self)
    have hi : i.toNat < t.slots.size := (Array.getElem?_eq_some_iff.1 hslot).1
    have hins : t.insert v = (.make t.tag g i,
        { t with
          slots := t.slots.setIfInBounds i.toNat ⟨g, some v⟩, free, live := t.live + 1 }) := by
      simp only [insert, hfree, hslot]
    rw [hins]
    refine ⟨Handle.tag_make .., ?_, ?_, rfl⟩
    · intro g' w hw'
      rw [Handle.index_make, hslot] at hw'
      cases hw'
    · intro j
      rw [Handle.index_make, Handle.generation_make]
      split_ifs with hj
      · rw [hj, Array.getElem?_setIfInBounds_self_of_lt hi]
      · exact Array.getElem?_setIfInBounds_ne fun hij => hj hij.symm
  | nil =>
    -- there is none, and a new slot starts with generation 1
    have hins : t.insert v = (.make t.tag 1 t.slots.size.toUInt32,
        { t with slots := t.slots.push ⟨1, some v⟩, live := t.live + 1 }) := by
      simp only [insert, hfree]
    rw [hins]
    have hidx := toNat_toUInt32_size (hroom hfree)
    refine ⟨Handle.tag_make .., ?_, ?_, rfl⟩
    · intro g' w hw'
      rw [Handle.index_make, hidx, Array.getElem?_size] at hw'
      cases hw'
    · intro j
      simp only [Handle.index_make, Handle.generation_make, hidx, Array.getElem?_push]

/-- A new handle names the new value, and the other handles name what they did. -/
theorem Listed.get?_insert (hl : t.Listed) (hroom : t.HasRoom) (g : Handle) :
    (t.insert v).2.get? g = if g = (t.insert v).1 then some v else t.get? g := by
  obtain ⟨htag, hvacant, hslots, -⟩ := hl.insert_slots (v := v) hroom
  split_ifs with hg
  · rw [get?_eq_some_iff, hg, insert_tag, hslots, if_pos rfl]
    exact ⟨htag, rfl⟩
  by_cases hi : g.index.toNat = (t.insert v).1.index.toNat
  · -- the handle names the slot that was filled, but is not the new one
    have hold : t.get? g = none := get?_eq_none_of_slot (by rw [hi]; exact hvacant)
    rw [hold, Option.eq_none_iff_forall_ne_some]
    intro w hw'
    obtain ⟨hgtag, hgslot⟩ := get?_eq_some_iff.1 hw'
    rw [hslots, if_pos hi, Option.some.injEq, Slot.mk.injEq] at hgslot
    rw [insert_tag] at hgtag
    exact hg (Handle.ext_parts (hgtag.trans htag.symm) hgslot.1.symm (UInt32.toNat_inj.1 hi))
  · exact get?_congr insert_tag (by rw [hslots, if_neg hi])

/-- The handle that an insertion gives out named nothing before. -/
theorem Listed.get?_insert_fresh (hl : t.Listed) (hroom : t.HasRoom) :
    t.get? (t.insert v).1 = none :=
  get?_eq_none_of_slot (hl.insert_slots hroom).2.1

/-- Insertion takes the filled slot off the free list, or adds one when there is none to reuse. -/
theorem Listed.insert_free (hl : t.Listed) :
    t.free = (t.insert v).1.index :: (t.insert v).2.free ∨
      (t.free = [] ∧ (t.insert v).2.free = []) := by
  cases hfree : t.free with
  | cons i free =>
    obtain ⟨g, hslot⟩ := (hl.mem_free i).1 (by rw [hfree]; exact List.mem_cons_self)
    simp [HandleTable.insert, hfree, hslot]
  | nil =>
    simp [HandleTable.insert, hfree]

/-- The invariant does not need room: a slot that no handle can name is full for good. -/
theorem Listed.insert (hl : t.Listed) : (t.insert v).2.Listed := by
  cases hfree : t.free with
  | cons i free =>
    have hroom : t.HasRoom := fun hnil => by simp [hfree] at hnil
    obtain ⟨-, -, hslots, -⟩ := hl.insert_slots (v := v) hroom
    obtain hcons | ⟨hnil, -⟩ := hl.insert_free (v := v)
    · have hnodup := hl.free_nodup
      rw [hcons, List.nodup_cons] at hnodup
      refine ⟨hnodup.2, fun j => ?_⟩
      rw [hslots]
      by_cases hj : j = (t.insert v).1.index
      · simp [hj, hnodup.1]
      · rw [if_neg fun hn => hj (UInt32.toNat_inj.1 hn), ← hl.mem_free, hcons, List.mem_cons]
        simp [hj]
    · simp [hfree] at hnil
  | nil =>
    have hins : (t.insert v).2 =
        { t with slots := t.slots.push ⟨1, some v⟩, live := t.live + 1 } := by
      simp only [HandleTable.insert, hfree]
    rw [hins]
    refine ⟨hl.free_nodup, fun j => ?_⟩
    rw [hl.mem_free, Array.getElem?_push]
    split_ifs with hj
    · rw [hj, Array.getElem?_size]
      simp
    · rfl

theorem WellFormed.insert (hw : t.WellFormed) (hsize : (t.insert v).2.slots.size ≤ 2 ^ 32) :
    (t.insert v).2.WellFormed :=
  hw.listed.insert.wellFormed hsize

/-! ### Release -/

/-- What a release does: it empties the slot that the handle names. -/
theorem release?_eq_some (hr : t.release? h = some t') :
    t.contains h = true ∧
    (∀ i, t'.slots[i]? =
      if i = h.index.toNat then some ⟨h.generation + 1, none⟩ else t.slots[i]?) ∧
    t'.slots.size = t.slots.size ∧
    t'.tag = t.tag ∧ t'.free = h.index :: t.free ∧ t'.live = t.live - 1 := by
  unfold HandleTable.release? at hr
  split_ifs at hr with hc
  cases hr
  refine ⟨hc, ?_, Array.size_modify, rfl, rfl, rfl⟩
  intro i
  obtain ⟨v, hv⟩ := contains_iff.1 hc
  obtain ⟨-, hslot⟩ := get?_eq_some_iff.1 hv
  rw [Array.getElem?_modify]
  split_ifs with hi hi' hi'
  · rw [← hi, hslot, Option.map_some]
  · exact absurd hi.symm hi'
  · exact absurd hi'.symm hi
  · rfl

/-- A handle is released exactly when it names a value. -/
theorem release?_isSome : (t.release? h).isSome = t.contains h := by
  unfold HandleTable.release?
  split_ifs with hc
  · rw [hc, Option.isSome_some]
  · rw [Option.isSome_none, Bool.eq_false_iff.2 hc]

/-- A released handle names nothing, and the other handles name what they did. -/
theorem get?_release? (hr : t.release? h = some t') (g : Handle) :
    t'.get? g = if g = h then none else t.get? g := by
  obtain ⟨hc, hslots, -, htag, -⟩ := release?_eq_some hr
  by_cases hi : g.index.toNat = h.index.toNat
  · have hnone : t'.get? g = none := by
      apply get?_eq_none_of_slot
      intro g' w hw
      rw [hslots, if_pos hi] at hw
      cases hw
    rw [hnone]
    split_ifs with hg
    · rfl
    -- one slot has one generation, so at most one handle to it names a value
    obtain ⟨v, hv⟩ := contains_iff.1 hc
    obtain ⟨hht, hhs⟩ := get?_eq_some_iff.1 hv
    symm
    rw [Option.eq_none_iff_forall_ne_some]
    intro w hw
    obtain ⟨hgt, hgs⟩ := get?_eq_some_iff.1 hw
    rw [hi, hhs, Option.some.injEq, Slot.mk.injEq] at hgs
    exact hg (Handle.ext_parts (hgt.trans hht.symm) hgs.1.symm (UInt32.toNat_inj.1 hi))
  · rw [if_neg fun hg => hi (by rw [hg])]
    exact get?_congr htag (by rw [hslots, if_neg hi])

theorem Listed.release? (hl : t.Listed) (hr : t.release? h = some t') : t'.Listed := by
  obtain ⟨hc, hslots, -, -, hfree, -⟩ := release?_eq_some hr
  obtain ⟨v, hv⟩ := contains_iff.1 hc
  obtain ⟨-, hslot⟩ := get?_eq_some_iff.1 hv
  refine ⟨?_, ?_⟩
  · rw [hfree, List.nodup_cons]
    refine ⟨fun hmem => ?_, hl.free_nodup⟩
    obtain ⟨g, hg⟩ := (hl.mem_free _).1 hmem
    rw [hslot] at hg
    cases hg
  · intro i
    rw [hfree, List.mem_cons, hslots, hl.mem_free]
    by_cases hi : i = h.index
    · simp [hi]
    · rw [if_neg fun hn => hi (UInt32.toNat_inj.1 hn)]
      simp [hi]

theorem WellFormed.release? (hw : t.WellFormed) (hr : t.release? h = some t') :
    t'.WellFormed := by
  have hsize : t'.slots.size = t.slots.size := (release?_eq_some hr).2.2.1
  exact (hw.listed.release? hr).wellFormed (hsize ▸ hw.small)

end HandleTable

end ScriptBridge
