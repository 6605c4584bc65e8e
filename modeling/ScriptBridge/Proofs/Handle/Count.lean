import Mathlib.Data.List.Count
import ScriptBridge.Proofs.Handle.Invariant

/-!
# The number of live values

A table counts what it keeps (`HandleTable.Counted`): its number is the number of its full slots.
This holds of every table, however many slots it has.

* `Counted.insert`, `Counted.release?` : **one more with an insertion, one less with a release**,
  and the number never runs below zero.
* `Counted.hasRoom` : as long as fewer than `2 ^ 32` values are kept there is an index for one more,
  for a slot is added only where none is empty.
* `Counted.get?_of_insert` : whatever names something after an insertion is the new handle, or named
  it before.
-/

namespace ScriptBridge

namespace HandleTable

variable {α : Type} {t t' : HandleTable α} {h : Handle} {v : α}

/-- Whether a slot has a value. -/
def isFull (s : Slot α) : Bool := s.value.isSome

/-- The free list has every empty slot once, and the number is that of the full slots. -/
structure Counted (t : HandleTable α) : Prop extends Listed t where
  size_eq : t.size = t.slots.countP isFull

theorem Counted.empty (tag : UInt16) : (empty tag : HandleTable α).Counted where
  toListed := .empty tag
  size_eq := rfl

/-- An insertion counts one more. -/
theorem Counted.size_insert (hc : t.Counted) : (t.insert v).2.size = t.size + 1 := by
  cases hfree : t.free with
  | cons i free => exact (hc.insert_slots fun hnil => by simp [hfree] at hnil).2.2.2
  | nil =>
    simp only [HandleTable.insert, hfree]
    rfl

theorem Counted.insert (hc : t.Counted) : (t.insert v).2.Counted where
  toListed := hc.toListed.insert
  size_eq := by
    rw [hc.size_insert, hc.size_eq]
    cases hfree : t.free with
    | cons i free =>
      -- the slot was empty, and is full now
      obtain ⟨g, hslot⟩ := (hc.mem_free i).1 (by rw [hfree]; exact List.mem_cons_self)
      obtain ⟨hi, hslot'⟩ := Array.getElem?_eq_some_iff.1 hslot
      have hfilled :
          t.slots.setIfInBounds i.toNat ⟨g, some v⟩ = t.slots.set i.toNat ⟨g, some v⟩ hi :=
        dif_pos hi
      simp only [HandleTable.insert, hfree, hslot, hfilled]
      rw [Array.countP_set, hslot']
      simp [isFull]
    | nil =>
      simp only [HandleTable.insert, hfree, Array.countP_push]
      simp [isFull]

/-- A handle that names a value was counted, and its release counts it out. -/
theorem Counted.size_release? (hc : t.Counted) (hr : t.release? h = some t') :
    t'.size + 1 = t.size ∧ t'.size = t'.slots.countP isFull := by
  obtain ⟨hcontains, -, -, -, -, hlive⟩ := release?_eq_some hr
  obtain ⟨v, hv⟩ := contains_iff.1 hcontains
  obtain ⟨-, hslot⟩ := get?_eq_some_iff.1 hv
  obtain ⟨hi, hslot'⟩ := Array.getElem?_eq_some_iff.1 hslot
  have hpos : 0 < t.slots.countP isFull :=
    Array.countP_pos_iff.2 ⟨_, Array.getElem_mem hi, by rw [hslot']; rfl⟩
  have hemptied : t'.slots.countP isFull = t.slots.countP isFull - 1 := by
    unfold HandleTable.release? at hr
    rw [if_pos hcontains] at hr
    cases hr
    have hmodify : t.slots.modify h.index.toNat (fun slot => ⟨slot.generation + 1, none⟩) =
        t.slots.set h.index.toNat ⟨h.generation + 1, none⟩ hi := by
      ext j hj hj'
      · simp
      · simp only [Array.getElem_modify, Array.getElem_set]
        split_ifs with hij
        · subst hij
          rw [hslot']
        · rfl
    simp only [hmodify]
    rw [Array.countP_set, hslot']
    simp [isFull]
  have hsize : t'.size = t.size - 1 := hlive
  have hcount : t.size = t.slots.countP isFull := hc.size_eq
  omega

theorem Counted.release? (hc : t.Counted) (hr : t.release? h = some t') : t'.Counted where
  toListed := hc.toListed.release? hr
  size_eq := (hc.size_release? hr).2

/-- Where no slot can be reused all slots are full, so the number of values is that of the slots. -/
theorem Counted.hasRoom (hc : t.Counted) (hsize : t.size < 2 ^ 32) : t.HasRoom := by
  intro hfree
  by_contra hmany
  -- the first `2 ^ 32` slots have an index each, so none of them is empty
  have hfull : ∀ s ∈ t.slots.toList.take (2 ^ 32), isFull s = true := by
    intro s hs
    obtain ⟨i, hi, rfl⟩ := List.mem_take_iff_getElem.1 hs
    have hi' : i < 2 ^ 32 := by omega
    by_contra hempty
    have hslot : t.slots[(UInt32.ofNat i).toNat]? = some ⟨t.slots.toList[i].generation, none⟩ := by
      rw [UInt32.toNat_ofNat_of_lt' hi', Array.getElem?_eq_some_iff]
      refine ⟨by simpa using (Nat.lt_min.1 hi).2, ?_⟩
      rw [← Array.getElem_toList]
      cases hs : t.slots.toList[i] with
      | mk g v =>
        rw [hs] at hempty
        cases v with
        | none => rfl
        | some v => exact absurd rfl hempty
    have hmem := (hc.mem_free (UInt32.ofNat i)).2 ⟨_, hslot⟩
    simp [hfree] at hmem
  have hcount : (t.slots.toList.take (2 ^ 32)).countP isFull = 2 ^ 32 := by
    rw [List.countP_eq_length.2 hfull, List.length_take, Array.length_toList]
    omega
  have hle := (List.take_sublist (2 ^ 32) t.slots.toList).countP_le (p := isFull)
  rw [hcount, Array.countP_toList, ← hc.size_eq] at hle
  omega

/-- Only the new handle names what no handle named before, even where there is no index for it. -/
theorem Counted.get?_of_insert (hc : t.Counted) {g : Handle} {w : α}
    (h : (t.insert v).2.get? g = some w) : g = (t.insert v).1 ∨ t.get? g = some w := by
  by_cases hroom : t.HasRoom
  · rw [hc.get?_insert hroom] at h
    split_ifs at h with hg
    · exact .inl hg
    · exact .inr h
  · -- the new slot is behind all that an index can name
    obtain ⟨hfree, hsize⟩ : t.free = [] ∧ ¬ t.slots.size < 2 ^ 32 := Classical.not_imp.1 hroom
    have hindex : g.index.toNat < t.slots.size := by
      have hlt := g.index.toNat_lt
      omega
    have hslot : (t.insert v).2.slots[g.index.toNat]? = t.slots[g.index.toNat]? := by
      simp only [HandleTable.insert, hfree]
      rw [Array.getElem?_push_lt hindex, Array.getElem?_eq_getElem hindex]
    rw [get?_congr insert_tag hslot] at h
    exact .inr h

end HandleTable

end ScriptBridge
