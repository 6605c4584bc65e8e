import Mathlib.Data.Finmap
import ScriptBridge.Proofs.Handle.Invariant

/-!
# A table of values is a finite map

What a host sees of a table is a finite map from handles to values.  `Represents t M` says that
the table `t` answers as the map `M` does; `MapStep` is what an operation may do to the map.

* `Represents.step` : one operation of the table is one step of the map.
* `refines_finite_map` : **every run is a run of a finite map**: at each step the table answers
  as the map does, a new handle is one that the map does not have, and a release takes away the
  released handle only.
-/

namespace ScriptBridge

namespace HandleTable

variable {α : Type}

/-- What a host does to a table. -/
inductive Operation (α : Type)
  | insert (v : α)
  | release (h : Handle)

/-- What the table answers. -/
inductive Answer
  | handle (h : Handle)
  | released (done : Bool)
deriving DecidableEq, Repr

/-- One operation: the answer, and the table after it. -/
def step (t : HandleTable α) : Operation α → Answer × HandleTable α
  | .insert v => (.handle (t.insert v).1, (t.insert v).2)
  | .release h =>
    match t.release? h with
    | some t => (.released true, t)
    | none => (.released false, t)

/-- The table after some operations. -/
def run (t : HandleTable α) (ops : List (Operation α)) : HandleTable α :=
  ops.foldl (fun t op => (t.step op).2) t

/-- A finite map from handles to values. -/
abbrev HandleMap (α : Type) := Finmap fun _ : Handle => α

/-- The table answers as the map does. -/
structure Represents (t : HandleTable α) (M : HandleMap α) : Prop where
  /-- A handle in the map names its value, and every other word is refused. -/
  get : ∀ h, t.get h =
    match M.lookup h with
    | some v => .ok v
    | none => .error (.invalidHandle h)
  /-- The table has the handles of the map. -/
  contains : ∀ h, t.contains h = true ↔ h ∈ M
  /-- The table counts the handles of the map. -/
  size : t.size = M.keys.card

/-- What an operation may do to the map, and with what answer. -/
inductive MapStep (tag : UInt16) (M : HandleMap α) : Operation α → Answer → HandleMap α → Prop
  /-- A new handle has the tag, is not null and not in use; it is all that is added. -/
  | insert (v : α) (h : Handle) (fresh : h ∉ M) (nonnull : h ≠ .null) (tagged : h.tag = tag) :
    MapStep tag M (.insert v) (.handle h) (M.insert h v)
  /-- A handle in use is released, and nothing else is. -/
  | release (h : Handle) (used : h ∈ M) : MapStep tag M (.release h) (.released true) (M.erase h)
  /-- Every other word is refused, and nothing changes. -/
  | refuse (h : Handle) (unused : h ∉ M) : MapStep tag M (.release h) (.released false) M

/-! ### Steps -/

variable {t : HandleTable α} {M : HandleMap α}

/-- A table answers as a map does when it finds and counts what the map does. -/
theorem Represents.of_get? (hget : ∀ h, t.get? h = M.lookup h) (hsize : t.size = M.keys.card) :
    t.Represents M where
  get h := by cases hl : M.lookup h <;> simp only [HandleTable.get, hget, hl]
  contains h := by rw [contains_iff, Finmap.mem_iff, hget]
  size := hsize

theorem Represents.get? (hr : t.Represents M) (h : Handle) : t.get? h = M.lookup h := by
  have hget := hr.get h
  rw [HandleTable.get] at hget
  cases ht : t.get? h with
  | none =>
    cases hM : M.lookup h with
    | none => rfl
    | some v => simp [ht, hM] at hget
  | some v =>
    cases hM : M.lookup h with
    | none => simp [ht, hM] at hget
    | some w =>
      rw [ht, hM] at hget
      cases hget
      rfl

theorem Represents.empty (tag : UInt16) : (empty tag : HandleTable α).Represents ∅ :=
  .of_get? (fun h => by simp [HandleTable.get?, HandleTable.empty]) (by rfl)

/-- An insertion is one step of the map. -/
theorem Represents.insert (hr : t.Represents M) (hw : t.WellFormed) (htag : t.tag ≠ 0) (v : α)
    (hsize : (t.insert v).2.slots.size ≤ 2 ^ 32) :
    ∃ M', MapStep t.tag M (.insert v) (.handle (t.insert v).1) M' ∧
      (t.insert v).2.Represents M' := by
  obtain ⟨htagged, -, -, hlive⟩ := hw.listed.insert_slots (hasRoom_of_insert hsize)
  have hfresh : (t.insert v).1 ∉ M := by
    rw [← Finmap.lookup_eq_none, ← hr.get?]
    exact hw.listed.get?_insert_fresh (hasRoom_of_insert hsize)
  have hnonnull : (t.insert v).1 ≠ .null := by
    rw [← Handle.make_parts (t.insert v).1, htagged]
    exact Handle.make_ne_null _ _ _ htag
  refine ⟨_, .insert v _ hfresh hnonnull htagged, .of_get? ?_ ?_⟩
  · intro g
    rw [hw.listed.get?_insert (hasRoom_of_insert hsize)]
    split_ifs with hg
    · rw [hg, Finmap.lookup_insert]
    · rw [Finmap.lookup_insert_of_ne _ hg, hr.get?]
  · have hkeys : (M.insert (t.insert v).1 v).keys = Insert.insert (t.insert v).1 M.keys := by
      ext g
      simp only [Finmap.mem_keys, Finmap.mem_insert, Finset.mem_insert]
    rw [hkeys, Finset.card_insert_of_notMem (Finmap.mem_keys.not.2 hfresh), hlive, hr.size]

/-- A release is one step of the map. -/
theorem Represents.release (hr : t.Represents M) (h : Handle) :
    ∃ M', MapStep t.tag M (.release h) (t.step (.release h)).1 M' ∧
      (t.step (.release h)).2.Represents M' := by
  cases ht : t.release? h with
  | none =>
    have hunused : h ∉ M := by
      rw [← hr.contains, ← release?_isSome, ht]
      simp
    simp only [step, ht]
    exact ⟨M, .refuse h hunused, hr⟩
  | some t' =>
    obtain ⟨hc, -, -, -, -, hlive⟩ := release?_eq_some ht
    have hused : h ∈ M := (hr.contains h).1 hc
    simp only [step, ht]
    refine ⟨_, .release h hused, .of_get? ?_ ?_⟩
    · intro g
      rw [get?_release? ht]
      split_ifs with hg
      · rw [hg, Finmap.lookup_erase]
      · rw [Finmap.lookup_erase_ne hg, hr.get?]
    · rw [Finmap.keys_erase, Finset.card_erase_of_mem (Finmap.mem_keys.2 hused), ← hr.size]
      exact hlive

/-- One operation is one step of the map, and the invariant survives it. -/
theorem Represents.step (hr : t.Represents M) (hw : t.WellFormed) (htag : t.tag ≠ 0)
    (op : Operation α) (hsize : (t.step op).2.slots.size ≤ 2 ^ 32) :
    (t.step op).2.WellFormed ∧ (t.step op).2.tag = t.tag ∧
      ∃ M', MapStep t.tag M op (t.step op).1 M' ∧ (t.step op).2.Represents M' := by
  cases op with
  | insert v => exact ⟨hw.insert hsize, insert_tag, hr.insert hw htag v hsize⟩
  | release h =>
    refine ⟨?_, ?_, hr.release h⟩
    · cases ht : t.release? h with
      | none => simpa only [HandleTable.step, ht] using hw
      | some t' => simpa only [HandleTable.step, ht] using hw.release? ht
    · cases ht : t.release? h with
      | none => simp only [HandleTable.step, ht]
      | some t' =>
        simp only [HandleTable.step, ht]
        exact (release?_eq_some ht).2.2.2.1

/-- A handle that is released was counted, so the count does not run below zero. -/
theorem Represents.size_pos (hr : t.Represents M) {h : Handle}
    (hdone : (t.step (.release h)).1 = .released true) : 0 < t.size := by
  cases ht : t.release? h with
  | none =>
    rw [HandleTable.step, ht] at hdone
    cases hdone
  | some t' =>
    have hused : h ∈ M.keys := Finmap.mem_keys.2 ((hr.contains h).1 (release?_eq_some ht).1)
    rw [hr.size]
    exact Finset.card_pos.2 ⟨h, hused⟩

/-! ### Runs -/

/-- Slots are added and never taken away. -/
theorem size_slots_le_step (t : HandleTable α) (op : Operation α) :
    t.slots.size ≤ (t.step op).2.slots.size := by
  cases op with
  | insert v =>
    simp only [HandleTable.step, HandleTable.insert]
    split
    · split <;> simp
    · simp
  | release h =>
    cases ht : t.release? h with
    | none => simp only [HandleTable.step, ht]; exact Nat.le_refl _
    | some t' =>
      simp only [HandleTable.step, ht]
      exact (release?_eq_some ht).2.2.1.ge

theorem size_slots_le_run (t : HandleTable α) (ops : List (Operation α)) :
    t.slots.size ≤ (t.run ops).slots.size := by
  induction ops generalizing t with
  | nil => exact Nat.le_refl _
  | cons op ops ih => exact (size_slots_le_step t op).trans (ih _)

/-- A run from a table that represents a map is a run of the map. -/
theorem Represents.run (hr : t.Represents M) (hw : t.WellFormed) (htag : t.tag ≠ 0)
    (ops : List (Operation α)) (hsize : (t.run ops).slots.size ≤ 2 ^ 32) :
    ∃ Ms : ℕ → HandleMap α, Ms 0 = M ∧
      (∀ k ≤ ops.length, (t.run (ops.take k)).Represents (Ms k)) ∧
      ∀ k (hk : k < ops.length),
        MapStep t.tag (Ms k) ops[k] ((t.run (ops.take k)).step ops[k]).1 (Ms (k + 1)) := by
  induction ops generalizing t M with
  | nil => exact ⟨fun _ => M, rfl, fun k _ => by simpa [HandleTable.run] using hr, nofun⟩
  | cons op ops ih =>
    have hstep : (t.step op).2.slots.size ≤ 2 ^ 32 := (size_slots_le_run _ ops).trans hsize
    obtain ⟨hw', htag', M', hmap, hr'⟩ := hr.step hw htag op hstep
    obtain ⟨Ms, hzero, hall, hsteps⟩ := ih hr' hw' (htag' ▸ htag) hsize
    refine ⟨fun k => Nat.casesOn k M Ms, rfl, ?_, ?_⟩
    · rintro (_ | k) hk
      · exact hr
      · exact hall k (Nat.le_of_succ_le_succ hk)
    · rintro (_ | k) hk
      · rw [← hzero] at hmap
        exact hmap
      · rw [← htag']
        exact hsteps k (Nat.lt_of_succ_lt_succ hk)

/-- No table gets the tag of the null handle. -/
theorem draw_ne_zero (s : TagSource) : s.draw.1 ≠ 0 := by
  unfold TagSource.draw
  split_ifs with h
  · decide
  · exact h

/-- **Every run of a new table is a run of a finite map** that starts empty: at each step the
table answers as the map does, the operation changes the map by its one handle, and a handle is
taken off a count that is not zero. -/
theorem refines_finite_map (source : TagSource) (ops : List (Operation α))
    (hsize : ((empty source.draw.1).run ops).slots.size ≤ 2 ^ 32) :
    ∃ M : ℕ → HandleMap α, M 0 = ∅ ∧
      (∀ k ≤ ops.length, ((empty source.draw.1).run (ops.take k)).Represents (M k)) ∧
      ∀ k (hk : k < ops.length),
        let t := (empty source.draw.1).run (ops.take k)
        MapStep source.draw.1 (M k) ops[k] (t.step ops[k]).1 (M (k + 1)) ∧
          ((t.step ops[k]).1 = .released true → 0 < t.size) := by
  obtain ⟨M, hzero, hall, hsteps⟩ :=
    (Represents.empty _).run (.empty _) (draw_ne_zero source) ops hsize
  refine ⟨M, hzero, hall, fun k hk => ⟨hsteps k hk, fun hdone => ?_⟩⟩
  cases hop : ops[k] with
  | insert v =>
    rw [hop] at hdone
    cases hdone
  | release h =>
    rw [hop] at hdone
    exact (hall k hk.le).size_pos hdone

/-- A slot is reused under the next generation, and the old handle to it stays refused. -/
theorem refines_finite_map_reuse :
    let t := (empty (TagSource.draw {}).1).run [.insert 'a', .release (.make 1 1 0), .insert 'b']
    t.slots.size ≤ 2 ^ 32 ∧
      ∃ M, t.Represents M ∧ M.lookup (.make 1 2 0) = some 'b' ∧ M.lookup (.make 1 1 0) = none := by
  intro t
  have hsize : t.slots.size ≤ 2 ^ 32 := by decide
  obtain ⟨M, -, hall, -⟩ := refines_finite_map {} _ hsize
  have hr : t.Represents (M 3) := hall 3 (by decide)
  refine ⟨hsize, M 3, hr, ?_, ?_⟩
  · rw [← hr.get?]
    decide
  · rw [← hr.get?]
    decide

end HandleTable

end ScriptBridge
