import ScriptBridge.Proofs.Handle.Refinement

/-!
# When a released handle is accepted again

A stale handle is told apart from a new one by the generation of its slot alone, and that is a
number of sixteen bits.  `HandleTable.emptied` counts how often a slot was emptied in a run.

* `generation?_run` : a run adds that count to the generation of the slot.
* `accepts_released_iff` : after its release a handle is accepted, or given out, **exactly when its
  slot was emptied a multiple of `2 ^ 16` times since**, that release included; so it is refused as
  long as its slot was emptied fewer times.
* `revived` : it is given out again by the `2 ^ 16`-th reuse of its slot.
-/

namespace ScriptBridge

namespace HandleTable

variable {α : Type} {t t' : HandleTable α} {h : Handle} {v : α}

/-- The generation of a slot, if there is such a slot. -/
def generation? (t : HandleTable α) (i : UInt32) : Option UInt16 :=
  (t.slots[i.toNat]?).map Slot.generation

/-- Whether a slot has a value. -/
def holds (t : HandleTable α) (i : UInt32) : Bool := (t.slots[i.toNat]?).any (·.value.isSome)

/-- Whether an operation empties a slot. -/
def empties (t : HandleTable α) (i : UInt32) : Operation α → Bool
  | .insert _ => false
  | .release h => h.index = i ∧ t.contains h = true

/-- How often operations, one after the other, empty a slot. -/
def emptied (i : UInt32) : HandleTable α → List (Operation α) → Nat
  | _, [] => 0
  | t, op :: ops => (t.empties i op).toNat + emptied i (t.step op).2 ops

/-! ### Generations -/

/-- Where no slot is to be reused, the next value gets a new one. -/
theorem index_insert_of_free_eq_nil (hfree : t.free = [])
    (hsize : (t.insert v).2.slots.size ≤ 2 ^ 32) :
    (t.insert v).1.index.toNat = t.slots.size := by
  simp only [HandleTable.insert, hfree, Array.size_push] at hsize
  simp only [HandleTable.insert, hfree, Handle.index_make]
  exact toNat_toUInt32_size hsize

/-- A slot that is filled again keeps its generation. -/
theorem WellFormed.generation_insert (hw : t.WellFormed)
    (hsize : (t.insert v).2.slots.size ≤ 2 ^ 32) {g : UInt16}
    (hg : t.generation? (t.insert v).1.index = some g) : (t.insert v).1.generation = g := by
  obtain ⟨slot, hslot, rfl⟩ := Option.map_eq_some_iff.1 hg
  cases hfree : t.free with
  | cons i free =>
    obtain ⟨g, hi⟩ := (hw.mem_free i).1 (by rw [hfree]; exact List.mem_cons_self)
    simp only [HandleTable.insert, hfree, hi, Handle.index_make, Handle.generation_make,
      Option.some.injEq] at hslot ⊢
    rw [← hslot]
  | nil =>
    rw [index_insert_of_free_eq_nil hfree hsize, Array.getElem?_size] at hslot
    cases hslot

/-- One step counts up the generation of the slot that it empties, and no other. -/
theorem WellFormed.generation?_step (hw : t.WellFormed) (op : Operation α)
    (hsize : (t.step op).2.slots.size ≤ 2 ^ 32) {i : UInt32} {g : UInt16}
    (hg : t.generation? i = some g) :
    (t.step op).2.generation? i = some (g + .ofNat (t.empties i op).toNat) := by
  cases op with
  | insert v =>
    obtain ⟨-, -, hslots, -⟩ := hw.listed.insert_slots (v := v) (hasRoom_of_insert hsize)
    have hzero : g + .ofNat (t.empties i (.insert v)).toNat = g := UInt16.add_zero g
    simp only [hzero, step, generation?, hslots]
    split_ifs with hi
    · rw [UInt32.toNat_inj.1 hi] at hg
      rw [Option.map_some, hw.generation_insert hsize hg]
    · exact hg
  | release h =>
    cases ht : t.release? h with
    | none =>
      have hc : t.contains h = false := by rw [← release?_isSome, ht, Option.isSome_none]
      simp [step, empties, ht, hc, hg]
    | some t' =>
      obtain ⟨hc, hslots, -, -, -, -⟩ := release?_eq_some ht
      simp only [step, empties, ht, hc, and_true, generation?, hslots, UInt32.toNat_inj]
      by_cases hi : i = h.index
      · obtain ⟨w, hw⟩ := contains_iff.1 hc
        have hgen : h.generation = g := by
          rw [hi, generation?, (get?_eq_some_iff.1 hw).2] at hg
          exact Option.some.inj hg
        simp [hi, hgen]
      · simp [hi, Ne.symm hi, ← hg, generation?]

theorem WellFormed.step (hw : t.WellFormed) (op : Operation α)
    (hsize : (t.step op).2.slots.size ≤ 2 ^ 32) : (t.step op).2.WellFormed := by
  cases op with
  | insert v => exact hw.insert hsize
  | release h =>
    cases ht : t.release? h with
    | none => simpa only [HandleTable.step, ht] using hw
    | some t' => simpa only [HandleTable.step, ht] using hw.release? ht

theorem WellFormed.run (hw : t.WellFormed) (ops : List (Operation α))
    (hsize : (t.run ops).slots.size ≤ 2 ^ 32) : (t.run ops).WellFormed := by
  induction ops generalizing t with
  | nil => exact hw
  | cons op ops ih => exact ih (hw.step op ((size_slots_le_run _ ops).trans hsize)) hsize

/-- **A run adds to the generation of a slot how often the slot was emptied.** -/
theorem WellFormed.generation?_run (hw : t.WellFormed) (ops : List (Operation α))
    (hsize : (t.run ops).slots.size ≤ 2 ^ 32) {i : UInt32} {g : UInt16}
    (hg : t.generation? i = some g) :
    (t.run ops).generation? i = some (g + .ofNat (emptied i t ops)) := by
  induction ops generalizing t g with
  | nil => simpa [HandleTable.run, emptied] using hg
  | cons op ops ih =>
    have hstep : (t.step op).2.slots.size ≤ 2 ^ 32 := (size_slots_le_run _ ops).trans hsize
    have h := ih (hw.step op hstep) hsize (hw.generation?_step op hstep hg)
    rwa [UInt16.add_assoc, ← UInt16.ofNat_add] at h

/-! ### Stale handles -/

theorem contains_iff_generation? (h : Handle) : t.contains h = true ↔
    h.tag = t.tag ∧ t.holds h.index = true ∧ t.generation? h.index = some h.generation := by
  simp only [contains_iff, get?_eq_some_iff, holds, generation?]
  rcases hslot : t.slots[h.index.toNat]? with _ | ⟨g, v⟩
  · simp
  · cases v <;> simp [eq_comm]

@[simp] theorem step_tag (t : HandleTable α) (op : Operation α) : (t.step op).2.tag = t.tag := by
  cases op with
  | insert v => exact insert_tag
  | release h =>
    cases ht : t.release? h with
    | none => simp only [step, ht]
    | some t' =>
      simp only [step, ht]
      exact (release?_eq_some ht).2.2.2.1

theorem run_tag (t : HandleTable α) (ops : List (Operation α)) : (t.run ops).tag = t.tag := by
  induction ops generalizing t with
  | nil => rfl
  | cons op ops ih => exact (ih _).trans (step_tag t op)

/-- The slot that the next value is put into, if it is an old one. -/
theorem WellFormed.index_insert_eq_iff (hw : t.WellFormed)
    (hsize : (t.insert v).2.slots.size ≤ 2 ^ 32) {i : UInt32} {g : UInt16}
    (hg : t.generation? i = some g) : (t.insert v).1.index = i ↔ t.free.head? = some i := by
  obtain hfree | ⟨hfree, -⟩ := hw.listed.insert_free (v := v)
  · rw [hfree, List.head?_cons, Option.some.injEq]
  · obtain ⟨slot, hslot, -⟩ := Option.map_eq_some_iff.1 hg
    have hlt : i.toNat < t.slots.size := (Array.getElem?_eq_some_iff.1 hslot).1
    have hnew := index_insert_of_free_eq_nil hfree hsize
    rw [hfree, List.head?_nil]
    constructor
    · rintro rfl
      omega
    · nofun

theorem contains_of_released (hreleased : (t.step (.release h)).1 = .released true) :
    t.contains h = true := by
  rw [step] at hreleased
  split at hreleased
  · rename_i ht
    exact (release?_eq_some ht).1
  · cases hreleased

/-- The generations come back to the same one after `2 ^ 16` steps. -/
theorem add_ofNat_eq_self_iff (g : UInt16) (n : Nat) : g + .ofNat n = g ↔ 2 ^ 16 ∣ n := by
  rw [← UInt16.toNat_inj, UInt16.toNat_add, UInt16.toNat_ofNat']
  have hg := g.toNat_lt
  omega

/-- **After its release a handle is accepted, or given out, exactly when its slot was emptied a
multiple of `2 ^ 16` times since**, that release included. -/
theorem accepts_released_iff (source : TagSource) (before after : List (Operation α)) (h : Handle)
    (hreleased : (((empty source.draw.1).run before).step (.release h)).1 = .released true)
    (hsize : (((empty source.draw.1).run before).run (.release h :: after)).slots.size ≤ 2 ^ 32) :
    let t := (empty source.draw.1).run before
    let t' := t.run (.release h :: after)
    let n := emptied h.index t (.release h :: after)
    0 < n ∧
      (t'.contains h = true ↔ t'.holds h.index = true ∧ 2 ^ 16 ∣ n) ∧
      (t'.get h = .error (.invalidHandle h) ↔ t'.contains h = false) ∧
      (t'.step (.release h)).1 = .released (t'.contains h) ∧
      ∀ v, (t'.insert v).2.slots.size ≤ 2 ^ 32 →
        ((t'.insert v).1 = h ↔ t'.free.head? = some h.index ∧ 2 ^ 16 ∣ n) := by
  intro t t' n
  have hw : t.WellFormed :=
    (WellFormed.empty _).run before ((size_slots_le_run t _).trans hsize)
  have hw' : t'.WellFormed := hw.run _ hsize
  have hcontains : t.contains h = true := contains_of_released hreleased
  obtain ⟨htag, -, hgen⟩ := (contains_iff_generation? h).1 hcontains
  -- each release of the slot takes its generation one further, modulo `2 ^ 16`
  have hgen' : t'.generation? h.index = some (h.generation + .ofNat n) :=
    hw.generation?_run _ hsize hgen
  have htag' : h.tag = t'.tag := htag.trans (run_tag t _).symm
  have hpos : 0 < n := by
    simp only [n, emptied, empties, hcontains, and_self, decide_true, Bool.toNat_true]
    exact Nat.lt_add_right _ Nat.one_pos
  refine ⟨hpos, ?_, ?_, ?_, fun v hv => ?_⟩
  · rw [contains_iff_generation?, hgen', Option.some.injEq, add_ofNat_eq_self_iff]
    exact ⟨fun hall => hall.2, fun hall => ⟨htag', hall⟩⟩
  · rw [get, contains]
    cases t'.get? h <;> simp
  · rw [step, ← release?_isSome]
    cases t'.release? h <;> rfl
  · rw [← hw'.index_insert_eq_iff hv hgen', ← add_ofNat_eq_self_iff h.generation n]
    constructor
    · intro heq
      have hnew := hw'.generation_insert hv (by rwa [heq])
      exact ⟨congrArg Handle.index heq, hnew.symm.trans (congrArg Handle.generation heq)⟩
    · rintro ⟨hindex, hn⟩
      have hnew := hw'.generation_insert hv (hindex ▸ hgen')
      refine Handle.ext_parts ?_ (hnew.trans hn) hindex
      exact (hw'.listed.insert_slots (hasRoom_of_insert hv)).1.trans htag'.symm

/-- After one release, the handle is refused, and another one is given out for its slot. -/
theorem accepts_released_iff_once :
    let t := (empty (TagSource.draw {}).1).run [.insert 'a']
    let h := Handle.make 1 1 0
    (t.step (.release h)).1 = .released true ∧
      ((t.run [.release h]).contains h = true ↔
        (t.run [.release h]).holds h.index = true ∧ 2 ^ 16 ∣ emptied h.index t [.release h]) ∧
      emptied h.index t [.release h] = 1 :=
  ⟨by decide, (accepts_released_iff {} [.insert 'a'] [] (.make 1 1 0) (by decide) (by decide)).2.1,
    by decide⟩

/-! ### All the way round -/

/-- A table with one slot, which is empty. -/
def vacant (g : UInt16) : HandleTable α := { tag := 1, slots := #[⟨g, none⟩], free := [0] }

/-- Filling and emptying one slot, `n` times from a generation on. -/
def reuses (v : α) : UInt16 → Nat → List (Operation α)
  | _, 0 => []
  | g, n + 1 => .insert v :: .release (.make 1 g 0) :: reuses v (g + 1) n

theorem insert_vacant (g : UInt16) (v : α) : (vacant g).insert v =
    (.make 1 g 0, { tag := 1, slots := #[⟨g, some v⟩], live := 1 }) := rfl

theorem run_reuses (v : α) (g : UInt16) (n : Nat) :
    (vacant g).run (reuses v g n) = vacant (g + .ofNat n) := by
  induction n generalizing g with
  | zero => exact congrArg vacant (UInt16.add_zero g).symm
  | succ n ih =>
    have hrelease : ((vacant g).insert v).2.release? (.make 1 g 0) = some (vacant (g + 1)) := by
      rw [insert_vacant]
      simp [release?, contains, get?, vacant]
    have hcycle : (vacant g).run [.insert v, .release (.make 1 g 0)] = vacant (g + 1) := by
      simp [run, step, hrelease]
    calc (vacant g).run (reuses v g (n + 1))
        = ((vacant g).run [.insert v, .release (.make 1 g 0)]).run (reuses v (g + 1) n) := rfl
      _ = vacant (g + 1 + .ofNat n) := by rw [hcycle, ih]
      _ = vacant (g + .ofNat (n + 1)) := by
        rw [UInt16.add_assoc, Nat.add_comm n 1, UInt16.ofNat_add]
        rfl

/-- The first slot of a table, filled, emptied, and reused `n` times. -/
theorem run_release_reuses (v : α) (n : Nat) :
    ((empty 1).run [.insert v]).run (.release (.make 1 1 0) :: reuses v 2 n) =
      vacant (2 + .ofNat n) := by
  have hfirst : ((empty 1).run [.insert v]).run [.release (.make 1 1 0)] = vacant 2 := rfl
  rw [← run_reuses v 2 n, ← hfirst]
  rfl

/-- **The `2 ^ 16`-th reuse of a slot gives a released handle out again**, for another value. -/
theorem revived :
    let t := (empty (TagSource.draw {}).1).run [.insert 'a']
    let h := Handle.make 1 1 0
    let t' := t.run (.release h :: reuses 'a' 2 (2 ^ 16 - 1))
    (t.step (.release h)).1 = .released true ∧ (t'.insert 'b').1 = h ∧
      (t'.insert 'b').2.get h = .ok 'b' := by
  intro t h t'
  have hround : (2 : UInt16) + .ofNat (2 ^ 16 - 1) = 1 := by decide
  have ht' : t' = vacant 1 := (run_release_reuses 'a' (2 ^ 16 - 1)).trans (congrArg vacant hround)
  have hget : ((vacant 1).insert 'b').2.get? h = some 'b' := by decide
  rw [ht', get, hget]
  exact ⟨by decide, rfl, rfl⟩

end HandleTable

end ScriptBridge
