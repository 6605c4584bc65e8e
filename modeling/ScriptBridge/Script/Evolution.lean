import ScriptBridge.Script.Heap

/-!
# What no running code undoes

A promise is settled by way of its settlers, which are made with it and with what it follows.  A
pending promise that has no settler is *held*: only somebody outside of the heap can settle it.

`World.Evolves w w'` says what there is to rely on when running code leads from a world `w` to `w'`:
settled promises stay as they are, held promises stay held (`World.Retains`), and jobs are only
added behind those that wait.  Each change of the heap is shown to keep to it here, so that
procedures can carry the proof that they do.
-/

namespace ScriptBridge.Script

namespace ObjectKind

/-- Whether objects of this kind have to do with settling promises. -/
def isBound : ObjectKind → Bool
  | .promise _ | .settler .. => true
  | _ => false

/-- What an object of one kind becomes when it is to be of another: promises and settlers stay what
they are, and nothing else becomes one. -/
def becoming (old new : ObjectKind) : ObjectKind := if old.isBound || new.isBound then old else new

theorem becoming_eq_or (old new : ObjectKind) :
    old.becoming new = old ∨ old.isBound = false ∧ (old.becoming new).isBound = false := by
  unfold becoming
  split
  · exact .inl rfl
  · simp_all

end ObjectKind

/-- An object after a change, but promises and settlers stay what they are. -/
def Object.revised (f : Object → Object) (o : Object) : Object :=
  let kind := o.kind
  let new := f o
  { new with kind := kind.becoming new.kind }

namespace World

/-- What the object at a place is. -/
def kind? (w : World) (p : Ref) : Option ObjectKind := (w.objects[p]?).map Object.kind

/-- The state of the promise at a place. -/
def promise? (w : World) (p : Ref) : Option PromiseState :=
  match w.kind? p with
  | some (.promise s) => some s
  | _ => none

/-- There is something that settles the promise. -/
def HasSettler (w : World) (p : Ref) : Prop :=
  ∃ (s : Ref) (used : Bool), w.kind? s = some (.settler p used)

/-- The promise is pending, and nothing in the world can settle it. -/
structure Holds (w : World) (p : Ref) : Prop where
  pending : ∃ fulfill reject, w.promise? p = some (.pending fulfill reject)
  unsettled : ¬ w.HasSettler p

/-- Settlers are for promises that are there. -/
def Placed (w : World) : Prop := ∀ p, w.HasSettler p → p < w.objects.size

/-- What there is to rely on for promises when one world has become another. -/
structure Retains (w w' : World) : Prop where
  grows : w.objects.size ≤ w'.objects.size
  placed : w.Placed → w'.Placed
  settled : ∀ p s, w.promise? p = some s → s.isSettled = true → w'.promise? p = some s
  held : ∀ p, w.Holds p → w'.Holds p

/-- What there is to rely on when running code leads from one world to another. -/
structure Evolves (w w' : World) : Prop extends Retains w w' where
  /-- Jobs are added behind the others, and none is taken away. -/
  queued : w.jobs <+: w'.jobs

theorem promise?_eq_some_iff {w : World} {p : Ref} {s : PromiseState} :
    w.promise? p = some s ↔ w.kind? p = some (.promise s) := by
  unfold promise?
  cases w.kind? p with
  | none => simp
  | some k => cases k <;> simp

theorem lt_of_kind? {w : World} {p : Ref} {k : ObjectKind} (h : w.kind? p = some k) :
    p < w.objects.size := by
  obtain ⟨o, ho, -⟩ := Option.map_eq_some_iff.1 h
  exact (Array.getElem?_eq_some_iff.1 ho).1

/-- A held promise is in the world. -/
theorem Holds.lt {w : World} {p : Ref} (h : w.Holds p) : p < w.objects.size := by
  obtain ⟨f, r, hp⟩ := h.pending
  exact lt_of_kind? (promise?_eq_some_iff.1 hp)

namespace Retains

theorem refl (w : World) : w.Retains w := ⟨Nat.le_refl _, id, fun _ _ h _ => h, fun _ h => h⟩

theorem trans {w₁ w₂ w₃ : World} (h : w₁.Retains w₂) (h' : w₂.Retains w₃) : w₁.Retains w₃ where
  grows := Nat.le_trans h.grows h'.grows
  placed hw := h'.placed (h.placed hw)
  settled p s hs hsettled := h'.settled p s (h.settled p s hs hsettled) hsettled
  held p hp := h'.held p (h.held p hp)

/-- The kinds of objects that were there change; held promises are not settled, and get no
settlers. -/
theorem of_kinds {w w' : World} (hsize : w'.objects.size = w.objects.size)
    (hpromise : ∀ p s, w.promise? p = some s → ∃ s', w'.promise? p = some s' ∧
      (s' = s ∨ s.isSettled = false ∧ (s'.isSettled = false ∨ w.HasSettler p)))
    (hsettler : ∀ p, w'.HasSettler p → w.HasSettler p) : w.Retains w' where
  grows := Nat.le_of_eq hsize.symm
  placed hw p hp := hsize ▸ hw p (hsettler p hp)
  settled p s hs hsettled := by
    obtain ⟨s', hs', rfl | ⟨hpending, -⟩⟩ := hpromise p s hs
    · exact hs'
    · rw [hsettled] at hpending
      cases hpending
  held p hp := by
    refine ⟨?_, fun h => hp.unsettled (hsettler p h)⟩
    obtain ⟨f, r, hs⟩ := hp.pending
    obtain ⟨s', hs', rfl | ⟨-, hpending | hsettled⟩⟩ := hpromise p _ hs
    · exact ⟨f, r, hs'⟩
    · cases s' with
      | pending f' r' => exact ⟨f', r', hs'⟩
      | fulfilled v => cases hpending
      | rejected v => cases hpending
    · exact (hp.unsettled hsettled).elim

/-- What is not an object does not matter. -/
theorem of_objects {w w' : World} (h : w'.objects = w.objects) : w.Retains w' := by
  have hkind : w'.kind? = w.kind? := by
    funext p
    rw [kind?, kind?, h]
  refine .of_kinds (by rw [h]) (fun p s hs => ⟨s, ?_, .inl rfl⟩) fun p => ?_
  · rwa [promise?, hkind]
  · rw [HasSettler, HasSettler, hkind]
    exact id

end Retains

namespace Evolves

theorem refl (w : World) : w.Evolves w := ⟨.refl w, List.prefix_rfl⟩

theorem trans {w₁ w₂ w₃ : World} (h : w₁.Evolves w₂) (h' : w₂.Evolves w₃) : w₁.Evolves w₃ :=
  ⟨h.toRetains.trans h'.toRetains, h.queued.trans h'.queued⟩

/-- Where promises are retained and the jobs are the same, the world has evolved. -/
theorem of_retains {w w' : World} (h : w.Retains w') (hjobs : w'.jobs = w.jobs) : w.Evolves w' :=
  ⟨h, hjobs ▸ List.prefix_rfl⟩

/-- No object changes, and jobs are added. -/
theorem of_objects {w w' : World} (h : w'.objects = w.objects) (hjobs : w.jobs <+: w'.jobs) :
    w.Evolves w' :=
  ⟨.of_objects h, hjobs⟩

end Evolves

/-! ### Making and changing objects -/

/-- The world with an object more. -/
def push (w : World) (o : Object) : World := { w with objects := w.objects.push o }

/-- The world with an object changed. -/
def modify (w : World) (r : Ref) (f : Object → Object) : World :=
  { w with objects := w.objects.modify r f }

theorem kind?_push (w : World) (o : Object) (p : Ref) :
    (w.push o).kind? p = if p = w.objects.size then some o.kind else w.kind? p := by
  rw [kind?, push, Array.getElem?_push]
  split <;> rfl

theorem kind?_modify (w : World) (r : Ref) (f : Object → Object) (p : Ref) :
    (w.modify r f).kind? p =
      if r = p then (w.objects[p]?).map fun o => (f o).kind else w.kind? p := by
  rw [kind?, modify, Array.getElem?_modify]
  split
  · cases w.objects[p]? <;> rfl
  · rfl

theorem promise?_push {w : World} {p : Ref} (hp : p < w.objects.size) (o : Object) :
    (w.push o).promise? p = w.promise? p := by
  rw [promise?, kind?_push, if_neg (Nat.ne_of_lt hp), promise?]

theorem hasSettler_push {w : World} {o : Object} {p : Ref} (h : (w.push o).HasSettler p) :
    (∃ used, o.kind = .settler p used) ∨ w.HasSettler p := by
  obtain ⟨s, used, hs⟩ := h
  rw [kind?_push] at hs
  split at hs
  · exact .inl ⟨used, Option.some.inj hs⟩
  · exact .inr ⟨s, used, hs⟩

/-- A new object, which settles no promise that was there before, unless that has a settler. -/
theorem Evolves.push {w w' : World} (h : w.Evolves w') (o : Object)
    (ho : ∀ p used, o.kind = .settler p used →
      w'.HasSettler p ∨ w.objects.size ≤ p ∧ p ≤ w'.objects.size) : w.Evolves (w'.push o) where
  grows := Nat.le_trans h.grows (by simp [World.push])
  placed hw p hp := by
    have hw' := h.placed hw
    suffices p ≤ w'.objects.size by
      rw [World.push, Array.size_push]
      exact Nat.lt_succ_of_le this
    obtain ⟨used, hp⟩ | hp := hasSettler_push hp
    · obtain hp | hp := ho p used hp
      · exact Nat.le_of_lt (hw' p hp)
      · exact hp.2
    · exact Nat.le_of_lt (hw' p hp)
  settled p s hs hsettled := by
    have hs' := h.settled p s hs hsettled
    rwa [promise?_push (lt_of_kind? (promise?_eq_some_iff.1 hs'))]
  held p hp := by
    have hp' := h.held p hp
    refine ⟨?_, ?_⟩
    · rw [promise?_push hp'.lt]
      exact hp'.pending
    · intro hsettler
      obtain ⟨used, hs⟩ | hs := hasSettler_push hsettler
      · obtain hs | hs := ho p used hs
        · exact hp'.unsettled hs
        · exact absurd hp.lt (Nat.not_lt_of_le hs.1)
      · exact hp'.unsettled hs
  queued := h.queued

/-- A change of an object that may change what it is, unless that has to do with promises. -/
theorem evolves_modify (w : World) (r : Ref) (f : Object → Object)
    (hf : ∀ o, (f o).kind = o.kind ∨ o.kind.isBound = false ∧ (f o).kind.isBound = false) :
    w.Evolves (w.modify r f) := by
  have hkind (p : Ref) (k : ObjectKind) (hk : k.isBound = true) :
      (w.modify r f).kind? p = some k ↔ w.kind? p = some k := by
    rw [kind?_modify, kind?]
    split
    · cases w.objects[p]? with
      | none => simp
      | some o =>
        obtain ho | ⟨ho, hfo⟩ := hf o
        · simp [ho]
        · simp only [Option.map_some, Option.some.injEq]
          constructor
          · rintro rfl
            rw [hk] at hfo
            cases hfo
          · rintro rfl
            rw [hk] at ho
            cases ho
    · exact .rfl
  refine .of_retains (.of_kinds (by simp [modify]) (fun p s hs => ⟨s, ?_, .inl rfl⟩) ?_) rfl
  · rw [promise?_eq_some_iff] at hs ⊢
    rwa [hkind _ _ rfl]
  · rintro p ⟨s, used, hs⟩
    exact ⟨s, used, (hkind _ _ rfl).1 hs⟩

end World

end ScriptBridge.Script
