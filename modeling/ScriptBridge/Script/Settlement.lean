import ScriptBridge.Script.Evolution

/-!
# Settling promises

What becomes of a world when a promise in it is settled, or gets a reaction.  A settler is shared by
the two functions that settle a promise, and it is used once.  `World.conclude` settles a promise
whether or not it has a settler; only where it has one does the world evolve.
-/

namespace ScriptBridge.Script

/-- What a promise is settled by. -/
inductive Verdict
  | fulfill (v : Value)
  | reject (v : Value)
  /-- An object with a method `then`, which the promise follows. -/
  | follow (thenable method : Value)

namespace World

/-- The world with a promise in another state. -/
def setPromise (w : World) (p : Ref) (s : PromiseState) : World :=
  w.modify p fun o => { o with kind := .promise s }

/-- The world after the reactions to a settled promise have become jobs. -/
def schedule (w : World) (reactions : List Reaction) (rejected : Bool) (v : Value) : World :=
  { w with jobs := w.jobs ++ reactions.map fun r => .reaction r rejected v }

/-- Settles a pending promise. -/
def settle (w : World) (p : Ref) (rejected : Bool) (v : Value) : World :=
  match w.promise? p with
  | some (.pending fulfill reject) =>
    (w.setPromise p (if rejected then .rejected v else .fulfilled v)).schedule
      (if rejected then reject else fulfill) rejected v
  | _ => w

/-- The world with a settler for a promise more. -/
def addSettler (w : World) (p : Ref) : World := w.push { kind := .settler p false, proto := none }

/-- Settles a pending promise by a verdict, or lets it follow an object with a settler of its
own. -/
def conclude (w : World) (p : Ref) : Verdict → World
  | .fulfill v => w.settle p false v
  | .reject v => w.settle p true v
  | .follow thenable method =>
    { w.addSettler p with jobs := w.jobs ++ [.follow w.objects.size thenable method] }

/-- Adds reactions to a promise: for its value, and for its failure. -/
def addReactions (w : World) (p : Ref) (onValue onFailure : Reaction) : World :=
  match w.promise? p with
  | some (.pending fulfill reject) =>
    w.setPromise p (.pending (fulfill ++ [onValue]) (reject ++ [onFailure]))
  | some (.fulfilled v) => w.schedule [onValue] false v
  | some (.rejected v) => w.schedule [onFailure] true v
  | none => w

/-- An object that is a pending promise. -/
def pendingPromise (proto : Ref) : Object :=
  { kind := .promise (.pending [] []), proto := some proto }

/-- The world with a pending promise more, and a settler for it behind it. -/
def addPromise (w : World) (proto : Ref) : World :=
  (w.push (pendingPromise proto)).addSettler w.objects.size

/-- The promise of a settler, and whether the settler was used. -/
def settler? (w : World) (s : Ref) : Option (Ref × Bool) :=
  match w.kind? s with
  | some (.settler p used) => some (p, used)
  | _ => none

/-- The world after a settler was used. -/
def useSettler (w : World) (s : Ref) : World :=
  match w.settler? s with
  | some (p, _) => w.modify s fun o => { o with kind := .settler p true }
  | none => w

/-- Settles the promise of a settler by a verdict. -/
def concludeBy (w : World) (s : Ref) (verdict : Verdict) : World :=
  match w.settler? s with
  | some (p, _) => w.conclude p verdict
  | none => w

/-! ### Only promises with a settler are settled -/

section

variable {w : World} {p : Ref}

theorem kind?_setPromise {s : PromiseState} (hp : w.promise? p = some s) (s' : PromiseState)
    (q : Ref) :
    (w.setPromise p s').kind? q = if p = q then some (.promise s') else w.kind? q := by
  rw [setPromise, kind?_modify]
  split
  · subst q
    obtain ⟨o, ho, -⟩ := Option.map_eq_some_iff.1 (promise?_eq_some_iff.1 hp)
    rw [ho]
    rfl
  · rfl

theorem promise?_setPromise {s : PromiseState} (hp : w.promise? p = some s) (s' : PromiseState)
    (q : Ref) : (w.setPromise p s').promise? q = if p = q then some s' else w.promise? q := by
  rw [promise?, kind?_setPromise hp]
  by_cases hq : p = q
  · simp [hq]
  · simp [hq, promise?]

theorem hasSettler_setPromise {s : PromiseState} (hp : w.promise? p = some s) (s' : PromiseState)
    (q : Ref) : (w.setPromise p s').HasSettler q ↔ w.HasSettler q := by
  refine exists₂_congr fun r used => ?_
  rw [kind?_setPromise hp]
  split
  · subst r
    rw [promise?_eq_some_iff.1 hp]
    simp
  · exact .rfl

theorem evolves_setPromise {s s' : PromiseState} (hp : w.promise? p = some s)
    (hs : s.isSettled = false) (hs' : s'.isSettled = false ∨ w.HasSettler p) :
    w.Evolves (w.setPromise p s') := by
  refine .of_retains (.of_kinds (by simp [setPromise, modify]) (fun q t ht => ?_) fun q =>
    (hasSettler_setPromise hp s' q).1) rfl
  rw [promise?_setPromise hp]
  split
  · subst q
    obtain rfl := Option.some.inj (hp.symm.trans ht)
    exact ⟨s', rfl, .inr ⟨hs, hs'⟩⟩
  · exact ⟨t, ht, .inl rfl⟩

theorem evolves_schedule (reactions : List Reaction) (rejected : Bool) (v : Value) :
    w.Evolves (w.schedule reactions rejected v) :=
  .of_objects rfl (List.prefix_append _ _)

theorem evolves_settle (h : w.HasSettler p) (rejected : Bool) (v : Value) :
    w.Evolves (w.settle p rejected v) := by
  unfold settle
  split
  · rename_i hp
    exact (evolves_setPromise hp rfl (.inr h)).trans (evolves_schedule _ _ _)
  · exact .refl w

theorem evolves_addSettler (h : w.HasSettler p) : w.Evolves (w.addSettler p) :=
  (Evolves.refl w).push _ fun _ _ hk => by
    cases hk
    exact .inl h

theorem evolves_conclude (h : w.HasSettler p) (verdict : Verdict) :
    w.Evolves (w.conclude p verdict) := by
  cases verdict with
  | fulfill v => exact evolves_settle h false v
  | reject v => exact evolves_settle h true v
  | follow thenable method =>
    exact (evolves_addSettler h).trans (.of_objects rfl (List.prefix_append _ _))

theorem evolves_addReactions (w : World) (p : Ref) (onValue onFailure : Reaction) :
    w.Evolves (w.addReactions p onValue onFailure) := by
  unfold addReactions
  split
  · rename_i hp
    exact evolves_setPromise hp rfl (.inl rfl)
  · exact evolves_schedule _ _ _
  · exact evolves_schedule _ _ _
  · exact .refl w

theorem evolves_addPromise (w : World) (proto : Ref) : w.Evolves (w.addPromise proto) :=
  ((Evolves.refl w).push (pendingPromise proto) fun _ _ hk => nomatch hk).push _ fun q _ hk => by
    cases hk
    refine .inr ⟨Nat.le_refl _, ?_⟩
    rw [World.push, Array.size_push]
    exact Nat.le_succ _

theorem settler?_eq_some_iff {s : Ref} {used : Bool} :
    w.settler? s = some (p, used) ↔ w.kind? s = some (.settler p used) := by
  unfold settler?
  cases w.kind? s with
  | none => simp
  | some k => cases k <;> simp

theorem evolves_concludeBy (w : World) (s : Ref) (verdict : Verdict) :
    w.Evolves (w.concludeBy s verdict) := by
  unfold concludeBy
  split
  · rename_i hs
    exact evolves_conclude ⟨s, _, settler?_eq_some_iff.1 hs⟩ verdict
  · exact .refl w

theorem evolves_useSettler (w : World) (s : Ref) : w.Evolves (w.useSettler s) := by
  unfold useSettler
  split
  · rename_i p used hs
    rw [settler?_eq_some_iff] at hs
    have hkind (q : Ref) : (w.modify s fun o => { o with kind := .settler p true }).kind? q =
        if s = q then some (.settler p true) else w.kind? q := by
      rw [kind?_modify]
      split
      · subst q
        obtain ⟨o, ho, -⟩ := Option.map_eq_some_iff.1 hs
        rw [ho]
        rfl
      · rfl
    refine .of_retains (.of_kinds (by simp [modify]) (fun q t ht => ⟨t, ?_, .inl rfl⟩) ?_) rfl
    · rw [promise?_eq_some_iff] at ht ⊢
      rw [hkind, if_neg, ht]
      rintro rfl
      rw [hs] at ht
      cases ht
    · rintro q ⟨s', used', hs'⟩
      rw [hkind] at hs'
      split at hs'
      · cases hs'
        exact ⟨s, used, hs⟩
      · exact ⟨s', used', hs'⟩
  · exact .refl w

end

end World

end ScriptBridge.Script
