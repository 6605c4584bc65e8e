import ScriptBridge.Script.Evolution
import ScriptBridge.Script.Realm

/-!
# The first world

The first world is built by making objects and putting properties into them.  None of these has to
do with promises (`Draft.Unbound`), so there is **nothing that settles one** (`Realm.placed_world`).
-/

namespace ScriptBridge.Script.Realm

variable {α β : Type}

/-- No object in the making has to do with a promise. -/
structure Draft.Unbound (d : Draft) : Prop where
  fixed : ∀ o ∈ d.fixed, o.kind.isBound = false
  later : ∀ o ∈ d.later, o.kind.isBound = false

/-- The steps of a build make none that has. -/
def Builds (p : Build α) : Prop := ∀ d : Draft, d.Unbound → (p.run d).2.Unbound

namespace Draft.Unbound

variable {d : Draft} {o : Object}

theorem push (h : d.Unbound) (ho : o.kind.isBound = false) : (d.push o).Unbound where
  fixed := h.fixed
  later := List.forall_mem_cons.2 ⟨ho, h.later⟩

theorem mem_modify {l : List Object} {i : Nat} {f : Object → Object}
    (h : ∀ o ∈ l, o.kind.isBound = false) (hf : ∀ o, (f o).kind = o.kind) :
    ∀ o ∈ l.modify i f, o.kind.isBound = false := by
  intro o ho
  obtain ⟨j, hj⟩ := List.mem_iff_getElem?.1 ho
  rw [List.getElem?_modify] at hj
  obtain ⟨o', ho', rfl⟩ := Option.map_eq_some_iff.1 hj
  have hbound := h o' (List.mem_of_getElem? ho')
  split
  · rwa [hf]
  · exact hbound

theorem modify (h : d.Unbound) (r : Ref) {f : Object → Object} (hf : ∀ o, (f o).kind = o.kind) :
    (d.modify r f).Unbound := by
  unfold Draft.modify
  split
  · exact ⟨mem_modify h.fixed hf, h.later⟩
  · exact ⟨h.fixed, mem_modify h.later hf⟩

theorem objects (h : d.Unbound) : ∀ o ∈ d.objects, o.kind.isBound = false := by
  intro o ho
  rw [Draft.objects, List.mem_toArray, List.mem_append, List.mem_reverse] at ho
  exact ho.elim (h.fixed o) (h.later o)

end Draft.Unbound

namespace Builds

variable {p : Build α} {f : α → Build β}

theorem pure (a : α) : Builds (Pure.pure a : Build α) := fun _ h => h

theorem get : Builds (MonadState.get : Build Draft) := fun _ h => h

theorem bind (hp : Builds p) (hf : ∀ a, Builds (f a)) : Builds (p >>= f) :=
  fun d h => hf _ _ (hp d h)

theorem map (hp : Builds p) (g : α → β) : Builds (g <$> p) := hp

theorem forM {l : List α} {f : α → Build PUnit} (hf : ∀ a, Builds (f a)) : Builds (l.forM f) := by
  induction l with
  | nil => exact pure _
  | cons a l ih => exact (hf a).bind fun _ => ih

theorem forIn {l : List α} {f : α → PUnit → Build (ForInStep PUnit)} (hf : ∀ a, Builds (f a ⟨⟩)) :
    Builds (ForIn.forIn l PUnit.unit f) := by
  induction l with
  | nil => exact pure _
  | cons a l ih =>
    rw [List.forIn_cons]
    refine (hf a).bind fun step => ?_
    cases step with
    | done _ => exact pure _
    | yield _ => exact ih

theorem make {o : Object} (ho : o.kind.isBound = false) : Builds (make o) := fun _ h => h.push ho

theorem put (r : Ref) (k : Key) (p : Property) : Builds (put r k p) := fun _ h =>
  h.modify r fun o => by unfold Object.put; split <;> rfl

/-! ### Objects with their properties -/

theorem copied (r source : Ref) (original key : Key) : Builds (do
    if let some p := ((← MonadState.get).object source).find? original then
      Realm.put r key p) := by
  refine get.bind fun d => ?_
  cases (d.object source).find? original with
  | none => exact pure _
  | some p => exact put _ _ _

theorem install (r : Ref) (b : Builtin) : Builds (install r b) := by
  unfold Realm.install
  cases b with
  | function key name code length => exact (make rfl).bind fun _ => put _ _ _
  | accessor key name read write =>
    refine (make rfl).bind fun _ => ?_
    cases write with
    | none => exact put _ _ _
    | some code => exact (make rfl).bind fun _ => put _ _ _
  | value key p => exact put _ _ _
  | _ => exact copied _ _ _ _

theorem installAll (r : Ref) (bs : List Builtin) : Builds (installAll r bs) :=
  forM fun b => install r b

theorem tag (r : Ref) (name : String) : Builds (tag r name) := install _ _

theorem publish (name : String) (v : Value) : Builds (publish name v) := put _ _ _

theorem connect (ctor proto : Ref) : Builds (connect ctor proto) :=
  (put _ _ _).bind fun _ => put _ _ _

theorem complete (name : String) (ctor proto : Ref) (statics methods : List Builtin) :
    Builds (complete name ctor proto statics methods) :=
  (installAll _ _).bind fun _ => (connect _ _).bind fun _ => (installAll _ _).bind fun _ =>
    publish _ _

theorem constructor (name : String) (code : Native) (length : Nat) (proto : Ref)
    (statics methods : List Builtin) :
    Builds (constructor name code length proto statics methods) :=
  (make rfl).bind fun _ => complete _ _ _ _ _

theorem toolbox (name : String) (functions : List Builtin) : Builds (toolbox name functions) :=
  (make rfl).bind fun _ => (installAll _ _).bind fun _ => publish _ _

/-! ### The parts of the first world -/

theorem errorConstructor (type : ErrorType) (above : Ref) : Builds (errorConstructor type above) :=
  (make rfl).bind fun _ => (complete _ _ _ _ _).bind fun _ => pure _

theorem errors : Builds errors := by
  refine (errorConstructor _ _).bind fun error => Builds.bind (forIn fun type => ?_) fun _ => pure _
  exact ((errorConstructor type error).map _).bind fun _ => pure _

theorem objects : Builds objects :=
  (make rfl).bind fun _ => (connect _ _).bind fun _ => complete _ _ _ _ _

theorem iterators : Builds iterators := by
  refine (make rfl).bind fun ctor => (put _ _ _).bind fun _ => (installAll _ _).bind fun _ => ?_
  refine (installAll _ _).bind fun _ => (install _ _).bind fun _ => (publish _ _).bind fun _ => ?_
  refine Builds.bind (forIn fun _ => (installAll _ _).bind fun _ => pure _) fun _ => ?_
  refine (installAll _ _).bind fun _ => (installAll _ _).bind fun _ =>
    (install _ _).bind fun _ => ?_
  exact installAll _ _

theorem collections : Builds collections :=
  Builds.bind (forIn fun _ => (constructor _ _ _ _ _ _).bind fun _ => pure _) fun _ => pure _

theorem functionConstructor (name : String) (isAsync isGenerator : Bool) (proto : Ref) :
    Builds (functionConstructor name isAsync isGenerator proto) :=
  (make rfl).bind fun _ => (put _ _ _).bind fun _ => (tag _ _).bind fun _ => put _ _ _

theorem generatorKind (functions generators : Ref) (methods : List Builtin) :
    Builds (generatorKind functions generators methods) :=
  (installAll _ _).bind fun _ => (put _ _ _).bind fun _ => put _ _ _

theorem functions : Builds functions := by
  refine (functionConstructor _ _ _ _).bind fun _ => (functionConstructor _ _ _ _).bind fun _ => ?_
  refine (functionConstructor _ _ _ _).bind fun _ => (generatorKind _ _ _).bind fun _ => ?_
  exact generatorKind _ _ _

theorem constructors : Builds constructors := by
  refine objects.bind fun _ => (constructor _ _ _ _ _ _).bind fun _ => errors.bind fun _ => ?_
  refine iterators.bind fun _ => (complete _ _ _ _ _).bind fun _ =>
    (installAll _ _).bind fun _ => ?_
  refine (constructor _ _ _ _ _ _).bind fun _ => (constructor _ _ _ _ _ _).bind fun _ => ?_
  refine (constructor _ _ _ _ _ _).bind fun _ => (toolbox _ _).bind fun _ => ?_
  refine (toolbox _ _).bind fun _ => (constructor _ _ _ _ _ _).bind fun _ => ?_
  refine functions.bind fun _ => (toolbox _ _).bind fun _ => collections.bind fun _ => ?_
  exact (complete _ _ _ _ _).bind fun _ => constructor _ _ _ _ _ _

theorem clock : Builds clock := by
  refine (make rfl).bind fun r => (make rfl).bind fun _ => (put _ _ _).bind fun _ => ?_
  exact (put _ _ _).bind fun _ => put _ _ _

theorem globals : Builds globals := by
  refine (installAll _ _).bind fun _ => ?_
  refine Builds.bind (forIn fun _ => (put _ _ _).bind fun _ => pure _) fun _ => ?_
  refine (tag _ _).bind fun _ => (publish _ _).bind fun _ => (publish _ _).bind fun _ => ?_
  exact (install _ _).bind fun _ => clock

end Builds

/-- The objects at the fixed places have to do with no promise, and neither has what is made. -/
theorem unbound_draft : draft.Unbound := by
  refine (Builds.constructors.bind fun _ => .globals) {} ⟨?_, fun _ => nofun⟩
  show ∀ o ∈ fixedObjects, o.kind.isBound = false
  decide

/-- **In the first world nothing settles a promise.** -/
theorem placed_world : world.Placed := by
  rintro p ⟨s, used, hs⟩
  obtain ⟨o, ho, hk⟩ := Option.map_eq_some_iff.1 hs
  have hbound := unbound_draft.objects o (Array.mem_of_getElem? ho)
  rw [hk] at hbound
  cases hbound

end ScriptBridge.Script.Realm
