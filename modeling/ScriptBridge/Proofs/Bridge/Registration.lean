import Mathlib.Data.List.Perm.Basic
import Mathlib.Data.String.Basic
import ScriptBridge.Proofs.Bridge.SetUp

/-!
# Installing one host function

A host function is installed by an assignment to the namespace object, and by a descriptor of its
name and its arity.  The assignment is an ordinary one: it makes a property unless it finds a setter
on the way, as `__proto__` is one.

* `mem_insertDescriptor`, `names_insertDescriptor` : descriptors are kept by name.
* `Bridge.Registered` : **what an installation comes to** where the assignment finds no setter. It
  is refused, and the namespace object stays as it is, or both get the function.
* `Bridge.HostBooks` : the namespace object and the descriptors tell the same.
* `Bridge.HostBooks.withFunction` : **an installation keeps the books**, with the function in them.
* `Bridge.Registered.undisturbed` : one that fails leaves alone what they tell of.
-/

namespace ScriptBridge

open Script

/-! ### Descriptors in order -/

/-- The descriptors are in the order of their names, one for each name. -/
def HostDescriptor.Ordered (ds : List HostDescriptor) : Prop :=
  ds.Pairwise fun d e => d.name < e.name

namespace BridgeM

variable {d e : HostDescriptor} {ds : List HostDescriptor}

open HostDescriptor

/-- A descriptor that was inserted takes the place of the one of its name. -/
theorem mem_insertDescriptor (h : Ordered ds) :
    e ∈ insertDescriptor d ds ↔ e = d ∨ e ∈ ds ∧ e.name ≠ d.name := by
  induction ds with
  | nil => simp [insertDescriptor]
  | cons x ds ih =>
    obtain ⟨hx, hds⟩ := List.pairwise_cons.1 h
    have hlater : ∀ y ∈ ds, y.name ≠ x.name := fun y hy => (hx y hy).ne'
    rw [insertDescriptor]
    split_ifs with hlt heq
    -- in front of a greater name: none behind has this name
    · have hnew : e ∈ x :: ds → e.name ≠ d.name := by
        intro he
        obtain rfl | he := List.mem_cons.1 he
        · exact hlt.ne'
        · exact (hlt.trans (hx e he)).ne'
      simp only [List.mem_cons] at hnew ⊢
      grind
    -- in the place of the one with this name, which was the only one
    · have hnew : e ∈ ds → e.name ≠ d.name := fun he => heq ▸ hlater e he
      have hold : e = x → e.name = d.name := by
        rintro rfl
        exact heq.symm
      simp only [List.mem_cons]
      grind
    · have hold : e = x → e.name ≠ d.name := by
        rintro rfl
        exact Ne.symm heq
      simp only [List.mem_cons, ih hds]
      grind

theorem ordered_insertDescriptor (h : Ordered ds) : Ordered (insertDescriptor d ds) := by
  induction ds with
  | nil => exact List.pairwise_singleton _ _
  | cons x ds ih =>
    obtain ⟨hx, hds⟩ := List.pairwise_cons.1 h
    rw [insertDescriptor]
    split_ifs with hlt heq
    · refine List.pairwise_cons.2 ⟨fun y hy => ?_, h⟩
      obtain rfl | hy := List.mem_cons.1 hy
      · exact hlt
      · exact hlt.trans (hx y hy)
    · exact List.pairwise_cons.2 ⟨fun y hy => heq ▸ hx y hy, hds⟩
    · refine List.pairwise_cons.2 ⟨fun y hy => ?_, ih hds⟩
      obtain rfl | ⟨hy, -⟩ := (mem_insertDescriptor hds).1 hy
      · exact lt_of_le_of_ne (not_lt.1 hlt) (Ne.symm heq)
      · exact hx y hy

/-- The names are those of before, and the new one. -/
theorem names_insertDescriptor (h : Ordered ds) : ((insertDescriptor d ds).map (·.name)).Perm
    (if d.name ∈ ds.map (·.name) then ds.map (·.name) else d.name :: ds.map (·.name)) := by
  have hnodup {l : List HostDescriptor} (hl : Ordered l) : (l.map (·.name)).Nodup :=
    List.pairwise_map.2 (hl.imp LT.lt.ne)
  have hmem (s : String) : s ∈ (insertDescriptor d ds).map (·.name) ↔
      s = d.name ∨ s ∈ ds.map (·.name) := by
    simp only [List.mem_map, mem_insertDescriptor h]
    constructor
    · rintro ⟨e, rfl | ⟨he, -⟩, rfl⟩
      · exact .inl rfl
      · exact .inr ⟨e, he, rfl⟩
    · rintro (rfl | ⟨e, he, rfl⟩)
      · exact ⟨d, .inl rfl, rfl⟩
      · by_cases hname : e.name = d.name
        · exact ⟨d, .inl rfl, hname.symm⟩
        · exact ⟨e, .inr ⟨he, hname⟩, rfl⟩
  -- both lists have no name twice, so it is enough that they have the same names
  split_ifs with hd
  · refine (List.perm_ext_iff_of_nodup (hnodup (ordered_insertDescriptor h)) (hnodup h)).2
      fun s => (hmem s).trans (or_iff_right_of_imp ?_)
    rintro rfl
    exact hd
  · refine (List.perm_ext_iff_of_nodup (hnodup (ordered_insertDescriptor h))
      (List.nodup_cons.2 ⟨hd, hnodup h⟩)).2 fun s => ?_
    rw [hmem, List.mem_cons]

end BridgeM

/-! ### Worlds with more objects -/

namespace Script.World

variable {w : World} {r : Ref} {o : Object}

/-- The world with some objects more. -/
def pushAll (w : World) (os : List Object) : World := os.foldl World.push w

theorem getElem?_pushAll (h : w.objects[r]? = some o) (os : List Object) :
    (w.pushAll os).objects[r]? = some o := by
  induction os generalizing w with
  | nil => exact h
  | cons o' os ih => exact ih (getElem?_push_of_some h o')

theorem Ordinary.pushAll (h : w.Ordinary) (os : List Object) : (w.pushAll os).Ordinary := by
  induction os generalizing w with
  | nil => exact h
  | cons o os ih => exact ih (h.push o)

end Script.World

namespace Bridge

open HostDescriptor

variable {b : Bridge} {name : String} {arity : Nat} {f : HostFunction}

/-! ### What an installation comes to -/

/-- The namespace object. -/
def namespaceRecord (b : Bridge) : Object := b.world.objects.getD b.namespaceObject default

/-- An assignment to a name of the namespace object finds no setter.  The flag says whether nothing
forbids it. -/
def Assigns (b : Bridge) (name : String) (writable : Bool) : Prop :=
  b.world.Assigns (Exchange.keyOf name) b.namespaceObject writable

/-- The world where a new function of the host's is bound under a name. -/
def worldWith (b : Bridge) (name : String) (id arity : Nat) : World :=
  (b.world.push (nativeObject (.host id arity) name arity)).withObject b.namespaceObject
    (b.namespaceRecord.assigned (Exchange.keyOf name) (.object b.world.objects.size))

/-- The bridge with a function that is bound under a name. -/
def withFunction (b : Bridge) (name : String) (arity : Nat) (f : HostFunction) : Bridge :=
  { b with
    functions := b.functions.push { run := f }
    descriptors := BridgeM.insertDescriptor ⟨name, arity⟩ b.descriptors
    world := b.worldWith name b.functions.size arity }

/-- What an installation comes to. -/
inductive Registered (b : Bridge) (name : String) (arity : Nat) (f : HostFunction)
    (writable : Bool) : Except BridgeError (Option HostDescriptor) → Bridge → Prop
  | empty (h : name = "") :
    Registered b name arity f writable (.error (.invalidArgument .emptyFunctionName)) b
  | reserved (hne : name ≠ "") (h : name = b.config.asyncEntry) :
    Registered b name arity f writable (.error (.invalidArgument (.reservedName name))) b
  /-- The engine was cut off before, or it refuses.  It may have made a function, and an error. -/
  | failed (hne : name ≠ "") (hentry : name ≠ b.config.asyncEntry) (e : BridgeError)
    (os : List Object) (h : b.isHalted = true ∨ writable = false) :
    Registered b name arity f writable (.error e)
      { b with functions := b.functions.push { run := f }, world := b.world.pushAll os }
  | installed (hne : name ≠ "") (hentry : name ≠ b.config.asyncEntry) :
    Registered b name arity f writable (.ok (b.descriptors.find? fun d => d.name = name))
      (b.withFunction name arity f)

theorem getElem?_namespaceObject (h : b.namespaceObject < b.world.objects.size) :
    b.world.objects[b.namespaceObject]? = some b.namespaceRecord := by
  rw [namespaceRecord, Array.getD_eq_getD_getElem?, Array.getElem?_eq_getElem h]
  rfl

theorem getElem?_worldWith (h : b.namespaceObject < b.world.objects.size) (id arity : Nat) :
    (b.worldWith name id arity).objects[b.namespaceObject]? = some
      (b.namespaceRecord.assigned (Exchange.keyOf name) (.object b.world.objects.size)) :=
  World.getElem?_withObject (World.getElem?_push_of_some (getElem?_namespaceObject h) _) _

/-- The function is a new object, and the others are still what they were. -/
theorem kind?_worldWith (h : b.namespaceObject < b.world.objects.size) (id arity : Nat) (r : Ref) :
    (b.worldWith name id arity).kind? r =
      if r = b.world.objects.size then some (.native (.host id arity) []) else b.world.kind? r := by
  by_cases hr : r = b.namespaceObject
  · subst hr
    rw [World.kind?, getElem?_worldWith h, if_neg (Nat.ne_of_lt h), World.kind?,
      getElem?_namespaceObject h]
    exact congrArg some Object.kind_put
  · rw [World.kind?, worldWith, World.getElem?_withObject_of_ne hr, ← World.kind?,
      World.kind?_push]
    rfl

theorem namespaceRecord_withFunction (h : b.namespaceObject < b.world.objects.size) (name : String)
    (arity : Nat) (f : HostFunction) : (b.withFunction name arity f).namespaceRecord =
      b.namespaceRecord.assigned (Exchange.keyOf name) (.object b.world.objects.size) := by
  rw [namespaceRecord]
  exact World.getD_of_getElem? (getElem?_worldWith h _ _)

/-- The engine makes a function and binds it, or refuses to. -/
theorem ends_assignFunction {writable : Bool} (hassigns : b.Assigns name writable)
    (hordinary : b.namespaceRecord.IsOrdinary) (id arity : Nat) :
    Ends (BridgeM.require do
      let r ← Proc.allocNative (.host id arity) [] name arity
      Proc.set (.object b.namespaceObject) (Exchange.keyOf name) (.object r) true) b fun r b' =>
      (∃ e os, r = .error e ∧ b' = { b with world := b.world.pushAll os } ∧
        (b.isHalted = true ∨ writable = false)) ∨
      r = .ok () ∧ b' = { b with world := b.worldWith name id arity } := by
  generalize hp : (do
    let r ← Proc.allocNative (.host id arity) [] name arity
    Proc.set (.object b.namespaceObject) (Exchange.keyOf name) (.object r) true : Proc Unit) = p
  have hrun : p b.world = Proc.set (.object b.namespaceObject) (Exchange.keyOf name)
      (.object b.world.objects.size) true
      (b.world.push (nativeObject (.host id arity) name arity)) := by
    rw [← hp, Proc.run_bind, allocNative_eq, Outcome.bind]
  rw [Ends]
  obtain hb | hb := Bool.eq_false_or_eq_true b.isHalted
  · -- an engine that was cut off does nothing
    rw [BridgeM.exec_require, if_pos hb]
    exact .inl ⟨.engine .exhausted, [], rfl, rfl, .inl hb⟩
  · have hns := World.getElem?_push_of_some (getElem?_namespaceObject hassigns.lt)
      (nativeObject (.host id arity) name arity)
    obtain hset | ⟨hwritable, message, hset⟩ := Proc.set_eq (hassigns.push _) hns
      hordinary.plain hordinary.extensible
    · rw [BridgeM.exec_require_of_done hb (hrun.trans hset)]
      exact .inr ⟨rfl, rfl⟩
    · -- the function was made all the same, and then an error
      obtain ⟨o, hrefused⟩ := BridgeM.exec_require_of_throwType hb (hrun.trans hset)
      rw [hrefused]
      exact .inl ⟨.engine .refused, [_, o], rfl, rfl, .inr hwritable⟩

theorem ends_registerHost {writable : Bool} (hassigns : b.Assigns name writable)
    (hordinary : b.namespaceRecord.IsOrdinary) (arity : Nat) (f : HostFunction) :
    Ends (BridgeM.registerHost name arity f) b (b.Registered name arity f writable) := by
  unfold BridgeM.registerHost
  split_ifs with hne
  · exact .throw (.empty (String.isEmpty_iff.1 hne))
  replace hne : name ≠ "" := fun h => hne (String.isEmpty_iff.2 h)
  refine .get_bind ?_
  split_ifs with hentry
  · exact .throw (.reserved hne hentry)
  rw [Ends, exec_bind, exec_modifyGet]
  refine Ends.bind (ends_assignFunction (b := { b with functions := b.functions.push { run := f } })
    hassigns hordinary b.functions.size arity) ?_ ?_
  · rintro _ b' (⟨e, os, ⟨⟩, -⟩ | ⟨-, rfl⟩)
    exact .installed hne hentry
  · rintro e b' (⟨_, os, ⟨⟩, rfl, h⟩ | ⟨⟨⟩, -⟩)
    exact .failed hne hentry e os h

/-! ### The books -/

/-- Functions that were installed are still there. -/
theorem functions_push {functions : Array InstalledFunction} {id : Nat} {f : HostFunction}
    (h : (functions[id]?).map (·.run) = some f) (g : InstalledFunction) :
    ((functions.push g)[id]?).map (·.run) = some f := by
  obtain ⟨i, hi, -⟩ := Option.map_eq_some_iff.1 h
  rwa [Array.getElem?_push_lt (Array.getElem?_eq_some_iff.1 hi).1,
    ← Array.getElem?_eq_getElem]

/-- What is bound under a name of the namespace object. -/
def bound (b : Bridge) (name : String) : Option Property :=
  b.namespaceRecord.find? (Exchange.keyOf name)

/-- A host function is bound under the name of a descriptor, with its arity. -/
def Binds (b : Bridge) (d : HostDescriptor) (f : HostFunction) : Prop :=
  ∃ r id : Nat, b.bound d.name = some (.plain (.object r)) ∧
    b.world.kind? r = some (.native (.host id d.arity) []) ∧
    (b.functions[id]?).map (·.run) = some f

/-- The namespace object and the descriptors tell the same: the async entry point is bound, and what
was `installed`, each name with one property and one descriptor. -/
structure HostBooks (b : Bridge) (entry : Ref) (installed : String → Option (Nat × HostFunction)) :
    Prop where
  inWorld : b.namespaceObject < b.world.objects.size
  ordinary : b.namespaceRecord.IsOrdinary
  entryBound : b.bound b.config.asyncEntry = some (.plain (.object entry))
  entryKind : b.world.kind? entry = some (.native .hostAsync [])
  keys : b.namespaceRecord.keys.Perm
    ((b.config.asyncEntry :: b.descriptors.map (·.name)).map Exchange.keyOf)
  ordered : Ordered b.descriptors
  binds : ∀ d ∈ b.descriptors, ∃ f, installed d.name = some (d.arity, f) ∧ b.Binds d f
  listed : ∀ name arity f, installed name = some (arity, f) → ⟨name, arity⟩ ∈ b.descriptors

/-- Scripts have left alone the namespace object, and what the functions on it are. -/
structure LeavesNamespace (b b' : Bridge) : Prop where
  record : ∀ o, b.world.objects[b.namespaceObject]? = some o →
    b'.world.objects[b.namespaceObject]? = some o
  kinds : ∀ name r k, b.bound name = some (.plain (.object r)) → b.world.kind? r = some k →
    b'.world.kind? r = some k

/-- What the books tell of is as it was. -/
structure Undisturbed (b b' : Bridge) : Prop extends LeavesNamespace b b' where
  config : b'.config = b.config
  namespaceObject : b'.namespaceObject = b.namespaceObject
  descriptors : b'.descriptors = b.descriptors
  functions : ∀ (id : Nat) (f : HostFunction), (b.functions[id]?).map (·.run) = some f →
    (b'.functions[id]?).map (·.run) = some f

variable {b' : Bridge} {entry : Ref} {installed : String → Option (Nat × HostFunction)}

namespace Undisturbed

theorem refl (b : Bridge) : b.Undisturbed b :=
  ⟨⟨fun _ => id, fun _ _ _ _ => id⟩, rfl, rfl, rfl, fun _ _ => id⟩

theorem getElem? (h : b.Undisturbed b') (hlt : b.namespaceObject < b.world.objects.size) :
    b'.world.objects[b'.namespaceObject]? = some b.namespaceRecord := by
  rw [h.namespaceObject]
  exact h.record _ (getElem?_namespaceObject hlt)

theorem namespaceRecord (h : b.Undisturbed b')
    (hlt : b.namespaceObject < b.world.objects.size) : b'.namespaceRecord = b.namespaceRecord :=
  World.getD_of_getElem? (h.getElem? hlt)

end Undisturbed

namespace HostBooks

/-- The books are kept where nobody touches what they tell of. -/
theorem undisturbed (h : b.HostBooks entry installed) (hsame : b.Undisturbed b') :
    b'.HostBooks entry installed := by
  have hrecord := hsame.namespaceRecord h.inWorld
  have hbound (name : String) : b'.bound name = b.bound name := by
    rw [bound, bound, hrecord]
  constructor
  · exact (Array.getElem?_eq_some_iff.1 (hsame.getElem? h.inWorld)).1
  · rw [hrecord]
    exact h.ordinary
  · rw [hsame.config, hbound]
    exact h.entryBound
  · exact hsame.kinds _ _ _ h.entryBound h.entryKind
  · rw [hrecord, hsame.config, hsame.descriptors]
    exact h.keys
  · rw [hsame.descriptors]
    exact h.ordered
  · intro d hd
    rw [hsame.descriptors] at hd
    obtain ⟨f, hinstalled, r, id, hr, hkind, hf⟩ := h.binds d hd
    exact ⟨f, hinstalled, r, id, (hbound _).trans hr, hsame.kinds _ _ _ hr hkind,
      hsame.functions id f hf⟩
  · rw [hsame.descriptors]
    exact h.listed

/-- The names that are bound are that of the entry point and those of the descriptors. -/
theorem mem_keys_iff (h : b.HostBooks entry installed) :
    Exchange.keyOf name ∈ b.namespaceRecord.keys ↔
      name = b.config.asyncEntry ∨ name ∈ b.descriptors.map (·.name) := by
  rw [h.keys.mem_iff, List.mem_map_of_injective keyOf_injective, List.mem_cons]

/-- What is bound is an object that an assignment bound. -/
theorem bound_eq (h : b.HostBooks entry installed) (name : String) :
    b.bound name = none ∨ ∃ r, b.bound name = some (.plain (.object r)) := by
  by_cases hname : Exchange.keyOf name ∈ b.namespaceRecord.keys
  · obtain rfl | hd := h.mem_keys_iff.1 hname
    · exact .inr ⟨entry, h.entryBound⟩
    · obtain ⟨d, hmem, rfl⟩ := List.mem_map.1 hd
      obtain ⟨f, -, r, id, hr, -⟩ := h.binds d hmem
      exact .inr ⟨r, hr⟩
  · exact .inl ((Object.find?_eq_none_iff h.ordinary.plain).2 hname)

/-- The keys after a name was bound are the names after its descriptor was inserted. -/
theorem keys_insertDescriptor (h : b.HostBooks entry installed)
    (hentry : name ≠ b.config.asyncEntry) (arity : Nat) :
    (if Exchange.keyOf name ∈ b.namespaceRecord.keys then b.namespaceRecord.keys
      else b.namespaceRecord.keys ++ [Exchange.keyOf name]).Perm
    ((b.config.asyncEntry :: (BridgeM.insertDescriptor ⟨name, arity⟩ b.descriptors).map
      (·.name)).map Exchange.keyOf) := by
  refine List.Perm.trans ?_
    (((BridgeM.names_insertDescriptor h.ordered).symm.cons b.config.asyncEntry).map Exchange.keyOf)
  simp only [h.mem_keys_iff, or_iff_right hentry]
  split_ifs with hname
  · exact h.keys
  · refine (h.keys.append_right _).trans (List.perm_append_comm.trans ?_)
    exact List.Perm.swap _ _ _

/-- An assignment to it binds another object, and nothing else changes. -/
theorem assigned_eq_put (h : b.HostBooks entry installed) (name : String) (v : Value) :
    b.namespaceRecord.assigned (Exchange.keyOf name) v =
      b.namespaceRecord.put (Exchange.keyOf name) (.plain v) := by
  have hbound := h.bound_eq name
  rw [bound] at hbound
  obtain hnone | ⟨r, hr⟩ := hbound
  · rw [Object.assigned, hnone]
  · rw [Object.assigned, hr]
    rfl

/-- What is bound after a function was. -/
theorem bound_withFunction (h : b.HostBooks entry installed) (name : String) (arity : Nat)
    (f : HostFunction) (name' : String) : (b.withFunction name arity f).bound name' =
      if name' = name then some (.plain (.object b.world.objects.size)) else b.bound name' := by
  rw [bound, namespaceRecord_withFunction h.inWorld, h.assigned_eq_put,
    Object.find?_put h.ordinary.plain]
  simp only [keyOf_injective.eq_iff, bound]

/-- Whatever was an object of some kind still is, and the function is a new one. -/
theorem kind?_withFunction (h : b.HostBooks entry installed) (name : String) (arity : Nat)
    (f : HostFunction) {r : Ref} {k : ObjectKind} (hk : b.world.kind? r = some k) :
    (b.withFunction name arity f).world.kind? r = some k := by
  refine (kind?_worldWith h.inWorld _ _ _).trans ?_
  rw [if_neg (Nat.ne_of_lt (World.lt_of_kind? hk)), hk]

theorem binds_withFunction (h : b.HostBooks entry installed) (name : String) (arity : Nat)
    (f : HostFunction) : (b.withFunction name arity f).Binds ⟨name, arity⟩ f := by
  refine ⟨_, b.functions.size, ?_, (kind?_worldWith h.inWorld _ _ _).trans (if_pos rfl), ?_⟩
  · rw [h.bound_withFunction, if_pos rfl]
  · rw [Bridge.withFunction, Array.getElem?_push_size]
    rfl

theorem binds_withFunction_of_ne (h : b.HostBooks entry installed) {d : HostDescriptor}
    {g : HostFunction} (hd : d.name ≠ name) (hbinds : b.Binds d g) (arity : Nat)
    (f : HostFunction) : (b.withFunction name arity f).Binds d g := by
  obtain ⟨r, id, hr, hkind, hg⟩ := hbinds
  refine ⟨r, id, ?_, h.kind?_withFunction _ _ _ hkind, functions_push hg _⟩
  rwa [h.bound_withFunction, if_neg hd]

/-- **An installation keeps the books**, with the function under its name. -/
theorem withFunction (h : b.HostBooks entry installed) (hentry : name ≠ b.config.asyncEntry)
    (arity : Nat) (f : HostFunction) : (b.withFunction name arity f).HostBooks entry
      (Function.update installed name (some (arity, f))) := by
  have hrecord := namespaceRecord_withFunction h.inWorld name arity f
  -- the entry point has another name; each descriptor is the new one, or has another name too
  constructor
  · exact (Array.getElem?_eq_some_iff.1 (getElem?_worldWith h.inWorld _ _)).1
  · rw [hrecord]
    exact h.ordinary.assigned _ _
  · exact (h.bound_withFunction _ _ _ _).trans ((if_neg hentry.symm).trans h.entryBound)
  · exact h.kind?_withFunction _ _ _ h.entryKind
  · rw [hrecord, h.assigned_eq_put, Object.keys_put h.ordinary.plain]
    exact h.keys_insertDescriptor hentry arity
  · exact BridgeM.ordered_insertDescriptor h.ordered
  · intro d hd
    obtain rfl | ⟨hd, hne⟩ := (BridgeM.mem_insertDescriptor h.ordered).1 hd
    · exact ⟨f, Function.update_self .., h.binds_withFunction name arity f⟩
    · obtain ⟨g, hinstalled, hbinds⟩ := h.binds d hd
      refine ⟨g, ?_, h.binds_withFunction_of_ne hne hbinds arity f⟩
      rwa [Function.update_of_ne hne]
  · intro name' arity' f' hf'
    refine (BridgeM.mem_insertDescriptor h.ordered).2 ?_
    by_cases hname : name' = name
    · subst hname
      rw [Function.update_self] at hf'
      obtain ⟨rfl, rfl⟩ := Prod.mk.inj (Option.some.inj hf')
      exact .inl rfl
    · rw [Function.update_of_ne hname] at hf'
      exact .inr ⟨h.listed _ _ _ hf', hname⟩

/-- In an ordinary world it is only the prototype's name that cannot be assigned to. -/
theorem assigns (h : b.HostBooks entry installed) (hw : b.world.Ordinary)
    (hname : name ≠ "__proto__") : b.Assigns name true := by
  obtain ⟨writable, hassigns, hwritable⟩ :=
    hw.inherits.assigns (getElem?_namespaceObject h.inWorld) h.ordinary (keyOf_ne hname)
  rwa [hwritable] at hassigns
  intro p hp
  obtain hnone | ⟨r, hr⟩ := h.bound_eq name
  · cases hp.symm.trans hnone
  · obtain rfl := Option.some.inj (hp.symm.trans hr)
    rfl

end HostBooks

namespace Registered

variable {writable : Bool} {r : Except BridgeError (Option HostDescriptor)}

theorem settings (h : b.Registered name arity f writable r b') :
    b'.config = b.config ∧ b'.namespaceObject = b.namespaceObject := by
  cases h <;> exact ⟨rfl, rfl⟩

/-- **An installation that fails** leaves alone what the books tell of. -/
theorem undisturbed {e : BridgeError} (h : b.Registered name arity f writable (.error e) b') :
    b.Undisturbed b' := by
  cases h with
  | empty => exact .refl b
  | reserved => exact .refl b
  | failed _ _ _ os =>
    refine ⟨⟨fun o ho => World.getElem?_pushAll ho os, fun _ r k _ hk => ?_⟩, rfl, rfl, rfl,
      fun id g hg => functions_push hg _⟩
    obtain ⟨o, ho, rfl⟩ := Option.map_eq_some_iff.1 hk
    exact Option.map_eq_some_iff.2 ⟨o, World.getElem?_pushAll ho os, rfl⟩

theorem eq_of_empty (h : b.Registered name arity f writable r b') (hname : name = "") :
    r = .error (.invalidArgument .emptyFunctionName) := by
  cases h with
  | empty => rfl
  | reserved hne => exact absurd hname hne
  | failed hne => exact absurd hname hne
  | installed hne => exact absurd hname hne

theorem eq_of_reserved (h : b.Registered name arity f writable r b') (hne : name ≠ "")
    (hname : name = b.config.asyncEntry) :
    r = .error (.invalidArgument (.reservedName name)) := by
  cases h with
  | empty h => exact absurd h hne
  | reserved => rfl
  | failed _ hentry => exact absurd hname hentry
  | installed _ hentry => exact absurd hname hentry

/-- An installation that succeeds. -/
theorem eq_of_ok {d : Option HostDescriptor} (h : b.Registered name arity f writable (.ok d) b') :
    name ≠ b.config.asyncEntry ∧ d = (b.descriptors.find? fun d => d.name = name) ∧
      b' = b.withFunction name arity f := by
  cases h with
  | installed _ hentry => exact ⟨hentry, rfl, rfl⟩

/-- It succeeds where the name may be used and nothing forbids it. -/
theorem exists_ok (h : b.Registered name arity f true r b') (hne : name ≠ "")
    (hentry : name ≠ b.config.asyncEntry) (hb : b.isHalted = false) : ∃ d, r = .ok d := by
  cases h with
  | empty h => exact absurd h hne
  | reserved _ h => exact absurd h hentry
  | failed _ _ _ _ h =>
    rw [hb] at h
    simp at h
  | installed => exact ⟨_, rfl⟩

/-- The world is still an ordinary one, and the engine is still to be used. -/
theorem ordinary (h : b.Registered name arity f writable r b') (hb : b.HostBooks entry installed)
    (hw : b.world.Ordinary) : b'.world.Ordinary ∧ b'.isHalted = b.isHalted := by
  cases h with
  | empty => exact ⟨hw, rfl⟩
  | reserved => exact ⟨hw, rfl⟩
  | failed _ _ _ os => exact ⟨hw.pushAll os, rfl⟩
  | installed =>
    have hns := World.getElem?_push_of_some (getElem?_namespaceObject hb.inWorld)
      (nativeObject (.host b.functions.size arity) name arity)
    exact ⟨(hw.push _).assigned hns hb.ordinary _ _, rfl⟩

end Registered

end Bridge

end ScriptBridge
