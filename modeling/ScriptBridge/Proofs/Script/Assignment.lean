import Mathlib.Data.List.Basic
import ScriptBridge.Proofs.Script.Failure

/-!
# Assigning to a property

An assignment looks for the property along the chain of prototypes.  If it finds one with a setter
it runs that, whatever it does; otherwise it changes the object that it was made to, or throws.

* `Object.find?_put`, `Object.keys_put` : what an ordinary object has after one property was put.
* `World.Assigns w k r b` : an assignment to `k` of `r` finds **no setter**; if `b` nothing forbids
  it.
* `Proc.set_eq` : **then it changes that object, and nothing else**, or it throws a type error.
-/

namespace ScriptBridge.Script

/-! ### Ordinary objects -/

namespace Object

variable {o : Object} {k k' : Key} {p : Property}

/-- The keys of the properties that an object holds. -/
def keys (o : Object) : List Key := o.props.toList.map (·.1)

theorem position?_of_plain (hkind : o.kind = .plain) (k : Key) :
    o.position? k = o.props.toList.findIdx? fun q => q.1 == k := by
  simp only [position?, hkind]
  rw [← List.findIdx?_toArray]

theorem find?_of_plain (hkind : o.kind = .plain) (k : Key) :
    o.find? k = (o.props.toList.find? fun q => q.1 == k).map (·.2) := by
  rw [find?, position?_of_plain hkind, List.find?_eq_bind_findIdx?_getElem?, Option.map_bind]
  simp only [Array.getElem?_toList]
  rfl

/-- What is found is among the properties. -/
theorem mem_of_find? (hkind : o.kind = .plain) (h : o.find? k = some p) :
    (k, p) ∈ o.props.toList := by
  rw [find?_of_plain hkind] at h
  obtain ⟨q, hq, rfl⟩ := Option.map_eq_some_iff.1 h
  have hkey : q.1 = k := by simpa using List.find?_some hq
  rw [← hkey]
  exact List.mem_of_find?_eq_some hq

@[simp] theorem kind_put : (o.put k p).kind = o.kind := by
  unfold put
  split <;> rfl

@[simp] theorem proto_put : (o.put k p).proto = o.proto := by
  unfold put
  split <;> rfl

@[simp] theorem extensible_put : (o.put k p).extensible = o.extensible := by
  unfold put
  split <;> rfl

/-- A list of properties with one put into it, in the place of the one under its key. -/
def putIn (k : Key) (p : Property) : List (Key × Property) → List (Key × Property)
  | [] => [(k, p)]
  | q :: rest => if q.1 == k then (k, p) :: rest else q :: putIn k p rest

theorem props_put (hkind : o.kind = .plain) :
    (o.put k p).props.toList = putIn k p o.props.toList := by
  -- by the place that is found in the array, and by recursion on the list
  have hlist : ∀ l : List (Key × Property), (l.findIdx? fun q => q.1 == k).elim (l ++ [(k, p)])
      (fun i => l.set i (k, p)) = putIn k p l := by
    intro l
    induction l with
    | nil => rfl
    | cons q rest ih =>
      rw [List.findIdx?_cons, putIn]
      split_ifs with hq
      · rfl
      · rw [← ih]
        cases rest.findIdx? fun q => q.1 == k <;> rfl
  rw [put, position?_of_plain hkind, ← hlist]
  cases o.props.toList.findIdx? fun q => q.1 == k with
  | some i => simp
  | none => simp

/-- An object has the property that was put, and those that it had under other keys. -/
theorem find?_put (hkind : o.kind = .plain) :
    (o.put k p).find? k' = if k' = k then some p else o.find? k' := by
  rw [find?_of_plain (kind_put.trans hkind), find?_of_plain hkind, props_put hkind]
  induction o.props.toList with
  | nil =>
    by_cases h : k' = k
    · simp [putIn, h]
    · simp [putIn, h, Ne.symm h]
  | cons q rest ih =>
    rw [putIn]
    by_cases hq : q.1 = k
    · by_cases h : k' = k
      · simp [hq, h]
      · simp [hq, h, Ne.symm h]
    · by_cases h : q.1 = k'
      · have hne : k' ≠ k := fun heq => hq (h.trans heq)
        simp [h, hne]
      · simpa [hq, h] using ih

/-- A new key is the last one. -/
theorem keys_put (hkind : o.kind = .plain) :
    (o.put k p).keys = if k ∈ o.keys then o.keys else o.keys ++ [k] := by
  rw [keys, keys, props_put hkind]
  induction o.props.toList with
  | nil => rfl
  | cons q rest ih =>
    rw [putIn]
    by_cases hq : q.1 = k
    · simp [hq]
    · simp only [beq_iff_eq, hq, if_false, List.map_cons, ih, List.mem_cons, Ne.symm hq, false_or]
      split_ifs <;> rfl

theorem find?_eq_none_iff (hkind : o.kind = .plain) : o.find? k = none ↔ k ∉ o.keys := by
  rw [find?_of_plain hkind, Option.map_eq_none_iff, List.find?_eq_none, keys]
  simp only [beq_iff_eq, List.mem_map, not_exists, not_and]

/-- The object after an assignment to a property: a property that was there keeps what else is known
of it. -/
def assigned (o : Object) (k : Key) (v : Value) : Object :=
  o.put k (match o.find? k with
    | some p => { p with holding := .data v }
    | none => .plain v)

end Object

/-! ### Changing one object -/

namespace World

variable {w : World} {r : Ref} {o : Object}

/-- The world with another object in a place. -/
def withObject (w : World) (r : Ref) (o : Object) : World :=
  { w with objects := w.objects.setIfInBounds r o }

theorem getD_of_getElem? (ho : w.objects[r]? = some o) : w.objects.getD r default = o := by
  rw [Array.getD_eq_getD_getElem?, ho, Option.getD_some]

/-- A change that it may undergo. -/
theorem modify_revised {f : Object → Object} (ho : w.objects[r]? = some o)
    (hf : o.kind.becoming (f o).kind = (f o).kind) :
    w.modify r (Object.revised f) = w.withObject r (f o) := by
  have hrevised : Object.revised f o = f o := by rw [Object.revised, hf]
  have hobjects : w.objects.modify r (Object.revised f) = w.objects.setIfInBounds r (f o) := by
    refine Array.ext_getElem? fun i => ?_
    rw [Array.getElem?_modify, Array.getElem?_setIfInBounds]
    split_ifs with h hi
    · rw [← h, ho, Option.map_some, hrevised]
    · exact absurd (Array.getElem?_eq_some_iff.1 ho).1 hi
    · rfl
  rw [modify, withObject, hobjects]

/-! ### Assignments that find no setter -/

/-- An assignment to a property finds no setter: the first object of the chain that has the property
has it as a value, or none has it.  The flag says whether it may be written. -/
inductive Assigns (w : World) (k : Key) : Ref → Bool → Prop
  | found {r : Ref} {p : Property} (hr : r < w.objects.size)
    (hown : Proc.ownIn w (w.objects.getD r default) k = some p) (hdata : p.isData = true) :
    Assigns w k r p.writable
  | inherited {r q : Ref} {b : Bool} (hr : r < w.objects.size)
    (hown : Proc.ownIn w (w.objects.getD r default) k = none)
    (hproto : (w.objects.getD r default).proto = some q) (h : Assigns w k q b) : Assigns w k r b
  | missing {r : Ref} (hr : r < w.objects.size)
    (hown : Proc.ownIn w (w.objects.getD r default) k = none)
    (hproto : (w.objects.getD r default).proto = none) : Assigns w k r true

namespace Assigns

variable {k : Key} {b : Bool}

theorem lt (h : w.Assigns k r b) : r < w.objects.size := by
  cases h <;> assumption

/-- It finds the same where there is an object more. -/
theorem push (h : w.Assigns k r b) (o : Object) : (w.push o).Assigns k r b := by
  have hlt {r : Ref} (hr : r < w.objects.size) : r < (w.push o).objects.size := by
    rw [size_push]
    exact Nat.lt_succ_of_lt hr
  induction h with
  | found hr hown hdata =>
    exact .found (hlt hr) (by rwa [getD_push o hr, ownIn_push]) hdata
  | inherited hr hown hproto _ ih =>
    exact .inherited (hlt hr) (by rwa [getD_push o hr, ownIn_push]) (by rwa [getD_push o hr]) ih
  | missing hr hown hproto =>
    exact .missing (hlt hr) (by rwa [getD_push o hr, ownIn_push]) (by rwa [getD_push o hr])

/-- What looking up finds, however long it looks. -/
theorem lookupIn (h : w.Assigns k r b) (fuel : Nat) : Proc.lookupIn w k fuel r = none ∨
    ∃ q p, Proc.lookupIn w k fuel r = some (q, p) ∧ p.isData = true ∧ p.writable = b := by
  induction fuel generalizing r with
  | zero => exact .inl rfl
  | succ fuel ih =>
    cases h with
    | found hr hown hdata =>
      refine .inr ⟨r, _, ?_, hdata, rfl⟩
      rw [Proc.lookupIn, hown]
    | inherited hr hown hproto h =>
      rw [Proc.lookupIn, hown]
      simp only [hproto]
      exact ih h
    | missing hr hown hproto =>
      rw [Proc.lookupIn, hown]
      simp only [hproto]
      exact .inl trivial

end Assigns

end World

/-! ### What an assignment comes to -/

namespace Proc

variable {α β : Type} {w : World} {r : Ref} {o : Object} {k : Key} {v : Value} {b : Bool}

/-- Nothing comes after an error of the engine. -/
theorem bind_throwNew (type : ErrorType) (message : String) (f : α → World → Outcome β) :
    ((throwNew type message : Proc α) w).bind f = (throwNew type message : Proc β) w := by
  change Outcome.ask Request.traced w _ = Outcome.ask Request.traced w _
  refine congrArg (Outcome.ask Request.traced w) (funext fun r => funext fun w' => ?_)
  rcases r with v | r
  · rfl
  · cases r <;> rfl

/-- Nothing comes after a type error. -/
theorem bind_throwType (message : String) (f : α → World → Outcome β) :
    ((throwType message : Proc α) w).bind f = (throwType message : Proc β) w :=
  bind_throwNew .typeError message f

/-- Writing to an ordinary object. -/
theorem writeOwn_of_plain (ho : w.objects[r]? = some o) (hkind : o.kind = .plain)
    (hextensible : o.extensible = true)
    (hown : ∀ p, o.find? k = some p → p.isData = true ∧ p.writable = true) :
    writeOwn r k v w = .done none (w.withObject r (o.assigned k v)) := by
  have hget := World.getD_of_getElem? ho
  have hownIn : ownIn w o k = o.find? k := by
    rw [ownIn, hkind]
  have hplace (p : Property) : place o k p = o.put k p := by
    simp only [place, hkind]
  have hmodify (p : Property) : w.modify r (Object.revised fun o => place o k p) =
      w.withObject r (o.put k p) := by
    have hsame : o.kind.becoming (place o k p).kind = (place o k p).kind := by
      rw [hplace, Object.kind_put, ObjectKind.becoming, ite_self]
    rw [World.modify_revised ho hsame, hplace]
  cases hfind : o.find? k with
  | none =>
    have hgrowth : growthFault? o k = none := by
      simp only [growthFault?, hkind, hextensible, if_true]
    simp only [writeOwn, run_bind, run_world, Outcome.bind, hget, hownIn, hfind, hextensible,
      hgrowth]
    change Outcome.done none (w.modify r (Object.revised fun o => place o k (.plain v))) = _
    rw [hmodify, Object.assigned, hfind]
  | some p =>
    obtain ⟨hdata, hwritable⟩ := hown p hfind
    have hparameter : parameter? o k = none := by
      simp only [parameter?, hkind]
    have hdefine : define r k { p with holding := .data v } w =
        .done () (w.withObject r (o.assigned k v)) := by
      simp only [define, run_bind, run_object, hget, hparameter, Outcome.bind]
      change Outcome.done () (w.modify r (Object.revised fun o => place o k _)) = _
      rw [hmodify, Object.assigned, hfind]
    simp only [hwritable] at hdefine
    simp only [writeOwn, run_bind, run_world, Outcome.bind, hget, hownIn, hfind, hkind, hdata,
      hwritable, Bool.not_true, Bool.false_eq_true, if_false, hdefine]
    rfl

/-- An assignment that finds no setter writes to the object itself, unless the property cannot be
written. -/
theorem setOf_eq (h : w.Assigns k r b) :
    (setOf r k v w = writeOwn r k v w ∧
      ∀ p, ownIn w (w.objects.getD r default) k = some p → p.isData = true ∧ p.writable = true) ∨
    b = false ∧ setOf r k v w = .done (some .readOnly) w := by
  -- a property of the object's own is the one that is found
  have hown : ∀ p, ownIn w (w.objects.getD r default) k = some p →
      p.isData = true ∧ p.writable = b := by
    intro p hp
    cases h with
    | found _ hown hdata =>
      obtain rfl := Option.some.inj (hown.symm.trans hp)
      exact ⟨hdata, rfl⟩
    | inherited _ hown => cases hown.symm.trans hp
    | missing _ hown => cases hown.symm.trans hp
  obtain hlook | ⟨q, ⟨holding, writable, _, _⟩, hlook, hdata, rfl⟩ :=
    h.lookupIn (w.objects.size + 1)
  · refine .inl ⟨?_, fun p hp => ?_⟩
    · simp only [setOf, setFor, lookup, run_bind, run_world, Outcome.bind, run_pure, hlook]
    · rw [lookupIn, hp] at hlook
      cases hlook
  · have hfault : setOf r k v w =
        if writable then writeOwn r k v w else .done (some .readOnly) w := by
      simp only [setOf, setFor, lookup, run_bind, run_world, Outcome.bind, run_pure, hlook]
      cases holding with
      | accessor get set => cases hdata
      | _ => cases writable <;> rfl
    cases writable with
    | true => exact .inl ⟨hfault, hown⟩
    | false => exact .inr ⟨rfl, hfault⟩

/-- What is written without a fault is assigned. -/
theorem set_of_setOf {w' : World} (h : setOf r k v w = .done none w') :
    set (.object r) k v true w = .done () w' := by
  simp only [set, run_bind, h, Outcome.bind]
  rfl

/-- **An assignment that finds no setter** changes the object that it is made to, or it is refused
because the property cannot be written. -/
theorem set_eq (h : w.Assigns k r b) (ho : w.objects[r]? = some o) (hkind : o.kind = .plain)
    (hextensible : o.extensible = true) :
    set (.object r) k v true w = .done () (w.withObject r (o.assigned k v)) ∨
      b = false ∧ ∃ message, set (.object r) k v true w = throwType message w := by
  obtain ⟨hset, hown⟩ | ⟨rfl, hset⟩ := setOf_eq (v := v) h
  · refine .inl (set_of_setOf (hset.trans (writeOwn_of_plain ho hkind hextensible fun p hp => ?_)))
    have hownIn : ownIn w o k = o.find? k := by rw [ownIn, hkind]
    exact hown p (by rw [World.getD_of_getElem? ho, hownIn, hp])
  · refine .inr ⟨rfl, WriteFault.readOnly.message (k.label w), ?_⟩
    simp only [set, run_bind, hset, Outcome.bind]
    rfl

end Proc

end ScriptBridge.Script

namespace ScriptBridge

open Script

/-- What throws an error of the engine asks whether anything runs, and then it has made the
error. -/
theorem Bridge.runFor_throwNew {α : Type} (type : ErrorType) (message : String) (w : World)
    (b : Bridge) : runFor stepLimit (.top (Proc.throwNew type message w : Outcome α)) b =
      (some (.error (.object w.objects.size)), { b with
        world := w.push (newError (Intrinsic.errorProto type) (cutMessage message) false) }) := by
  have hlimit : stepLimit = stepLimit - 2 + 1 + 1 := rfl
  rw [hlimit]
  rfl

/-- The engine refuses what the host needs if that throws a type error, and has made an error. -/
theorem BridgeM.exec_require_of_throwType {α : Type} {p : Proc α} {b : Bridge} {w : World}
    {message : String} (hb : b.isHalted = false) (hp : p b.world = Proc.throwType message w) :
    ∃ o, exec (require p) b = (.error (.engine .refused), { b with world := w.push o }) := by
  have hrun := Bridge.runFor_throwNew (α := α) .typeError message w { b with world := default }
  refine ⟨newError (Intrinsic.errorProto .typeError) (cutMessage message) false, ?_⟩
  rw [exec_require, if_neg (Bool.eq_false_iff.1 hb), hp, Proc.throwType]
  simp only [hrun, Option.isNone_some, ← hb]
  rfl

end ScriptBridge
