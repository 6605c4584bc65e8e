import ScriptBridge.Proofs.Script.Assignment
import ScriptBridge.Proofs.Script.Description

/-!
# Setting a bridge up

A bridge is set up by a few assignments: the function that prints and the namespace object are
assigned to the global object, and the async entry point to the namespace object.

* `Realm.ordinary_world` : in the first world `__proto__` is the only name under which an assignment
  finds a setter.
* `Bridge.run_installGlobals` : **what the globals of a bridge are** once they are installed, for
  any other names.
* `Bridge.exists_create` : a bridge of the default configuration can be created.
-/

namespace ScriptBridge

namespace Script

/-- The name under which objects inherit a setter: that of their prototype. -/
def protoKey : Key := .ofString "__proto__"

/-! ### Ordinary objects and worlds -/

/-- An object as scripts make it with braces: its properties are values, and it may get more. -/
structure Object.IsOrdinary (o : Object) : Prop where
  plain : o.kind = .plain
  extensible : o.extensible = true
  proto : o.proto = some Intrinsic.objectProto
  data : ∀ k p, o.find? k = some p → p.isData = true

/-- It still is one after an assignment. -/
theorem Object.IsOrdinary.assigned {o : Object} (ho : o.IsOrdinary) (k : Key) (v : Value) :
    (o.assigned k v).IsOrdinary where
  plain := Object.kind_put.trans ho.plain
  extensible := Object.extensible_put.trans ho.extensible
  proto := Object.proto_put.trans ho.proto
  data k' p hp := by
    rw [Object.assigned, Object.find?_put ho.plain] at hp
    split_ifs at hp with hk
    · obtain rfl := Option.some.inj hp
      cases o.find? k <;> rfl
    · exact ho.data k' p hp

namespace World

variable {w : World} {k : Key} {o : Object} {r q : Ref}

/-- What objects inherit are values that may be written, but for one. -/
def Inherits (w : World) : Prop :=
  ∃ q, w.objects[Intrinsic.objectProto]? = some q ∧ q.kind = .plain ∧ q.proto = none ∧
    ∀ k p, q.find? k = some p → k = protoKey ∨ p.isData = true ∧ p.writable = true

/-- The global object is ordinary, and what objects inherit are values that may be written, but for
one. -/
structure Ordinary (w : World) : Prop where
  global : ∃ g, w.objects[Intrinsic.global]? = some g ∧ g.IsOrdinary
  base : ∃ q, w.objects[Intrinsic.objectProto]? = some q ∧ q.kind = .plain ∧ q.proto = none ∧
    ∀ k p, q.find? k = some p → k = protoKey ∨ p.isData = true ∧ p.writable = true

theorem getElem?_push_of_some (h : w.objects[r]? = some o) (o' : Object) :
    (w.push o').objects[r]? = some o := by
  obtain ⟨hr, ho⟩ := Array.getElem?_eq_some_iff.1 h
  rw [World.push, Array.getElem?_push_lt hr, ho]

theorem getElem?_push_size (w : World) (o : Object) :
    (w.push o).objects[w.objects.size]? = some o := Array.getElem?_push_size

theorem getElem?_withObject (h : w.objects[r]? = some o) (o' : Object) :
    (w.withObject r o').objects[r]? = some o' := by
  rw [withObject, Array.getElem?_setIfInBounds_self_of_lt (Array.getElem?_eq_some_iff.1 h).1]

theorem getElem?_withObject_of_ne (h : q ≠ r) (o' : Object) :
    (w.withObject r o').objects[q]? = w.objects[q]? :=
  Array.getElem?_setIfInBounds_ne h.symm

theorem ownIn_of_plain (w : World) (k : Key) (ho : o.kind = .plain) :
    Proc.ownIn w o k = o.find? k := by
  rw [Proc.ownIn, ho]

namespace Inherits

/-- The chain of prototypes ends at an object without a setter under any other name. -/
theorem assigns_objectProto (h : w.Inherits) (hk : k ≠ protoKey) :
    w.Assigns k Intrinsic.objectProto true := by
  obtain ⟨q, hq, hqkind, hqproto, hqdata⟩ := h
  have hqr := (Array.getElem?_eq_some_iff.1 hq).1
  cases hqfind : q.find? k with
  | none =>
    refine .missing hqr ?_ (by rw [getD_of_getElem? hq, hqproto])
    rw [getD_of_getElem? hq, ownIn_of_plain w k hqkind, hqfind]
  | some p =>
    obtain ⟨hdata, hwritable⟩ := (hqdata k p hqfind).resolve_left hk
    rw [← hwritable]
    refine .found hqr ?_ hdata
    rw [getD_of_getElem? hq, ownIn_of_plain w k hqkind, hqfind]

/-- An assignment to an ordinary object finds no setter under any other name; nothing forbids it but
a property of the object's own. -/
theorem assigns (h : w.Inherits) (ho : w.objects[r]? = some o) (hordinary : o.IsOrdinary)
    (hk : k ≠ protoKey) : ∃ b, w.Assigns k r b ∧
      ((∀ p, o.find? k = some p → p.writable = true) → b = true) := by
  have hr := (Array.getElem?_eq_some_iff.1 ho).1
  -- the chain of prototypes has two objects: this one, and what all objects inherit from
  cases hfind : o.find? k with
  | some p =>
    refine ⟨p.writable, .found hr ?_ (hordinary.data k p hfind), fun hp => hp p rfl⟩
    rw [getD_of_getElem? ho, ownIn_of_plain w k hordinary.plain, hfind]
  | none =>
    refine ⟨true, .inherited hr ?_ ?_ (h.assigns_objectProto hk), fun _ => rfl⟩
    · rw [getD_of_getElem? ho, ownIn_of_plain w k hordinary.plain, hfind]
    · rw [getD_of_getElem? ho, hordinary.proto]

/-- So it changes that object. -/
theorem set_eq (h : w.Inherits) (ho : w.objects[r]? = some o) (hordinary : o.IsOrdinary)
    (hk : k ≠ protoKey) (v : Value) :
    Proc.set (.object r) k v true w = .done () (w.withObject r (o.assigned k v)) ∨
      o.find? k ≠ none ∧ ∃ message, Proc.set (.object r) k v true w = Proc.throwType message w := by
  obtain ⟨b, hassigns, hnew⟩ := h.assigns ho hordinary hk
  refine (Proc.set_eq hassigns ho hordinary.plain hordinary.extensible).imp_right ?_
  rintro ⟨rfl, hthrows⟩
  refine ⟨fun hnone => Bool.false_ne_true (hnew fun p hp => ?_), hthrows⟩
  cases hnone.symm.trans hp

end Inherits

namespace Ordinary

theorem inherits (h : w.Ordinary) : w.Inherits := h.base

theorem push (h : w.Ordinary) (o : Object) : (w.push o).Ordinary := by
  obtain ⟨g, hg, hordinary⟩ := h.global
  obtain ⟨q, hq, hbase⟩ := h.base
  exact ⟨⟨g, getElem?_push_of_some hg o, hordinary⟩, ⟨q, getElem?_push_of_some hq o, hbase⟩⟩

/-- What every object inherits from is not an ordinary object. -/
theorem ne_objectProto (h : w.Ordinary) (ho : w.objects[r]? = some o) (hordinary : o.IsOrdinary) :
    Intrinsic.objectProto ≠ r := by
  rintro rfl
  obtain ⟨q, hq, -, hproto, -⟩ := h.base
  obtain rfl := Option.some.inj (hq.symm.trans ho)
  rw [hordinary.proto] at hproto
  cases hproto

theorem assigned (h : w.Ordinary) (ho : w.objects[r]? = some o) (hordinary : o.IsOrdinary) (k : Key)
    (v : Value) : (w.withObject r (o.assigned k v)).Ordinary := by
  obtain ⟨q, hq, hbase⟩ := h.base
  refine ⟨?_, ⟨q, ?_, hbase⟩⟩
  · obtain ⟨g, hg, hglobal⟩ := h.global
    -- the object that is assigned to may be the global object itself
    by_cases hr : Intrinsic.global = r
    · subst hr
      exact ⟨_, getElem?_withObject hg _, hordinary.assigned k v⟩
    · exact ⟨g, (getElem?_withObject_of_ne hr _).trans hg, hglobal⟩
  · exact (getElem?_withObject_of_ne (h.ne_objectProto ho hordinary) _).trans hq

theorem set_eq (h : w.Ordinary) (ho : w.objects[r]? = some o) (hordinary : o.IsOrdinary)
    (hk : k ≠ protoKey) (v : Value) :
    Proc.set (.object r) k v true w = .done () (w.withObject r (o.assigned k v)) ∨
      o.find? k ≠ none ∧ ∃ message, Proc.set (.object r) k v true w = Proc.throwType message w :=
  h.inherits.set_eq ho hordinary hk v

end Ordinary

end World

end Script

namespace Bridge

open Script

/-! ### Installing the globals -/

/-- A function of the host's, as it is made. -/
def nativeObject (code : Native) (name : String) (length : Nat) : Object :=
  { kind := .native code [], proto := some Intrinsic.functionProto, props := #[
      (Key.length, ⟨.data (Value.ofNat length), false, false, true⟩),
      (Key.ofString "name", ⟨.data (Value.ofString name), false, false, true⟩)] }

theorem allocNative_eq (code : Native) (name : String) (length : Nat) (w : World) :
    Proc.allocNative code [] name length w =
      .done w.objects.size (w.push (nativeObject code name length)) := rfl

/-- The async entry point. -/
def entryObject (c : BridgeConfig) : Object := nativeObject .hostAsync c.asyncEntry 1

/-- The namespace object of a new bridge. -/
def namespaceOf (c : BridgeConfig) (entry : Ref) : Object :=
  { kind := .plain, proto := some Intrinsic.objectProto,
    props := #[(Exchange.keyOf c.asyncEntry, .plain (.object entry))] }

/-- A world where the globals of a bridge were just installed. -/
structure Installed (c : BridgeConfig) (w w' : World) (ns : Ref) : Prop where
  ordinary : w'.Ordinary
  entry : ∃ e, w'.objects[ns]? = some (namespaceOf c e) ∧ w'.objects[e]? = some (entryObject c)
  jobs : w'.jobs = w.jobs
  /-- Of the objects that were there, only the global object has changed. -/
  others : ∀ r, r ≠ Intrinsic.global → ∀ o, w.objects[r]? = some o → w'.objects[r]? = some o

/-- There are no global variables yet of the names that a bridge makes. -/
def Vacant (c : BridgeConfig) (w : World) : Prop :=
  c.hostNamespace ≠ "print" ∧ ∀ g, w.objects[Intrinsic.global]? = some g →
    g.find? (Key.ofString "print") = none ∧ g.find? (Exchange.keyOf c.hostNamespace) = none

theorem keyOf_injective : Function.Injective Exchange.keyOf := by
  intro s t h
  have hstr := congrArg Key.str? h
  rw [Exchange.keyOf, Exchange.keyOf, Key.str?_ofStr, Key.str?_ofStr] at hstr
  exact Str.ofString_injective (Option.some.inj hstr)

theorem keyOf_ne {s t : String} (h : s ≠ t) : Exchange.keyOf s ≠ Key.ofString t :=
  fun heq => h (keyOf_injective heq)

/-- An object as scripts make it with empty braces. -/
def emptyObject : Object := { kind := .plain, proto := some Intrinsic.objectProto }

theorem find?_emptyObject (k : Key) : emptyObject.find? k = none := by
  rw [Object.find?_eq_none_iff rfl]
  exact List.not_mem_nil

theorem isOrdinary_emptyObject : emptyObject.IsOrdinary where
  plain := rfl
  extensible := rfl
  proto := rfl
  data k p hp := by
    rw [find?_emptyObject] at hp
    cases hp

theorem assigned_emptyObject (c : BridgeConfig) (entry : Ref) :
    emptyObject.assigned (Exchange.keyOf c.asyncEntry) (.object entry) = namespaceOf c entry := by
  have hposition : emptyObject.position? (Exchange.keyOf c.asyncEntry) = none :=
    Object.position?_of_plain rfl _
  rw [Object.assigned, find?_emptyObject, Object.put, hposition]
  rfl

/-- The namespace object is made and gets the async entry point. -/
theorem set_entry {c : BridgeConfig} {w : World} (hw : w.Ordinary)
    (hentry : c.asyncEntry ≠ "__proto__") : ∃ w',
    Proc.set (.object w.objects.size) (Exchange.keyOf c.asyncEntry) (.object (w.objects.size + 1))
      true ((w.push emptyObject).push (entryObject c)) = .done () w' ∧ w'.Ordinary ∧
      w'.objects[w.objects.size]? = some (namespaceOf c (w.objects.size + 1)) ∧
      w'.objects[w.objects.size + 1]? = some (entryObject c) ∧
      (∀ r < w.objects.size, w'.objects[r]? = w.objects[r]?) ∧ w'.jobs = w.jobs := by
  have hhere := World.getElem?_push_of_some (w.getElem?_push_size emptyObject) (entryObject c)
  have hw₂ := (hw.push emptyObject).push (entryObject c)
  have hsize : (w.push emptyObject).objects.size = w.objects.size + 1 := size_push w _
  have hlast := (w.push emptyObject).getElem?_push_size (entryObject c)
  rw [hsize] at hlast
  obtain hset | ⟨hthere, -⟩ := hw₂.set_eq hhere isOrdinary_emptyObject (keyOf_ne hentry)
    (.object (w.objects.size + 1))
  case inr => exact absurd (find?_emptyObject _) hthere
  refine ⟨_, hset, hw₂.assigned hhere isOrdinary_emptyObject _ _, ?_, ?_, fun r hr => ?_, rfl⟩
  · rw [World.getElem?_withObject hhere, assigned_emptyObject]
  · rwa [World.getElem?_withObject_of_ne (Nat.succ_ne_self _)]
  · rw [World.getElem?_withObject_of_ne (Nat.ne_of_lt hr)]
    obtain ⟨o, ho⟩ : ∃ o, w.objects[r]? = some o := ⟨_, Array.getElem?_eq_getElem hr⟩
    rw [ho]
    exact World.getElem?_push_of_some (World.getElem?_push_of_some ho _) _

/-- **The globals of a bridge**, where no name is that of the prototype: the namespace object has
the async entry point and nothing else. -/
theorem run_installGlobals {c : BridgeConfig} {w : World} (hw : w.Ordinary)
    (hentry : c.asyncEntry ≠ "__proto__") (hns : c.hostNamespace ≠ "__proto__") :
    (∃ ns w', installGlobals c w = .done ns w' ∧ Installed c w w' ns) ∨
      ¬ Vacant c w ∧ ∃ message w', installGlobals c w = Proc.throwType message w' := by
  -- the function that prints
  obtain ⟨print, hprint⟩ : ∃ o, Proc.allocNative .print [] "print" 0 w =
      .done w.objects.size (w.push o) := ⟨_, allocNative_eq ..⟩
  have hw₁ := hw.push print
  obtain ⟨g, hg, hglobal⟩ := hw.global
  have hg₁ := World.getElem?_push_of_some hg print
  have hprintName : Key.ofString "print" ≠ protoKey := keyOf_ne (by decide)
  obtain hset | ⟨hthere, message, hthrow⟩ :=
    hw₁.set_eq hg₁ hglobal hprintName (.object w.objects.size)
  case inr =>
    refine .inr ⟨fun hvacant => hthere (hvacant.2 g hg).1, message, w.push print, ?_⟩
    rw [installGlobals, Proc.run_bind, hprint]
    simp only [Outcome.bind, Proc.run_bind, hthrow, Proc.bind_throwType]
  generalize hw₂ : (w.push print).withObject Intrinsic.global
    (g.assigned (Key.ofString "print") (.object w.objects.size)) = w₂ at hset
  have hordinary₂ : w₂.Ordinary := hw₂ ▸ hw₁.assigned hg₁ hglobal _ _
  have hg₂ : w₂.objects[Intrinsic.global]? =
      some (g.assigned (Key.ofString "print") (.object w.objects.size)) := by
    rw [← hw₂, World.getElem?_withObject hg₁]
  have hjobs₂ : w₂.jobs = w.jobs := by rw [← hw₂]; rfl
  have hothers₂ : ∀ r, r ≠ Intrinsic.global → ∀ o, w.objects[r]? = some o →
      w₂.objects[r]? = some o := by
    intro r hr o ho
    rw [← hw₂, World.getElem?_withObject_of_ne hr]
    exact World.getElem?_push_of_some ho print
  -- the namespace object with the async entry point
  obtain ⟨w₃, hentrySet, hordinary₃, hns₃, hentry₃, hold₃, hjobs₃⟩ := set_entry hordinary₂ hentry
  have hglobal_lt := (Array.getElem?_eq_some_iff.1 hg₂).1
  have hg₃ := (hold₃ _ hglobal_lt).trans hg₂
  have hrun : installGlobals c w = (Proc.set (.object Intrinsic.global)
      (Exchange.keyOf c.hostNamespace) (.object w₂.objects.size) true w₃).bind
        fun _ w => .done w₂.objects.size w := by
    have hempty : Proc.allocPlain w₂ = .done w₂.objects.size (w₂.push emptyObject) := rfl
    have hnative : Proc.allocNative .hostAsync [] c.asyncEntry 1 (w₂.push emptyObject) =
        .done (w₂.objects.size + 1) ((w₂.push emptyObject).push (entryObject c)) := by
      rw [← size_push w₂ emptyObject]
      exact allocNative_eq ..
    rw [installGlobals, Proc.run_bind, hprint]
    simp only [Outcome.bind, Proc.run_bind, hset, hempty, hnative, hentrySet]
    rfl
  -- the namespace object is a global variable
  obtain hset₃ | ⟨hthere, message, hthrow⟩ := hordinary₃.set_eq hg₃ (hglobal.assigned _ _)
    (keyOf_ne hns) (.object w₂.objects.size)
  · refine .inl ⟨w₂.objects.size, _, by rw [hrun, hset₃]; rfl,
      hordinary₃.assigned hg₃ (hglobal.assigned _ _) _ _, ⟨w₂.objects.size + 1, ?_, ?_⟩, ?_,
      fun r hr o ho => ?_⟩
    · rwa [World.getElem?_withObject_of_ne (Nat.ne_of_gt hglobal_lt)]
    · rwa [World.getElem?_withObject_of_ne (Nat.ne_of_gt (Nat.lt_succ_of_lt hglobal_lt))]
    · exact hjobs₃.trans hjobs₂
    · have ho₂ := hothers₂ r hr o ho
      rw [World.getElem?_withObject_of_ne hr, hold₃ r (Array.getElem?_eq_some_iff.1 ho₂).1, ho₂]
  · refine .inr ⟨fun hvacant => hthere ?_, message, w₃, by rw [hrun, hthrow, Proc.bind_throwType]⟩
    rw [Object.assigned, Object.find?_put hglobal.plain, if_neg (keyOf_ne hvacant.1)]
    exact (hvacant.2 g hg).2

end Bridge

namespace Script.Realm

/-- What is to be known of the first world: the properties of the global object and those of the
prototype of objects are values, but for one, and some are not there; the prototype of arrays is an
empty array. -/
def check (w : World) : Bool :=
  (w.objects[Intrinsic.global]?).any (fun g => g.kind matches .plain && g.extensible &&
    g.proto == some Intrinsic.objectProto && g.props.toList.all fun q => q.2.isData &&
      q.1 != Key.ofString "print" && q.1 != Exchange.keyOf ({} : BridgeConfig).hostNamespace) &&
  (w.objects[Intrinsic.objectProto]?).any (fun o => o.kind matches .plain && o.proto.isNone &&
    o.props.toList.all fun q => q.1 == protoKey || q.2.isData && q.2.writable) &&
  (w.objects[Intrinsic.arrayProto]?).any (fun a => a.kind matches .array 0 false &&
    a.proto == some Intrinsic.objectProto) &&
  w.jobs.isEmpty

/-- The first world is built in the kernel, once for all that is to be known of it and of the errors
of a new bridge. -/
theorem check_world_and_create : check world = true ∧
    ((Bridge.create {} {}).toOption.map fun r => (r.1.isHalted, decide
      ((r.1.world.push (newError (Intrinsic.errorProto .syntaxError)
        (cutMessage (SyntaxFault.unexpected ")").message)
        (SyntaxFault.unexpected ")").hasPlace)).TellsError r.1.world.objects.size "SyntaxError"
          (cutMessage (SyntaxFault.unexpected ")").message) "    at <anonymous>\n"))) =
      some (false, true) := by
  decide +kernel

theorem check_world : check world = true := check_world_and_create.1

theorem ordinary_of_check {w : World} (h : check w = true) : w.Ordinary ∧ Bridge.Vacant {} w := by
  have hplain {k : ObjectKind} (hk : (k matches .plain) = true) : k = .plain := by
    cases k <;> first | rfl | cases hk
  simp only [check, Bool.and_eq_true, Option.any_eq_true, List.all_eq_true, bne_iff_ne, beq_iff_eq,
    Bool.or_eq_true, Option.isNone_iff_eq_none] at h
  obtain ⟨⟨⟨⟨g, hg, ⟨⟨hgkind, hextensible⟩, hgproto⟩, hgprops⟩,
    o, ho, ⟨hkind, hproto⟩, hprops⟩, -⟩, -⟩ := h
  have hfind {k : Key} {p : Property} (hp : g.find? k = some p) : (k, p) ∈ g.props.toList :=
    Object.mem_of_find? (hplain hgkind) hp
  refine ⟨⟨⟨g, hg, hplain hgkind, hextensible, hgproto, fun k p hp => (hgprops _ (hfind hp)).1.1⟩,
    o, ho, hplain hkind, hproto, fun k p hp => hprops _ (Object.mem_of_find? (hplain hkind) hp)⟩,
    by decide, fun g' hg' => ?_⟩
  obtain rfl := Option.some.inj (hg.symm.trans hg')
  refine ⟨Option.eq_none_iff_forall_ne_some.2 fun p hp => (hgprops _ (hfind hp)).1.2 rfl,
    Option.eq_none_iff_forall_ne_some.2 fun p hp => (hgprops _ (hfind hp)).2 rfl⟩

theorem ordinary_world : world.Ordinary := (ordinary_of_check check_world).1

/-- The prototype of arrays has no items. -/
theorem arrayProto_world : ∃ a, world.objects[Intrinsic.arrayProto]? = some a ∧
    a.kind = .array 0 false ∧ a.proto = some Intrinsic.objectProto := by
  have harray {k : ObjectKind} (hk : (k matches .array 0 false) = true) : k = .array 0 false := by
    unfold_projs at hk
    split at hk
    · rfl
    · cases hk
  have h := check_world
  simp only [check, Bool.and_eq_true, Option.any_eq_true, beq_iff_eq] at h
  obtain ⟨⟨-, a, ha, hkind, hproto⟩, -⟩ := h
  exact ⟨a, ha, harray hkind, hproto⟩

theorem vacant_world : Bridge.Vacant {} world := (ordinary_of_check check_world).2

theorem jobs_world : world.jobs = [] := by
  have h := check_world
  rw [check, Bool.and_eq_true] at h
  exact List.isEmpty_iff.1 h.2

end Script.Realm

namespace Bridge

open Script

/-! ### New bridges -/

/-- A bridge that is set up has run the engine once, and has drawn its tag. -/
theorem setUp_draws {b b' : Bridge} {tags tags' : TagSource} (h : b.setUp tags = .ok (b', tags')) :
    ∃ ns, b' = { (exec (BridgeM.require (installGlobals b.config)) b).2 with
      handles := .empty tags.draw.1, namespaceObject := ns } ∧ tags' = tags.draw.2 := by
  rw [setUp] at h
  cases hv : b.config.validate with
  | error e =>
    rw [hv] at h
    cases h
  | ok u =>
    rw [hv] at h
    rcases hrun : exec (BridgeM.require (installGlobals b.config)) b with ⟨e | ns, b'⟩
    all_goals
      rw [exec] at hrun
      simp only [bind, Except.bind, hrun] at h
      cases h
    exact ⟨ns, rfl, rfl⟩

theorem setUp_eq_ok {b b' : Bridge} {tags tags' : TagSource}
    (h : b.setUp tags = .ok (b', tags')) :
    ∃ tag ns, b' = { (exec (BridgeM.require (installGlobals b.config)) b).2 with
      handles := .empty tag, namespaceObject := ns } := by
  obtain ⟨ns, hb', -⟩ := setUp_draws h
  exact ⟨tags.draw.1, ns, hb'⟩

theorem setUp_of_installGlobals {b : Bridge} (hvalid : b.config.validate = .ok ())
    (hb : b.isHalted = false) {ns : Ref} {w : World}
    (h : installGlobals b.config b.world = .done ns w) (tags : TagSource) : b.setUp tags =
      .ok ({ b with handles := .empty tags.draw.1, namespaceObject := ns, world := w },
        tags.draw.2) := by
  have hrun := BridgeM.exec_require_of_done hb h
  rw [exec] at hrun
  rw [setUp, hvalid]
  simp only [bind, Except.bind, hrun]
  rfl

theorem setUp_of_throwType {b b' : Bridge} {tags tags' : TagSource} (hb : b.isHalted = false)
    {message : String} {w : World}
    (h : installGlobals b.config b.world = Proc.throwType message w) :
    b.setUp tags ≠ .ok (b', tags') := by
  obtain ⟨o, hrun⟩ := BridgeM.exec_require_of_throwType hb h
  intro hok
  rw [exec] at hrun
  rw [setUp] at hok
  cases hvalid : b.config.validate with
  | error e =>
    rw [hvalid] at hok
    cases hok
  | ok u =>
    rw [hvalid] at hok
    simp only [bind, Except.bind, hrun] at hok
    cases hok

/-- What a bridge that is set up has got, where no name is that of the prototype. -/
theorem setUp_installed {b b' : Bridge} {tags tags' : TagSource}
    (h : b.setUp tags = .ok (b', tags'))
    (hb : b.isHalted = false) (hw : b.world.Ordinary) (hentry : b.config.asyncEntry ≠ "__proto__")
    (hns : b.config.hostNamespace ≠ "__proto__") : ∃ ns w, Installed b.config b.world w ns ∧
      b' = { b with handles := .empty tags.draw.1, namespaceObject := ns, world := w } := by
  obtain ⟨ns, w, hrun, hinstalled⟩ | ⟨-, message, w, hthrow⟩ := run_installGlobals hw hentry hns
  · have hvalid : b.config.validate = .ok () := by
      cases hv : b.config.validate with
      | ok u => rfl
      | error e =>
        rw [setUp, hv] at h
        cases h
    have hsetUp := setUp_of_installGlobals hvalid hb hrun tags
    obtain ⟨hbridge, -⟩ := Prod.mk.inj (Except.ok.inj (hsetUp.symm.trans h))
    exact ⟨ns, w, hinstalled, hbridge.symm⟩
  · exact absurd h (setUp_of_throwType hb hthrow)

/-- A bridge can be set up where its names are new. -/
theorem exists_setUp {b : Bridge} (hvalid : b.config.validate = .ok ()) (hb : b.isHalted = false)
    (hw : b.world.Ordinary) (hentry : b.config.asyncEntry ≠ "__proto__")
    (hns : b.config.hostNamespace ≠ "__proto__") (hvacant : Vacant b.config b.world)
    (tags : TagSource) : ∃ b' tags', b.setUp tags = .ok (b', tags') := by
  obtain ⟨ns, w, hrun, -⟩ | ⟨hnot, -⟩ := run_installGlobals hw hentry hns
  · exact ⟨_, _, setUp_of_installGlobals hvalid hb hrun tags⟩
  · exact absurd hvacant hnot

theorem world_blank (c : BridgeConfig) : (blank c).world = Realm.world := by rw [blank]

/-- **What a new bridge is**, where no name is that of the prototype. -/
theorem create_eq_ok {c : BridgeConfig} {tags tags' : TagSource} {b : Bridge}
    (h : create c tags = .ok (b, tags')) (hentry : c.asyncEntry ≠ "__proto__")
    (hns : c.hostNamespace ≠ "__proto__") : ∃ ns w, Installed c (blank c).world w ns ∧
      b = { blank c with handles := .empty tags.draw.1, namespaceObject := ns, world := w } :=
  setUp_installed h rfl (world_blank c ▸ Realm.ordinary_world) hentry hns

/-- A bridge of the default configuration can be created.  Its engine was not cut off, and it has no
jobs and no modules. -/
theorem exists_create_undeclared : ∃ b tags, create {} {} = .ok (b, tags) ∧ b.isHalted = false ∧
    b.world.jobs = [] ∧ ∀ name, b.modules.isDeclared name = false := by
  obtain ⟨b, tags, h⟩ := exists_setUp (b := blank {}) rfl rfl
    (world_blank {} ▸ Realm.ordinary_world) (by decide) (by decide)
    (world_blank {} ▸ Realm.vacant_world) {}
  obtain ⟨ns, w, hinstalled, rfl⟩ := create_eq_ok h (by decide) (by decide)
  refine ⟨_, tags, h, rfl, ?_, fun _ => rfl⟩
  rw [hinstalled.jobs, world_blank, Realm.jobs_world]

theorem exists_create_idle :
    ∃ b tags, create {} {} = .ok (b, tags) ∧ b.isHalted = false ∧ b.world.jobs = [] := by
  obtain ⟨b, tags, h, hhalted, hjobs, -⟩ := exists_create_undeclared
  exact ⟨b, tags, h, hhalted, hjobs⟩

theorem exists_create : ∃ b tags, create {} {} = .ok (b, tags) := by
  obtain ⟨b, tags, h, -⟩ := exists_create_idle
  exact ⟨b, tags, h⟩

end Bridge

end ScriptBridge
