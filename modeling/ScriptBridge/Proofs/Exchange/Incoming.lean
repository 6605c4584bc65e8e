import ScriptBridge.Proofs.Bridge.SetUp
import ScriptBridge.Proofs.Exchange.Canonical

/-!
# JSON that becomes a value

A value is made of JSON by assigning the items of arrays and the fields of objects one by one to
objects that are new.  An assignment may run a setter that they inherit, or be refused.  Where they
inherit nothing of that kind, they get just the properties that they are to have.

* `World.Receptive` : in a world, new objects and arrays **take what is assigned to them**.
* `World.Shows w lo v j` : the value `v` **shows the JSON value** `j`, by objects from the place
  `lo` on.
* `Exchange.makes` : what is made of JSON shows it, and all that was there is as before.
-/

namespace ScriptBridge

namespace Script

open Proc

variable {w w' : World} {r q : Ref} {k : Key} {v : Value} {o : Object}

/-! ### Arrays and objects with properties that were assigned -/

section arrays

variable {values : List Value} {i : Nat}

theorem getElem?_props_arrayObject (values : List Value) (i : Nat) :
    (arrayObject values).props[i]? = (values[i]?).map fun v => (Key.index i, Property.plain v) := by
  simp [arrayObject, List.getElem?_zipIdx, Function.comp_def]

/-- An item is found in its own place. -/
theorem position?_arrayObject (h : i < values.length) :
    (arrayObject values).position? (.index i) = some i := by
  have hany : ((arrayObject values).props[i]?).any (fun p => p.1 == Key.index i) = true := by
    rw [getElem?_props_arrayObject, List.getElem?_eq_getElem h]
    simp
  have hkind : (arrayObject values).kind = .array values.length false := rfl
  simp only [Object.position?, hkind, if_neg (Nat.not_le.2 h), hany, if_true]

/-- An array has no items behind its length. -/
theorem position?_of_length_le {n : Nat} {fixed : Bool} (ho : o.kind = .array n fixed) (h : n ≤ i) :
    o.position? (.index i) = none := by
  simp only [Object.position?, ho, if_pos h]

theorem index_ne_protoKey (i : Nat) : Key.index i ≠ protoKey := by
  have htext : protoKey = .text (Str.ofString "__proto__") := by decide
  rw [htext]
  nofun

theorem ownIn_array_index {n : Nat} {fixed : Bool} (w : World) (ho : o.kind = .array n fixed)
    (i : Nat) : ownIn w o (.index i) = o.find? (.index i) := by
  have hlength : (Key.index i == Key.length) = false := by simp [Key.length]
  simp only [ownIn, ho, hlength, Bool.false_eq_true, if_false]

theorem ownIn_arrayObject (w : World) (values : List Value) (i : Nat) :
    ownIn w (arrayObject values) (.index i) = (values[i]?).map .plain := by
  rw [ownIn_array_index w rfl, Object.find?]
  by_cases h : i < values.length
  · rw [position?_arrayObject h, Option.bind_some, getElem?_props_arrayObject, Option.map_map]
    rfl
  · rw [position?_of_length_le rfl (Nat.not_lt.1 h), Option.bind_none,
      List.getElem?_eq_none (Nat.not_lt.1 h), Option.map_none]

/-- An item that is put behind the others. -/
theorem place_arrayObject (values : List Value) (v : Value) :
    place (arrayObject values) (.index values.length) (.plain v) = arrayObject (values ++ [v]) := by
  have hput : (arrayObject values).put (.index values.length) (.plain v) = { arrayObject values with
      props := (arrayObject values).props.push (.index values.length, .plain v) } := by
    rw [Object.put, position?_of_length_le rfl (Nat.le_refl _)]
  have hkind : (arrayObject values).kind = .array values.length false := rfl
  simp only [place, hkind, hput, Nat.le_refl, if_true]
  simp [arrayObject, List.zipIdx_append]

end arrays

section objects

variable {fields : List (String × Value)} {name : String}

/-- An object with fields, as scripts make it with braces. -/
def objectOf (fields : List (String × Value)) : Object :=
  { kind := .plain, proto := some Intrinsic.objectProto,
    props := (fields.map fun f => (Exchange.keyOf f.1, Property.plain f.2)).toArray }

theorem keys_objectOf (fields : List (String × Value)) :
    (objectOf fields).keys = fields.map fun f => Exchange.keyOf f.1 := by
  simp [Object.keys, objectOf]

theorem find?_objectOf_eq_none (h : name ∉ fields.map (·.1)) :
    (objectOf fields).find? (Exchange.keyOf name) = none := by
  rw [Object.find?_eq_none_iff rfl, keys_objectOf]
  intro hmem
  obtain ⟨f, hf, hkey⟩ := List.mem_map.1 hmem
  exact h (Bridge.keyOf_injective hkey ▸ List.mem_map_of_mem hf)

theorem isOrdinary_objectOf (fields : List (String × Value)) : (objectOf fields).IsOrdinary where
  plain := rfl
  extensible := rfl
  proto := rfl
  data k p hp := by
    have hmem := Object.mem_of_find? rfl hp
    simp only [objectOf, List.mem_map] at hmem
    obtain ⟨f, -, hf⟩ := hmem
    cases hf
    rfl

/-- A field with a new name comes last. -/
theorem assigned_objectOf (h : name ∉ fields.map (·.1)) (v : Value) :
    (objectOf fields).assigned (Exchange.keyOf name) v = objectOf (fields ++ [(name, v)]) := by
  have hfind := find?_objectOf_eq_none h
  have hposition : (objectOf fields).position? (Exchange.keyOf name) = none := by
    rw [Object.find?_eq_none_iff rfl, keys_objectOf] at hfind
    rw [Object.position?_of_plain rfl, List.findIdx?_eq_none_iff]
    intro p hp
    simp only [objectOf, List.mem_map] at hp
    obtain ⟨f, hf, rfl⟩ := hp
    exact beq_eq_false_iff_ne.2 fun heq => hfind (List.mem_map.2 ⟨f, hf, heq⟩)
  rw [Object.assigned, hfind, Object.put, hposition]
  simp [objectOf]

end objects

namespace World

/-! ### Worlds in which assignments go through -/

/-- New objects and arrays take what is assigned to them: what they inherit has no setter and
forbids nothing, but for one name. -/
structure Receptive (w : World) : Prop where
  objects : w.Inherits
  arrays : ∃ a, w.objects[Intrinsic.arrayProto]? = some a ∧ a.kind = .array 0 false ∧
    a.proto = some Intrinsic.objectProto

/-- What was in a place still is, as it was. -/
def Keeps (w w' : World) (q : Ref) : Prop := ∀ o, w.objects[q]? = some o → w'.objects[q]? = some o

theorem Keeps.trans {w₁ w₂ w₃ : World} (h : w₁.Keeps w₂ q) (h' : w₂.Keeps w₃ q) : w₁.Keeps w₃ q :=
  fun o ho => h' o (h o ho)

theorem keeps_push (w : World) (o : Object) (q : Ref) : w.Keeps (w.push o) q :=
  fun _ ho => getElem?_push_of_some ho o

theorem keeps_withObject (h : q ≠ r) (o : Object) : w.Keeps (w.withObject r o) q :=
  fun _ ho => (getElem?_withObject_of_ne h o).trans ho

namespace Receptive

theorem of_keeps (h : w.Receptive) (hobject : w.Keeps w' Intrinsic.objectProto)
    (harray : w.Keeps w' Intrinsic.arrayProto) : w'.Receptive := by
  obtain ⟨o, ho, hbase⟩ := h.objects
  obtain ⟨a, ha, hitems⟩ := h.arrays
  exact ⟨⟨o, hobject o ho, hbase⟩, ⟨a, harray a ha, hitems⟩⟩

theorem push (h : w.Receptive) (o : Object) : (w.push o).Receptive :=
  h.of_keeps (keeps_push w o _) (keeps_push w o _)

theorem arrayProto_lt (h : w.Receptive) : Intrinsic.arrayProto < w.objects.size := by
  obtain ⟨a, ha, -⟩ := h.arrays
  exact (Array.getElem?_eq_some_iff.1 ha).1

/-- The prototypes come before all objects that are made. -/
theorem withObject (h : w.Receptive) (hnew : Intrinsic.arrayProto < r) (o : Object) :
    (w.withObject r o).Receptive := by
  have hobject : Intrinsic.objectProto < r := Nat.lt_trans (by decide) hnew
  exact h.of_keeps (keeps_withObject (Nat.ne_of_lt hobject) o)
    (keeps_withObject (Nat.ne_of_lt hnew) o)

/-- An assignment behind the last item of an array finds no setter. -/
theorem assigns_item (h : w.Receptive) {values : List Value}
    (hr : w.objects[r]? = some (arrayObject values)) :
    w.Assigns (.index values.length) r true := by
  obtain ⟨a, ha, hkind, hproto⟩ := h.arrays
  have hbase : w.Assigns (.index values.length) Intrinsic.objectProto true :=
    h.objects.assigns_objectProto (index_ne_protoKey _)
  refine .inherited (Array.getElem?_eq_some_iff.1 hr).1 ?_ (q := Intrinsic.arrayProto) ?_
    (.inherited (Array.getElem?_eq_some_iff.1 ha).1 ?_ ?_ hbase)
  · rw [getD_of_getElem? hr, ownIn_arrayObject, List.getElem?_eq_none (Nat.le_refl _),
      Option.map_none]
  · rw [getD_of_getElem? hr]
    rfl
  · rw [getD_of_getElem? ha, ownIn_array_index w hkind, Object.find?,
      position?_of_length_le hkind (Nat.zero_le _), Option.bind_none]
  · rw [getD_of_getElem? ha, hproto]

/-- An item is put behind the others. -/
theorem set_item (h : w.Receptive) {values : List Value}
    (hr : w.objects[r]? = some (arrayObject values)) (v : Value) :
    Proc.set (.object r) (.index values.length) v true w =
      .done () (w.withObject r (arrayObject (values ++ [v]))) := by
  obtain ⟨hset, -⟩ | ⟨hfalse, -⟩ := setOf_eq (v := v) (h.assigns_item hr)
  case inr => cases hfalse
  have hget := getD_of_getElem? hr
  have hown : ownIn w (arrayObject values) (.index values.length) = none := by
    rw [ownIn_arrayObject, List.getElem?_eq_none (Nat.le_refl _), Option.map_none]
  have hmodify : w.modify r (Object.revised fun o => place o (.index values.length) (.plain v)) =
      w.withObject r (arrayObject (values ++ [v])) := by
    rw [modify_revised hr (by rw [place_arrayObject]; rfl), place_arrayObject]
  refine set_of_setOf (hset.trans ?_)
  rw [← hmodify]
  simp only [writeOwn, run_bind, run_world, Outcome.bind, hget, hown]
  rfl

/-- A field with a new name is put behind the others. -/
theorem set_field (h : w.Receptive) {fields : List (String × Value)} {name : String}
    (hr : w.objects[r]? = some (objectOf fields)) (hname : name ∉ fields.map (·.1))
    (hproto : name ≠ "__proto__") (v : Value) :
    Proc.set (.object r) (Exchange.keyOf name) v true w =
      .done () (w.withObject r (objectOf (fields ++ [(name, v)]))) := by
  obtain hset | ⟨hthere, -⟩ :=
    h.objects.set_eq hr (isOrdinary_objectOf fields) (Bridge.keyOf_ne hproto) v
  · rw [hset, assigned_objectOf hname]
  · exact absurd (find?_objectOf_eq_none hname) hthere

end Receptive

/-! ### Values that show JSON -/

/-- A value shows a JSON value: by objects, in places from `lo` on, that have just the items of
arrays and the fields of objects.  What these show, they show by objects in places behind. -/
inductive Shows (w : World) : Nat → Value → Json → Prop
  | null {lo : Nat} : Shows w lo .null .null
  | bool {lo : Nat} (b : Bool) : Shows w lo (.bool b) (.bool b)
  | number {lo : Nat} {v : Value} {n : JsonNumber} (hv : v = Exchange.ofJsonNumber n) :
    Shows w lo v (.number n)
  | string {lo : Nat} (s : String) : Shows w lo (.ofString s) (.string s)
  | array {lo : Nat} {r : Ref} {parts : List (Value × Json)} (hlo : lo ≤ r)
    (hr : w.objects[r]? = some (arrayObject (parts.map (·.1))))
    (hparts : ∀ p ∈ parts, Shows w (r + 1) p.1 p.2) :
    Shows w lo (.object r) (.array (parts.map (·.2)))
  | object {lo : Nat} {r : Ref} {parts : List (Value × String × Json)} (hlo : lo ≤ r)
    (hr : w.objects[r]? = some (objectOf (parts.map fun p => (p.2.1, p.1))))
    (hparts : ∀ p ∈ parts, Shows w (r + 1) p.1 p.2.2) :
    Shows w lo (.object r) (.object (parts.map (·.2)))

/-- What a value shows depends on its own objects only. -/
theorem Shows.of_keeps {lo lo' : Nat} {j : Json} (h : w.Shows lo v j)
    (hkeeps : ∀ q, lo ≤ q → w.Keeps w' q) (hlo' : lo' ≤ lo) : w'.Shows lo' v j := by
  induction h generalizing lo' with
  | null => exact .null
  | bool b => exact .bool b
  | number hv => exact .number hv
  | string s => exact .string s
  | array hlo hr _ ih =>
    refine .array (Nat.le_trans hlo' hlo) (hkeeps _ hlo _ hr) fun p hp => ?_
    exact ih p hp (fun q hq => hkeeps q (by omega)) (Nat.le_refl _)
  | object hlo hr _ ih =>
    refine .object (Nat.le_trans hlo' hlo) (hkeeps _ hlo _ hr) fun p hp => ?_
    exact ih p hp (fun q hq => hkeeps q (by omega)) (Nat.le_refl _)

end World

namespace Exchange

variable {j : Json} {items : List Json} {fields : List (String × Json)}

/-! ### Making values -/

/-- Of the JSON value a value can be made that shows it, in every world where objects take what is
assigned to them. -/
def Makes (j : Json) : Prop := ∀ w : World, w.Receptive → ∃ v w', ofJson j w = .done v w' ∧
  (∀ q, w.Keeps w' q) ∧ w'.Shows w.objects.size v j

/-- The items of an array are made and put behind those that it has. -/
theorem run_ofItems (hitems : ∀ j ∈ items, Makes j) {values : List Value} (hw : w.Receptive)
    (hnew : Intrinsic.arrayProto < r) (hr : w.objects[r]? = some (arrayObject values)) :
    ∃ (w' : World) (parts : List (Value × Json)), ofItems r values.length items w = .done () w' ∧
      (∀ q, q ≠ r → w.Keeps w' q) ∧ items = parts.map (·.2) ∧
      w'.objects[r]? = some (arrayObject (values ++ parts.map (·.1))) ∧
      ∀ p ∈ parts, w'.Shows (r + 1) p.1 p.2 := by
  induction items generalizing w values with
  | nil =>
    refine ⟨w, [], rfl, fun _ _ _ ho => ho, rfl, ?_, nofun⟩
    rwa [List.map_nil, List.append_nil]
  | cons j rest ih =>
    obtain ⟨hj, hrest⟩ := List.forall_mem_cons.1 hitems
    obtain ⟨v, w₁, hmade, hkeeps₁, hshows⟩ := hj w hw
    have hw₁ := hw.of_keeps (hkeeps₁ _) (hkeeps₁ _)
    have hr₁ := hkeeps₁ r _ hr
    obtain ⟨w', parts, hrun, hkeeps, rfl, hr', hparts⟩ :=
      ih hrest (hw₁.withObject hnew _) (World.getElem?_withObject hr₁ (arrayObject (values ++ [v])))
    -- what the item shows is in other places than the array
    have hkept (q : Ref) (hq : q ≠ r) : w₁.Keeps w' q :=
      (World.keeps_withObject hq _).trans (hkeeps q hq)
    have hlt := (Array.getElem?_eq_some_iff.1 hr).1
    have hitem : w'.Shows (r + 1) v j :=
      hshows.of_keeps (fun q hq => hkept q (Nat.ne_of_gt (Nat.lt_of_lt_of_le hlt hq))) hlt
    refine ⟨w', (v, j) :: parts, ?_, fun q hq => (hkeeps₁ q).trans (hkept q hq), rfl, ?_,
      List.forall_mem_cons.2 ⟨hitem, hparts⟩⟩
    · simp only [ofItems, run_bind, hmade, Outcome.bind, hw₁.set_item hr₁ v]
      rwa [List.length_append] at hrun
    · rwa [List.append_assoc, List.singleton_append] at hr'

/-- The fields of an object are made and put behind those that it has. -/
theorem run_ofFields (hfields : ∀ f ∈ fields, Makes f.2) (hproto : ∀ f ∈ fields, f.1 ≠ "__proto__")
    {old : List (String × Value)} (hnames : (old.map (·.1) ++ fields.map (·.1)).Nodup)
    (hw : w.Receptive) (hnew : Intrinsic.arrayProto < r)
    (hr : w.objects[r]? = some (objectOf old)) :
    ∃ (w' : World) (parts : List (Value × String × Json)), ofFields r fields w = .done () w' ∧
      (∀ q, q ≠ r → w.Keeps w' q) ∧ fields = parts.map (·.2) ∧
      w'.objects[r]? = some (objectOf (old ++ parts.map fun p => (p.2.1, p.1))) ∧
      ∀ p ∈ parts, w'.Shows (r + 1) p.1 p.2.2 := by
  induction fields generalizing w old with
  | nil =>
    refine ⟨w, [], rfl, fun _ _ _ ho => ho, rfl, ?_, nofun⟩
    rwa [List.map_nil, List.append_nil]
  | cons f rest ih =>
    obtain ⟨name, j⟩ := f
    obtain ⟨hj, hrest⟩ := List.forall_mem_cons.1 hfields
    obtain ⟨hname, hprotoRest⟩ := List.forall_mem_cons.1 hproto
    obtain ⟨v, w₁, hmade, hkeeps₁, hshows⟩ := hj w hw
    have hw₁ := hw.of_keeps (hkeeps₁ _) (hkeeps₁ _)
    have hr₁ := hkeeps₁ r _ hr
    have hnames' : ((old ++ [(name, v)]).map (·.1) ++ rest.map (·.1)).Nodup := by
      simpa using hnames
    have hunused : name ∉ old.map (·.1) := fun hmem =>
      (List.nodup_append.1 hnames).2.2 name hmem name List.mem_cons_self rfl
    obtain ⟨w', parts, hrun, hkeeps, rfl, hr', hparts⟩ :=
      ih hrest hprotoRest hnames' (hw₁.withObject hnew _)
        (World.getElem?_withObject hr₁ (objectOf (old ++ [(name, v)])))
    -- what the field shows is in other places than the object
    have hkept (q : Ref) (hq : q ≠ r) : w₁.Keeps w' q :=
      (World.keeps_withObject hq _).trans (hkeeps q hq)
    have hlt := (Array.getElem?_eq_some_iff.1 hr).1
    have hfield : w'.Shows (r + 1) v j :=
      hshows.of_keeps (fun q hq => hkept q (Nat.ne_of_gt (Nat.lt_of_lt_of_le hlt hq))) hlt
    refine ⟨w', (v, name, j) :: parts, ?_, fun q hq => (hkeeps₁ q).trans (hkept q hq), rfl, ?_,
      List.forall_mem_cons.2 ⟨hfield, hparts⟩⟩
    · simp only [ofFields, run_bind, hmade, Outcome.bind, hw₁.set_field hr₁ hunused hname v]
      exact hrun
    · rwa [List.append_assoc, List.singleton_append] at hr'

/-- An object that is new was not there before. -/
theorem keeps_of_push (h : ∀ q, q ≠ w.objects.size → (w.push o).Keeps w' q) (q : Ref) :
    w.Keeps w' q := by
  intro p hp
  have hlt := (Array.getElem?_eq_some_iff.1 hp).1
  exact h q (Nat.ne_of_lt hlt) p (w.keeps_push o q p hp)

/-- **What is made of JSON shows it.** -/
theorem makes (hj : j.IsPortable) : Makes j := by
  induction j using Json.induction with
  | null => exact fun w _ => ⟨_, w, rfl, fun _ _ ho => ho, .null⟩
  | bool b => exact fun w _ => ⟨_, w, rfl, fun _ _ ho => ho, .bool b⟩
  | number n => exact fun w _ => ⟨_, w, rfl, fun _ _ ho => ho, .number rfl⟩
  | string s => exact fun w _ => ⟨_, w, rfl, fun _ _ ho => ho, .string s⟩
  | array items ih =>
    intro w hw
    have halloc : allocArray [] w = .done w.objects.size (w.push (arrayObject [])) := rfl
    obtain ⟨w', parts, hrun, hkeeps, rfl, hr, hparts⟩ :=
      run_ofItems (fun i hi => ih i hi (hj.item hi)) (hw.push _) hw.arrayProto_lt
        (w.getElem?_push_size (arrayObject []))
    refine ⟨.object w.objects.size, w', ?_, keeps_of_push hkeeps, .array (Nat.le_refl _) hr hparts⟩
    rw [List.length_nil] at hrun
    simp only [ofJson, run_bind, halloc, Outcome.bind, hrun]
    rfl
  | object fields ih =>
    intro w hw
    have hfields := hj.here
    have halloc : allocPlain w = .done w.objects.size (w.push (objectOf [])) := rfl
    have hnames : (([] : List (String × Value)).map (·.1) ++ fields.map (·.1)).Nodup :=
      hfields.nodup_names
    obtain ⟨w', parts, hrun, hkeeps, rfl, hr, hparts⟩ :=
      run_ofFields (fun f hf => ih f hf (hj.field hf)) hfields.ordinary hnames
        (hw.push _) hw.arrayProto_lt (w.getElem?_push_size (objectOf []))
    refine ⟨.object w.objects.size, w', ?_, keeps_of_push hkeeps, .object (Nat.le_refl _) hr hparts⟩
    simp only [ofJson, run_bind, halloc, Outcome.bind, hrun]
    rfl

end Exchange

end Script

end ScriptBridge
