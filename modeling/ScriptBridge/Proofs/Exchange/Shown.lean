import Mathlib.Data.List.Perm.Basic
import ScriptBridge.Proofs.Exchange.Incoming
import ScriptBridge.Proofs.Exchange.Outgoing

/-!
# What is seen of a value that shows JSON

A value that shows JSON is plain data, and its parts show the items and the fields.  So its graph is
the tree that it shows, but for the numbers: these are canonical.

* `Proc.ownKeysOf_perm` : the keys of an object, in the order in which scripts see them.
* `World.Shows.node` : what **chains lead to** are the nodes of the JSON value.
* `World.Shows.isPlain`, `World.Shows.within` : such values are plain data, and as deep as the JSON
  value.
* `World.Shows.unfolds` : **the graph of the value**, unfolded, is the canonical form of the JSON
  value.
-/

namespace ScriptBridge

namespace Script

open Proc

variable {w : World} {r : Ref} {k : Key} {v : Value} {o : Object}

/-! ### Properties that were assigned -/

/-- All properties of the object were made by assignments. -/
def Object.HasPlainProps (o : Object) : Prop := ∀ q ∈ o.props.toList, ∃ v, q.2 = .plain v

theorem Object.exists_mem_of_find? {p : Property} (h : o.find? k = some p) :
    ∃ q ∈ o.props.toList, q.2 = p := by
  obtain ⟨i, -, hi⟩ := Option.bind_eq_some_iff.1 h
  obtain ⟨q, hq, hp⟩ := Option.map_eq_some_iff.1 hi
  exact ⟨q, Array.mem_toList_iff.2 (Array.mem_of_getElem? hq), hp⟩

theorem Object.HasPlainProps.ne_unset (h : o.HasPlainProps) {p : Property}
    (hkind : o.kind = .plain ∨ ∃ n fixed, o.kind = .array n fixed) (hown : ownIn w o k = some p)
    (name : String) : p.holding ≠ .unset name := by
  have hfound (hfind : o.find? k = some p) : p.holding ≠ .unset name := by
    obtain ⟨q, hq, rfl⟩ := Object.exists_mem_of_find? hfind
    obtain ⟨v, hv⟩ := h q hq
    simp [hv, Property.plain]
  obtain hkind | ⟨n, fixed, hkind⟩ := hkind
  · exact hfound (World.ownIn_of_plain w k hkind ▸ hown)
  · simp only [ownIn, hkind] at hown
    split_ifs at hown
    · obtain rfl := Option.some.inj hown
      simp
    · exact hfound hown

theorem hasPlainProps_arrayObject (values : List Value) : (arrayObject values).HasPlainProps := by
  intro q hq
  obtain ⟨p, -, rfl⟩ := List.mem_map.1 hq
  exact ⟨p.1, rfl⟩

theorem hasPlainProps_objectOf (fields : List (String × Value)) :
    (objectOf fields).HasPlainProps := by
  intro q hq
  obtain ⟨p, -, rfl⟩ := List.mem_map.1 hq
  exact ⟨p.2, rfl⟩

/-! ### Keys -/

theorem Key.text?_keyOf (name : String) : (Exchange.keyOf name).text? = some name := by
  rw [Key.text?, Exchange.keyOf, Key.str?_ofStr, Option.bind_some, Str.toString?_ofString]
  rfl

theorem Key.text?_index (i : Nat) : (Key.index i).text? = some (toString i) := by
  rw [Key.text?, Key.str?, Option.bind_some, Str.ofNat, Str.toString?_ofString]
  rfl

theorem Key.isHidden_keyOf (name : String) : (Exchange.keyOf name).isHidden = false := by
  have hstr : (Exchange.keyOf name).str? = some (Str.ofString name) := Key.str?_ofStr _
  cases hkey : Exchange.keyOf name with
  | hidden id =>
    rw [hkey] at hstr
    cases hstr
  | _ => rfl

/-- Indices come first and symbols last, but these are all keys. -/
theorem Proc.ownKeysOf_perm (hkind : o.kind = .plain) (hhidden : ∀ k ∈ o.keys, k.isHidden = false) :
    (ownKeysOf o).Perm o.keys := by
  have hsorted (l : List Nat) :
      (if ownKeysOf.isSorted l then l else l.mergeSort (· ≤ ·)).Perm l := by
    split_ifs
    · exact .refl l
    · exact List.mergeSort_perm l _
  simp only [ownKeysOf, hkind]
  refine (((hsorted _).map _).append_right _).append_right _ |>.trans ?_
  rw [Object.keys] at hhidden ⊢
  generalize o.props.toList.map (·.1) = keys at hhidden ⊢
  induction keys with
  | nil => exact .nil
  | cons k keys ih =>
    obtain ⟨hk, hkeys⟩ := List.forall_mem_cons.1 hhidden
    have ih := ih hkeys
    cases k with
    | index i => exact ih.cons _
    | text s => exact ((List.perm_middle.append_right _).trans (ih.cons _))
    | symbol id => exact List.perm_middle.trans (ih.cons _)
    | hidden id => cases hk

namespace World

/-! ### Arrays -/

section array

variable {values : List Value} (hr : w.objects[r]? = some (arrayObject values))

include hr

theorem kind_arrayObject : (w.objects.getD r default).kind = .array values.length false := by
  rw [getD_of_getElem? hr]
  rfl

theorem read?_item {i : Nat} (h : values[i]? = some v) : w.read? r (.index i) = some v := by
  refine read?_of_own (p := .plain v) ?_ rfl
  rw [getD_of_getElem? hr, ownIn_arrayObject, h, Option.map_some]

/-- A part of an array is one of its items. -/
theorem exists_item (hk : k ∈ w.partKeys r) :
    ∃ (i : Nat) (v : Value), k = .index i ∧ values[i]? = some v := by
  rw [partKeys_of_array (kind_arrayObject hr)] at hk
  obtain ⟨i, hi, rfl⟩ := List.mem_map.1 hk
  have hlt := List.mem_range.1 hi
  exact ⟨i, values[i], rfl, List.getElem?_eq_getElem hlt⟩

theorem hasPlainParts_array : w.HasPlainParts r where
  read k hk := by
    obtain ⟨i, v, rfl, hv⟩ := exists_item hr hk
    exact ⟨v, read?_item hr hv⟩
  text k hk := by
    obtain ⟨i, v, rfl, -⟩ := exists_item hr hk
    exact ⟨_, Key.text?_index i⟩
  set k _ p hown _ := by
    rw [getD_of_getElem? hr] at hown
    exact (hasPlainProps_arrayObject values).ne_unset (.inr ⟨_, _, rfl⟩) hown

end array

/-! ### Objects -/

section object

variable {fields : List (String × Value)} {name : String}
  (hr : w.objects[r]? = some (objectOf fields))

include hr

theorem partKeys_objectOf : w.partKeys r = w.fieldKeys r :=
  partKeys_of_not_array (by rw [getD_of_getElem? hr]; rfl) (by rw [getD_of_getElem? hr]; rfl)

variable (hnodup : (fields.map (·.1)).Nodup)

include hnodup

theorem ownIn_field (hf : (name, v) ∈ fields) :
    ownIn w (w.objects.getD r default) (Exchange.keyOf name) = some (.plain v) := by
  rw [getD_of_getElem? hr, ownIn_of_plain w _ rfl]
  cases hfind : (objectOf fields).find? (Exchange.keyOf name) with
  | none =>
    rw [Object.find?_eq_none_iff rfl, keys_objectOf] at hfind
    exact absurd (List.mem_map.2 ⟨_, hf, rfl⟩) hfind
  | some p =>
    obtain ⟨f, hfound, heq⟩ := List.mem_map.1 (Object.mem_of_find? rfl hfind)
    obtain ⟨hkey, rfl⟩ := Prod.mk.inj heq
    obtain rfl : f = (name, v) :=
      List.inj_on_of_nodup_map hnodup hfound hf (Bridge.keyOf_injective hkey)
    rfl

theorem fieldKeys_perm : (w.fieldKeys r).Perm (fields.map fun f => Exchange.keyOf f.1) := by
  have hobject := getD_of_getElem? hr
  have hperm : (ownKeysOf (objectOf fields)).Perm (fields.map fun f => Exchange.keyOf f.1) := by
    rw [← keys_objectOf]
    refine ownKeysOf_perm rfl fun k hk => ?_
    rw [keys_objectOf] at hk
    obtain ⟨f, -, rfl⟩ := List.mem_map.1 hk
    exact Key.isHidden_keyOf f.1
  have hall : ∀ k ∈ ownKeysOf (objectOf fields),
      (k.str?.isSome && (ownIn w (objectOf fields) k).any (·.enumerable)) = true := by
    intro k hk
    obtain ⟨f, hf, rfl⟩ := List.mem_map.1 (hperm.mem_iff.1 hk)
    have hown := ownIn_field hr hnodup hf
    rw [hobject] at hown
    rw [hown, Exchange.keyOf, Key.str?_ofStr]
    rfl
  rw [fieldKeys, hobject]
  change (List.filter _ _).Perm _
  rwa [List.filter_eq_self.2 hall]

theorem read?_field (hf : (name, v) ∈ fields) : w.read? r (Exchange.keyOf name) = some v :=
  read?_of_own (ownIn_field hr hnodup hf) rfl

/-- A part of an object is one of its fields. -/
theorem exists_field (hk : k ∈ w.partKeys r) : ∃ f ∈ fields, k = Exchange.keyOf f.1 := by
  rw [partKeys_objectOf hr, (fieldKeys_perm hr hnodup).mem_iff] at hk
  obtain ⟨f, hf, rfl⟩ := List.mem_map.1 hk
  exact ⟨f, hf, rfl⟩

theorem hasPlainParts_object : w.HasPlainParts r where
  read k hk := by
    obtain ⟨f, hf, rfl⟩ := exists_field hr hnodup hk
    exact ⟨f.2, read?_field hr hnodup hf⟩
  text k hk := by
    obtain ⟨f, -, rfl⟩ := exists_field hr hnodup hk
    exact ⟨_, Key.text?_keyOf f.1⟩
  set k _ p hown _ := by
    rw [getD_of_getElem? hr] at hown
    exact (hasPlainProps_objectOf fields).ne_unset (.inl rfl) hown

end object

end World

/-! ### Numbers -/

/-- A number is taken for an integer by its value. -/
theorem Exchange.ofJsonNumber_eq {n : JsonNumber} (h : n.IsHeld) : ofJsonNumber n =
    match n.whole? with
    | some k => .int (Int32.ofInt k)
    | none => .float n.toFloat := by
  have hfloat (x : Float) : ofHostFloat x = match (JsonNumber.float x).whole? with
      | some k => .int (Int32.ofInt k)
      | none => .float x := rfl
  cases n with
  | float x => rfl
  | int n =>
    have hwhole := JsonNumber.whole?_float_toFloat h
    rw [ofJsonNumber]
    split_ifs with hfits
    · rw [JsonNumber.whole?, if_pos hfits]
    · rw [hfloat]
      change (match (JsonNumber.float (JsonNumber.int n).toFloat).whole? with
        | some k => Value.int (Int32.ofInt k)
        | none => .float (JsonNumber.int n).toFloat) = _
      rw [hwhole]

namespace World

/-- A number is shown by its canonical form. -/
theorem unfolds_number {n : JsonNumber} (h : n.IsHeld) (w : World) (name : String → String) :
    w.Unfolds name (Exchange.ofJsonNumber n) (.number n.canonical) := by
  rw [Exchange.ofJsonNumber_eq h, JsonNumber.canonical]
  cases hwhole : n.whole? with
  | some k =>
    have hfits := Value.fits_iff.1 (JsonNumber.whole?_eq_some_iff.1 hwhole).1
    have hunfolds : w.Unfolds name (.int (Int32.ofInt k)) (.ofInt (Int32.ofInt k).toInt) := .int _
    rwa [Int32.toInt_ofInt_of_le hfits.1 hfits.2] at hunfolds
  | none =>
    have hunfolds : w.Unfolds name (.float n.toFloat)
        (if n.toFloat.isFinite then .number (.float n.toFloat) else .null) := .float _
    rwa [if_pos h.isFinite] at hunfolds

/-! ### Values that show JSON -/

namespace Shows

variable {lo n : Nat} {u : Value} {j : Json}

theorem nodup_names {parts : List (Value × String × Json)}
    (hj : (Json.object (parts.map (·.2))).IsPortable) :
    ((parts.map fun p => (p.2.1, p.1)).map (·.1)).Nodup := by
  have hnames := hj.here.nodup_names
  rwa [List.map_map] at hnames ⊢

/-- The parts of a value show items and fields. -/
theorem part (h : w.Shows lo (.object r) j) (hj : j.IsPortable) (hk : k ∈ w.partKeys r)
    (hv : w.read? r k = some v) : ∃ i, j.Node 1 i ∧ w.Shows (r + 1) v i := by
  cases h with
  | @number _ _ n hobject =>
    rw [Exchange.ofJsonNumber_eq hj.here] at hobject
    cases hwhole : n.whole? <;> simp [hwhole] at hobject
  | @array _ _ parts hlo hr hparts =>
    obtain ⟨i, v', rfl, hitem⟩ := exists_item hr hk
    obtain rfl := Option.some.inj (hv.symm.trans (read?_item hr hitem))
    obtain ⟨p, hp, rfl⟩ := List.mem_map.1 (List.mem_of_getElem? hitem)
    exact ⟨p.2, .item (List.mem_map_of_mem hp) (.root _), hparts p hp⟩
  | @object _ _ parts hlo hr hparts =>
    obtain ⟨f, hf, rfl⟩ := exists_field hr (nodup_names hj) hk
    obtain rfl := Option.some.inj (hv.symm.trans (read?_field hr (nodup_names hj) hf))
    obtain ⟨p, hp, rfl⟩ := List.mem_map.1 hf
    exact ⟨p.2.2, .field (List.mem_map_of_mem hp) (.root _), hparts p hp⟩

/-- **Chains lead to the nodes** of the JSON value that is shown. -/
theorem node (h : w.Shows lo v j) (hj : j.IsPortable) (hchain : w.Chain n v u) :
    ∃ lo' i, j.Node n i ∧ w.Shows lo' u i := by
  induction hchain generalizing lo j with
  | refl => exact ⟨lo, j, .root j, h⟩
  | step hk hv _ ih =>
    obtain ⟨i, hi, hshows⟩ := h.part hj hk hv
    obtain ⟨lo', m, hm, hshows'⟩ := ih hshows (hj.node hi)
    rw [Nat.add_comm]
    exact ⟨lo', m, hi.trans hm, hshows'⟩

theorem isPlainHere (h : w.Shows lo v j) (hj : j.IsPortable) : w.IsPlainHere v := by
  cases h with
  | null | bool => trivial
  | @number _ _ n hv =>
    rw [hv, Exchange.ofJsonNumber_eq hj.here]
    cases n.whole? <;> trivial
  | string s => exact ⟨s, Str.toString?_ofString s⟩
  | array hlo hr => exact fun _ => hasPlainParts_array hr
  | object hlo hr => exact fun _ => hasPlainParts_object hr (nodup_names hj)

/-- What shows JSON is plain data. -/
theorem isPlain (h : w.Shows lo v j) (hj : j.IsPortable) : w.IsPlain v := by
  intro n u hchain
  obtain ⟨_, i, hi, hshows⟩ := h.node hj hchain
  exact hshows.isPlainHere (hj.node hi)

/-- It has no chains that are longer than the JSON value is deep. -/
theorem within (h : w.Shows lo v j) (hj : j.IsPortable) {depth : Nat} (hdepth : j.HasDepth depth) :
    w.Within (depth + 1) v := by
  intro n u hchain
  obtain ⟨_, i, hi, -⟩ := h.node hj hchain
  exact Nat.lt_succ_of_le (hdepth n i hi)

theorem unfolds_array {parts : List (Value × Json)}
    (hr : w.objects[r]? = some (arrayObject (parts.map (·.1))))
    (h : ∀ p ∈ parts, w.Unfolds beforeNul p.1 p.2.canonical) :
    w.Unfolds beforeNul (.object r) (Json.array (parts.map (·.2))).canonical := by
  have hpart : ∀ i < (parts.map (·.1)).length, parts[i]? = some (parts.getD i default) := by
    intro i hi
    rw [List.length_map] at hi
    rw [List.getD_eq_getElem?_getD, List.getElem?_eq_getElem hi, Option.getD_some]
  have hread : ∀ i < (parts.map (·.1)).length,
      w.read? r (.index i) = some (parts.getD i default).1 := fun i hi =>
    read?_item hr (by rw [List.getElem?_map, hpart i hi, Option.map_some])
  have hitems : (List.range (parts.map (·.1)).length).map
      (fun i => (parts.getD i default).2.canonical) = (parts.map (·.2)).map Json.canonical := by
    refine List.ext_getElem (by simp) fun i hi hi' => ?_
    rw [List.length_map, List.length_map] at hi'
    simp [List.getElem?_eq_getElem hi']
  rw [Json.canonical_array, ← hitems]
  exact .array (kind_arrayObject hr) hread fun i hi => h _ (List.mem_of_getElem? (hpart i hi))

theorem unfolds_object {parts : List (Value × String × Json)}
    (hr : w.objects[r]? = some (objectOf (parts.map fun p => (p.2.1, p.1))))
    (hj : (Json.object (parts.map (·.2))).IsPortable)
    (h : ∀ p ∈ parts, w.Unfolds beforeNul p.1 p.2.2.canonical) :
    w.Unfolds beforeNul (.object r) (Json.object (parts.map (·.2))).canonical := by
  have hnodup := nodup_names hj
  have hkeys : (w.fieldKeys r).Perm (parts.map fun p => Exchange.keyOf p.2.1) := by
    have hperm := fieldKeys_perm hr hnodup
    rwa [List.map_map] at hperm
  -- each key is that of one part
  have hpart : ∀ k, ∃ p, k ∈ w.fieldKeys r → p ∈ parts ∧ Exchange.keyOf p.2.1 = k := by
    intro k
    by_cases hk : k ∈ w.fieldKeys r
    · obtain ⟨p, hp, hkey⟩ := List.mem_map.1 (hkeys.mem_iff.1 hk)
      exact ⟨p, fun _ => ⟨hp, hkey⟩⟩
    · exact ⟨default, fun hmem => absurd hmem hk⟩
  choose part hpart using hpart
  have hunique : ∀ p ∈ parts, part (Exchange.keyOf p.2.1) = p := by
    intro p hp
    obtain ⟨hmem, hkey⟩ := hpart _ (hkeys.mem_iff.2 (List.mem_map.2 ⟨p, hp, rfl⟩))
    rw [List.map_map] at hnodup
    exact List.inj_on_of_nodup_map hnodup hmem hp (Bridge.keyOf_injective hkey)
  have hunfolds : w.Unfolds beforeNul (.object r) (.ofFields ((w.fieldKeys r).map
      fun k => (beforeNul (part k).2.1, (part k).2.2.canonical))) := by
    refine .object (by rw [getD_of_getElem? hr]; rfl) (by rw [getD_of_getElem? hr]; rfl)
      (fun k hk => ?_) (fun k hk => ?_) fun k hk => h _ (hpart k hk).1
    · rw [← (hpart k hk).2, Key.text?_keyOf, (hpart k hk).2]
    · rw [← (hpart k hk).2, hunique _ (hpart k hk).1]
      exact read?_field hr (nodup_names hj) (List.mem_map.2 ⟨_, (hpart k hk).1, rfl⟩)
  have hfields :
      ((w.fieldKeys r).map fun k => (beforeNul (part k).2.1, (part k).2.2.canonical)).Perm
      ((parts.map (·.2)).map fun p => (p.1, p.2.canonical)) := by
    refine (hkeys.map _).trans (.of_eq ?_)
    rw [List.map_map, List.map_map]
    refine List.map_congr_left fun p hp => ?_
    have hname := hj.here.without_nul p.2 (List.mem_map_of_mem hp)
    simp only [Function.comp_apply, hunique p hp, beforeNul_of_not_mem hname]
  have hportable := hj.canonical.here
  rw [Json.canonical_object] at hportable ⊢
  rwa [Json.ofFields_of_perm hfields hportable.sorted] at hunfolds

/-- **The graph of a value that shows JSON** is its canonical form. -/
theorem unfolds (h : w.Shows lo v j) (hj : j.IsPortable) : w.Unfolds beforeNul v j.canonical := by
  induction h with
  | null => exact .null
  | bool b => exact .bool b
  | number hv => exact hv ▸ unfolds_number hj.here w _
  | string s => exact .string (Str.toString?_ofString s)
  | array _ hr _ ih =>
    exact unfolds_array hr fun p hp => ih p hp (hj.item (List.mem_map_of_mem hp))
  | object _ hr _ ih =>
    exact unfolds_object hr hj fun p hp => ih p hp (hj.field (List.mem_map_of_mem hp))

end Shows

end World

end Script

end ScriptBridge
