import ScriptBridge.Proofs.Exchange.Graph
import ScriptBridge.Proofs.Script.Crossing

/-!
# Values that become JSON

The JSON form of a value is made by walking along all chains to its parts, and the walk gives up
where a chain is longer than 128 steps.  It does not look for cycles: a cycle makes a chain too
long.

* `Exchange.Converts` : where no chain is too long, the walk comes to **the graph, unfolded**, and
  leaves the world as it was; where one is, it comes to nothing but **the error**.
* `Exchange.converts` : so plain data is converted as far as there is room.
-/

namespace ScriptBridge

namespace Script

open Proc

namespace World

variable {w : World} {r : Ref} {k : Key} {v : Value}

theorem run_getOf_of_read? (h : w.read? r k = some v) : getOf r k w = .done v w := by
  unfold read? at h
  split at h
  · rename_i hnone
    cases h
    have hlookup : lookupIn w k (w.objects.size + 1) r = none := Option.map_eq_none_iff.1 hnone
    simp only [getOf, getFrom, lookup, run_bind, run_world, run_pure, Outcome.bind, hlookup]
  · rename_i p hp
    refine run_getOf ?_
    split at h
    · rename_i v' hv
      rw [hp, Option.map_some, hv, Option.some.inj h]
    · cases h

/-- A key with what is held under it, if it is enumerable. -/
def exposed (w : World) (o : Object) (k : Key) : Option (Key × Holding) :=
  match ownIn w o k with
  | some p => if p.enumerable then some (k, p.holding) else none
  | none => none

theorem map_exposed (w : World) (o : Object) (k : Key) : (w.exposed o k).map (·.1) =
    if (ownIn w o k).any (·.enumerable) then some k else none := by
  rw [exposed]
  cases ownIn w o k with
  | none => rfl
  | some p => cases hp : p.enumerable <;> simp [hp]

theorem exposed_eq_some {o : Object} {f : Key × Holding} (h : w.exposed o k = some f) :
    ∃ p, ownIn w o k = some p ∧ p.enumerable = true ∧ f = (k, p.holding) := by
  rw [exposed] at h
  cases hp : ownIn w o k with
  | none =>
    rw [hp] at h
    cases h
  | some p =>
    simp only [hp, Option.ite_none_right_eq_some, Option.some.injEq] at h
    exact ⟨p, rfl, h.1, h.2.symm⟩

/-- The enumerable keys are found without an error if no property is a variable without a value. -/
theorem run_enumerableKeys (hset : ∀ k ∈ ownKeysOf (w.objects.getD r default), ∀ p,
    ownIn w (w.objects.getD r default) k = some p → p.enumerable = true →
    ∀ name, p.holding ≠ .unset name) :
    enumerableKeys r w = .done ((ownKeysOf (w.objects.getD r default)).filter fun k =>
      (ownIn w (w.objects.getD r default) k).any (·.enumerable)) w := by
  have hkeys : ((ownKeysOf (w.objects.getD r default)).filterMap
      (w.exposed (w.objects.getD r default))).map (·.1) =
        (ownKeysOf (w.objects.getD r default)).filter fun k =>
          (ownIn w (w.objects.getD r default) k).any (·.enumerable) := by
    rw [List.map_filterMap]
    simp only [map_exposed]
    exact congrFun List.filterMap_eq_filter _
  rw [← hkeys]
  simp only [enumerableKeys, run_bind, run_world, Outcome.bind]
  split
  · rename_i name hunset
    obtain ⟨f, hmem, hname⟩ := List.exists_of_findSome?_eq_some hunset
    obtain ⟨k, hk, hshown⟩ := List.mem_filterMap.1 hmem
    obtain ⟨p, hp, henumerable, rfl⟩ := exposed_eq_some hshown
    split at hname
    · rename_i hholding
      exact absurd hholding (hset k hk p hp henumerable _)
    · cases hname
  · rfl

/-- The keys of the fields are those of them that are texts. -/
theorem run_fieldKeys (hset : ∀ k ∈ ownKeysOf (w.objects.getD r default), ∀ p,
    ownIn w (w.objects.getD r default) k = some p → p.enumerable = true →
    ∀ name, p.holding ≠ .unset name) : Exchange.fieldKeys r w = .done (w.fieldKeys r) w := by
  simp only [Exchange.fieldKeys, run_bind, run_enumerableKeys hset, Outcome.bind, run_pure,
    List.filter_filter, fieldKeys]

end World

namespace Exchange

variable {w : World} {r : Ref} {v : Value} {room n : Nat}

/-- What is said of a value with a chain that is too long. -/
def tooDeep : String := "value is nested too deeply to convert to JSON"

/-- What making the JSON form of a value comes to, with room for so many steps. -/
structure Converts (w : World) (room : Nat) (v : Value) : Prop where
  unfolds : w.Within room v →
    ∃ j, (toJsonIn room v).run w = .done (.ok j) w ∧ w.Unfolds beforeNul v j
  thrown : ¬ w.Within room v →
    (toJsonIn room v).run w = (Crossing.throwNew .rangeError tooDeep : Crossing Json).run w

/-- A value without parts. -/
theorem converts_of_no_parts {j : Json} (hparts : ∀ r, v = .object r → w.partKeys r = [])
    (hrun : (toJsonIn (room + 1) v).run w = .done (.ok j) w) (hj : w.Unfolds beforeNul v j) :
    Converts w (room + 1) v :=
  ⟨fun _ => ⟨j, hrun, hj⟩, fun h => absurd (World.within_of_no_parts hparts) h⟩

theorem converts_of_not_object {j : Json} (hv : ∀ r, v ≠ .object r)
    (hrun : (toJsonIn (room + 1) v).run w = .done (.ok j) w) (hj : w.Unfolds beforeNul v j) :
    Converts w (room + 1) v :=
  converts_of_no_parts (fun r hr => absurd hr (hv r)) hrun hj

/-- The parts are converted one after the other: all of them, or up to the first that has no
room. -/
theorem run_mapM_parts {κ β : Type} {keys : List κ} {f : κ → Crossing β} {values : κ → Value}
    {g : κ → Json → β} (hf : ∀ a ∈ keys, (f a).run w = (g a <$> toJsonIn room (values a)).run w)
    (h : ∀ a ∈ keys, Converts w room (values a)) :
    ((∀ a ∈ keys, w.Within room (values a)) → ∃ js : κ → Json,
      (∀ a ∈ keys, w.Unfolds beforeNul (values a) (js a)) ∧
        (keys.mapM f).run w = .done (.ok (keys.map fun a => g a (js a))) w) ∧
      ((∃ a ∈ keys, ¬ w.Within room (values a)) →
        (keys.mapM f).run w =
          (Crossing.throwNew .rangeError tooDeep : Crossing (List β)).run w) := by
  have hdone {a : κ} {j : Json} (ha : a ∈ keys)
      (hj : (toJsonIn room (values a)).run w = .done (.ok j) w) :
      (f a).run w = .done (.ok (g a j)) w := by
    rw [hf a ha, map_eq_pure_bind, Crossing.run_bind_of_done hj]
    rfl
  have hthrown {a : κ} (ha : a ∈ keys) (hdeep : ¬ w.Within room (values a)) :
      (f a).run w = (Crossing.throwNew .rangeError tooDeep : Crossing β).run w := by
    rw [hf a ha, map_eq_pure_bind]
    exact Crossing.run_bind_of_thrown ((h a ha).thrown hdeep)
  constructor
  · intro hwithin
    -- one JSON value for each key, also for those that are not asked for
    have hall : ∀ a, ∃ j, a ∈ keys → (toJsonIn room (values a)).run w = .done (.ok j) w ∧
        w.Unfolds beforeNul (values a) j := by
      intro a
      by_cases ha : a ∈ keys
      · obtain ⟨j, hj⟩ := (h a ha).unfolds (hwithin a ha)
        exact ⟨j, fun _ => hj⟩
      · exact ⟨.null, fun hmem => absurd hmem ha⟩
    choose js hjs using hall
    exact ⟨js, fun a ha => (hjs a ha).2, Crossing.run_mapM_of_done fun a ha =>
      hdone ha (hjs a ha).1⟩
  · rintro ⟨a, ha, hdeep⟩
    refine Crossing.run_mapM_of_thrown (fun a ha => ?_) ⟨a, ha, hthrown ha hdeep⟩
    by_cases hwithin : w.Within room (values a)
    · obtain ⟨j, hj, -⟩ := (h a ha).unfolds hwithin
      exact .inl ⟨_, hdone ha hj⟩
    · exact .inr (hthrown ha hwithin)

/-- An object that is no function is converted by what it is. -/
theorem run_toJsonIn_object (hr : (w.objects.getD r default).isCallable = false) :
    (toJsonIn (room + 1) (.object r)).run w = ((match (w.objects.getD r default).kind with
      | .array n _ => do
        let items ← (List.range n).mapM fun i => do
          toJsonIn room (← Crossing.ofProc (getOf r (.index i)))
        return .array items
      | _ => do
        let fields ← (← Crossing.ofProc (fieldKeys r)).mapM fun k => do
          let name ← textOf (k.str?.getD Str.empty).beforeNul
          let item ← Crossing.ofProc (getOf r k)
          return (name, ← toJsonIn room item)
        return .ofFields fields) : Crossing Json).run w := by
  rw [toJsonIn, Crossing.run_bind_of_done (Crossing.run_ofProc_of_done (run_object r w))]
  exact congrArg (fun p : Crossing Json => p.run w) (if_neg (hr ▸ Bool.false_ne_true))

theorem converts_array {fixed : Bool} (hr : (w.objects.getD r default).kind = .array n fixed)
    (hparts : w.HasPlainParts r)
    (ih : ∀ k ∈ w.partKeys r, ∀ v, w.read? r k = some v → Converts w room v) :
    Converts w (room + 1) (.object r) := by
  have hkeys := World.partKeys_of_array hr
  have hmem {i : Nat} (hi : i ∈ List.range n) : Key.index i ∈ w.partKeys r :=
    hkeys ▸ List.mem_map_of_mem hi
  -- the elements are chosen all at once, whatever stands for them beyond the end
  have hread : ∀ i, ∃ v, i ∈ List.range n → w.read? r (.index i) = some v := by
    intro i
    by_cases hi : i ∈ List.range n
    · obtain ⟨v, hv⟩ := hparts.read _ (hmem hi)
      exact ⟨v, fun _ => hv⟩
    · exact ⟨.undefined, fun h => absurd h hi⟩
  choose values hvalues using hread
  have hpart : ∀ i ∈ List.range n,
      ((do toJsonIn room (← Crossing.ofProc (getOf r (.index i)))) : Crossing Json).run w =
        ((fun j => j) <$> toJsonIn room (values i)).run w := by
    intro i hi
    rw [Crossing.run_bind_of_done (Crossing.run_ofProc_of_done
      (World.run_getOf_of_read? (hvalues i hi))), id_map']
  obtain ⟨hdone, hthrown⟩ := run_mapM_parts (g := fun _ j => j) hpart
    fun i hi => ih _ (hmem hi) _ (hvalues i hi)
  have hrun := @run_toJsonIn_object w r room (World.isCallable_of_array hr)
  rw [hr] at hrun
  constructor
  · intro hwithin
    obtain ⟨items, hitems, hmap⟩ :=
      hdone fun i hi => hwithin.part (hmem hi) (hvalues i hi)
    have hreads : ∀ i < n, w.read? r (.index i) = some (values i) :=
      fun i hi => hvalues i (List.mem_range.2 hi)
    have hunfolds : ∀ i < n, w.Unfolds beforeNul (values i) (items i) :=
      fun i hi => hitems i (List.mem_range.2 hi)
    refine ⟨_, ?_, .array hr hreads hunfolds⟩
    rw [hrun]
    exact Crossing.run_bind_of_done hmap
  · intro hdeep
    obtain ⟨k, hk, v, hv, hdeep⟩ := World.exists_part_not_within hdeep
    rw [hkeys] at hk
    obtain ⟨i, hi, rfl⟩ := List.mem_map.1 hk
    obtain rfl := Option.some.inj (hv.symm.trans (hvalues i hi))
    rw [hrun]
    exact Crossing.run_bind_of_thrown (hthrown ⟨i, hi, hdeep⟩)

/-- The name of a field is written up to its first NUL. -/
theorem run_textOf_beforeNul {k : Key} {t : String} (h : k.text? = some t) :
    (textOf (k.str?.getD Str.empty).beforeNul).run w = .done (.ok (beforeNul t)) w := by
  obtain ⟨s, hs, htext⟩ := Option.bind_eq_some_iff.1 h
  cases hdecode : s.toString? with
  | error e =>
    rw [hdecode] at htext
    cases htext
  | ok t' =>
    rw [hdecode] at htext
    obtain rfl := Option.some.inj htext
    rw [hs, Option.getD_some, textOf, Str.toString?_beforeNul hdecode]
    rfl

/-- An object that is no function and no array is converted field by field. -/
theorem run_toJsonIn_fields (hr : (w.objects.getD r default).isCallable = false)
    (harray : (w.objects.getD r default).isArray = false) (hparts : w.HasPlainParts r) :
    (toJsonIn (room + 1) (.object r)).run w = ((do
      let fields ← (w.fieldKeys r).mapM fun k => do
        let name ← textOf (k.str?.getD Str.empty).beforeNul
        let item ← Crossing.ofProc (getOf r k)
        return (name, ← toJsonIn room item)
      return .ofFields fields) : Crossing Json).run w := by
  rw [run_toJsonIn_object hr]
  split
  · rename_i hkind
    rw [Object.isArray, hkind] at harray
    cases harray
  · exact Crossing.run_bind_of_done (Crossing.run_ofProc_of_done (World.run_fieldKeys hparts.set))

theorem converts_object (hr : (w.objects.getD r default).isCallable = false)
    (harray : (w.objects.getD r default).isArray = false) (hparts : w.HasPlainParts r)
    (ih : ∀ k ∈ w.partKeys r, ∀ v, w.read? r k = some v → Converts w room v) :
    Converts w (room + 1) (.object r) := by
  have hkeys := World.partKeys_of_not_array hr harray
  have hread : ∀ k, ∃ v t, k ∈ w.fieldKeys r → w.read? r k = some v ∧ k.text? = some t := by
    intro k
    by_cases hk : k ∈ w.fieldKeys r
    · obtain ⟨v, hv⟩ := hparts.read k (hkeys ▸ hk)
      obtain ⟨t, ht⟩ := hparts.text k (hkeys ▸ hk)
      exact ⟨v, t, fun _ => ⟨hv, ht⟩⟩
    · exact ⟨.undefined, "", fun h => absurd h hk⟩
  choose values texts hfound using hread
  have hpart : ∀ k ∈ w.fieldKeys r, ((do
      let name ← textOf (k.str?.getD Str.empty).beforeNul
      let item ← Crossing.ofProc (getOf r k)
      return (name, ← toJsonIn room item)) : Crossing (String × Json)).run w =
        ((fun j => (beforeNul (texts k), j)) <$> toJsonIn room (values k)).run w := by
    intro k hk
    rw [Crossing.run_bind_of_done (run_textOf_beforeNul (hfound k hk).2), Crossing.run_bind_of_done
      (Crossing.run_ofProc_of_done (World.run_getOf_of_read? (hfound k hk).1)), map_eq_pure_bind]
  obtain ⟨hdone, hthrown⟩ := run_mapM_parts (g := fun k j => (beforeNul (texts k), j)) hpart
    fun k hk => ih k (hkeys ▸ hk) _ (hfound k hk).1
  have hrun := @run_toJsonIn_fields w r room hr harray hparts
  constructor
  · intro hwithin
    obtain ⟨fields, hfields, hmap⟩ :=
      hdone fun k hk => hwithin.part (hkeys ▸ hk) (hfound k hk).1
    refine ⟨_, ?_, .object hr harray (fun k hk => (hfound k hk).2) (fun k hk => (hfound k hk).1)
      hfields⟩
    rw [hrun]
    exact Crossing.run_bind_of_done hmap
  · intro hdeep
    obtain ⟨k, hk, v, hv, hdeep⟩ := World.exists_part_not_within hdeep
    rw [hkeys] at hk
    obtain rfl := Option.some.inj (hv.symm.trans (hfound k hk).1)
    rw [hrun]
    exact Crossing.run_bind_of_thrown (hthrown ⟨k, hk, hdeep⟩)

/-- **Plain data is converted as far as there is room.** -/
theorem converts (hv : w.IsPlain v) : Converts w room v := by
  -- on the room, since a value that contains itself is no tree
  induction room generalizing v with
  | zero => exact ⟨fun h => absurd h World.not_within_zero, fun _ => rfl⟩
  | succ room ih =>
    cases v with
    | object r =>
      have ihparts : ∀ k ∈ w.partKeys r, ∀ v, w.read? r k = some v → Converts w room v :=
        fun k hk v hread => ih (hv.part hk hread)
      cases hcall : (w.objects.getD r default).isCallable with
      | true =>
        refine converts_of_no_parts (fun q hq => ?_) ?_ (.function hcall)
        · cases hq
          exact World.partKeys_of_callable hcall
        · rw [toJsonIn, Crossing.run_bind_of_done (Crossing.run_ofProc_of_done (run_object r w))]
          simp only [hcall, if_true]
          rfl
      | false =>
        have hparts : w.HasPlainParts r := hv.here hcall
        cases hkind : (w.objects.getD r default).kind with
        | array n fixed => exact converts_array hkind hparts ihparts
        | _ =>
          refine converts_object hcall ?_ hparts ihparts
          rw [Object.isArray, hkind]
    | string s =>
      obtain ⟨t, ht⟩ : ∃ t, s.toString? = .ok t := hv.here
      refine converts_of_not_object (by simp) ?_ (.string ht)
      rw [toJsonIn, textOf, ht]
      rfl
    | undefined => exact converts_of_not_object (by simp) rfl .undefined
    | null => exact converts_of_not_object (by simp) rfl .null
    | bool b => exact converts_of_not_object (by simp) rfl (.bool b)
    | int n => exact converts_of_not_object (by simp) rfl (.int n)
    | float x => exact converts_of_not_object (by simp) rfl (.float x)
    | symbol id => exact converts_of_not_object (by simp) rfl (.symbol id)
    | bigint n => exact converts_of_not_object (by simp) rfl (.bigint n)

end Exchange

end Script

end ScriptBridge
