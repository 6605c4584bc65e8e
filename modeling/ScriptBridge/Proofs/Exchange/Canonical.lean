import Mathlib.Data.List.Sort
import Mathlib.Data.String.Basic
import ScriptBridge.Proofs.Exchange.Rounding

/-!
# JSON values as trees

A JSON value is a tree, and what the engine does not keep of it is how its numbers are written.  In
the canonical form a number is an integer if its value is one that thirty-two bits hold, and the
nearest float otherwise.

* `JsonNumber.whole?_eq_some_iff` : **only the value of a number** decides whether it is an integer.
* `JsonNumber.canonical_canonical`, `Json.canonical_canonical` : the canonical form **is its own**.
* `Json.IsPortable.canonical` : it has the depth and the names of the value that it is the form of.
* `Json.ofFields_of_perm` : an object forgets the order of its fields.
-/

namespace ScriptBridge

open Script

namespace JsonNumber

/-! ### Numbers -/

/-- The value of a number, if it is finite. -/
def value? : JsonNumber → Option ℚ
  | int n => some n
  | float x => (Decimal.parts? x).map (·.value)

/-- The integer that a number is, if thirty-two bits hold it. -/
def whole? : JsonNumber → Option Int
  | int n => if Value.fits n then some n else none
  | float x => Value.wholeOfFloat? x

/-- The canonical form of a number: an integer, if it is one that thirty-two bits hold, or the
nearest float. -/
def canonical (n : JsonNumber) : JsonNumber :=
  match n.whole? with
  | some k => .int k
  | none => .float n.toFloat

/-- JSON values have such numbers: integers of sixty-four bits, with a sign or without, and finite
floats. -/
def IsHeld : JsonNumber → Prop
  | int n => -2 ^ 63 ≤ n ∧ n < 2 ^ 64
  | float x => x.isFinite = true

variable {n : JsonNumber} {k : Int}

/-- **A number is an integer by its value**, however it is written. -/
theorem whole?_eq_some_iff : n.whole? = some k ↔ Value.fits k = true ∧ n.value? = some (k : ℚ) := by
  cases n with
  | int n =>
    simp only [whole?, value?, Option.some.injEq, Int.cast_inj]
    constructor
    · intro h
      split_ifs at h with hfits
      obtain rfl := Option.some.inj h
      exact ⟨hfits, rfl⟩
    · rintro ⟨hfits, rfl⟩
      rw [if_pos hfits]
  | float x =>
    rw [whole?, value?, Value.wholeOfFloat?_eq_some_iff, Option.map_eq_some_iff]

theorem IsHeld.natAbs_lt {n : Int} (h : (int n).IsHeld) : n.natAbs < 2 ^ 64 := by
  obtain ⟨hlow, hhigh⟩ := h
  omega

theorem IsHeld.isFinite (h : n.IsHeld) : n.toFloat.isFinite = true := by
  cases n with
  | int n => exact Decimal.isFinite_floatOfInt h.natAbs_lt
  | float x => exact h

/-- The nearest float of an integer that needs more than thirty-two bits is not taken for another
one. -/
theorem whole?_float_toFloat (h : n.IsHeld) : (float n.toFloat).whole? = n.whole? := by
  cases n with
  | float x => rfl
  | int n =>
    obtain ⟨p, hp, hexact, hlarge⟩ := Decimal.value_floatOfInt h.natAbs_lt
    refine Option.ext fun k => ?_
    rw [whole?_eq_some_iff, whole?_eq_some_iff, value?, value?, toFloat, hp, Option.map_some,
      Option.some_inj, Option.some_inj]
    refine and_congr_right fun hfits => ?_
    have hk := Value.fits_iff.1 hfits
    by_cases hsmall : n.natAbs < 2 ^ 53
    · rw [hexact hsmall]
    · have habs : ((k.natAbs : ℕ) : ℚ) < 2 ^ 53 := by
        have : k.natAbs < 2 ^ 53 := by omega
        exact_mod_cast this
      constructor
      · intro hvalue
        have hle := hlarge (by omega)
        rw [hvalue, ← Int.cast_abs, Int.abs_eq_natAbs, Int.cast_natCast] at hle
        exact absurd habs (not_lt.2 hle)
      · intro hvalue
        obtain rfl := Int.cast_inj.1 hvalue
        omega

theorem canonical_of_value? (hfits : Value.fits k = true) (hk : n.value? = some (k : ℚ)) :
    n.canonical = .int k := by
  rw [canonical, whole?_eq_some_iff.2 ⟨hfits, hk⟩]

theorem canonical_of_not_whole (h : ∀ k : Int, Value.fits k = true → n.value? ≠ some (k : ℚ)) :
    n.canonical = .float n.toFloat := by
  have hnone : n.whole? = none := Option.eq_none_iff_forall_ne_some.2 fun k hk =>
    h k (whole?_eq_some_iff.1 hk).1 (whole?_eq_some_iff.1 hk).2
  rw [canonical, hnone]

theorem canonical_canonical (h : n.IsHeld) : n.canonical.canonical = n.canonical := by
  cases hwhole : n.whole? with
  | some k =>
    have hfits := (whole?_eq_some_iff.1 hwhole).1
    have hint : n.canonical = .int k := by rw [canonical, hwhole]
    rw [hint, canonical, whole?, if_pos hfits]
  | none =>
    have hfloat : n.canonical = .float n.toFloat := by rw [canonical, hwhole]
    rw [hfloat, canonical, whole?_float_toFloat h, hwhole]
    rfl

theorem IsHeld.canonical (h : n.IsHeld) : n.canonical.IsHeld := by
  cases hwhole : n.whole? with
  | some k =>
    have hk := Value.fits_iff.1 (whole?_eq_some_iff.1 hwhole).1
    rw [JsonNumber.canonical, hwhole]
    exact ⟨by omega, by omega⟩
  | none =>
    rw [JsonNumber.canonical, hwhole]
    exact h.isFinite

end JsonNumber

namespace Json

variable {j n : Json} {d : Nat} {items : List Json} {fields : List (String × Json)}
  {f g : JsonNumber → JsonNumber}

/-! ### Induction -/

/-- What holds of an array if it holds of its items, and of an object if it holds of its fields,
holds of all JSON values. -/
@[elab_as_elim]
theorem induction {P : Json → Prop} (null : P .null) (bool : ∀ b, P (.bool b))
    (number : ∀ n, P (.number n)) (string : ∀ s, P (.string s))
    (array : ∀ items, (∀ j ∈ items, P j) → P (.array items))
    (object : ∀ fields : List (String × Json), (∀ f ∈ fields, P f.2) → P (.object fields))
    (j : Json) : P j :=
  @Json.rec P (fun items => ∀ j ∈ items, P j) (fun fields => ∀ f ∈ fields, P f.2) (fun f => P f.2)
    null bool number string array object
    nofun (fun _ _ h hrest => List.forall_mem_cons.2 ⟨h, hrest⟩)
    nofun (fun _ _ h hrest => List.forall_mem_cons.2 ⟨h, hrest⟩) (fun _ _ h => h) j

/-! ### Nodes -/

/-- So many steps lead from a JSON value to another one, each to an item or to a field. -/
inductive Node : Json → Nat → Json → Prop
  | root (j : Json) : Node j 0 j
  | item {items : List Json} {i n : Json} {d : Nat} (hi : i ∈ items) (h : Node i d n) :
    Node (.array items) (d + 1) n
  | field {fields : List (String × Json)} {f : String × Json} {n : Json} {d : Nat} (hf : f ∈ fields)
    (h : Node f.2 d n) : Node (.object fields) (d + 1) n

theorem Node.trans {i : Json} {e : Nat} (h : j.Node d i) (h' : i.Node e n) : j.Node (d + e) n := by
  induction h with
  | root => rwa [Nat.zero_add]
  | item hi _ ih =>
    rw [Nat.add_right_comm]
    exact .item hi (ih h')
  | field hf _ ih =>
    rw [Nat.add_right_comm]
    exact .field hf (ih h')

theorem Node.eq_of_zero (h : j.Node 0 n) : n = j := by
  cases h
  rfl

/-- Only arrays and objects have more nodes than one. -/
theorem not_node_succ (hitems : ∀ items, j ≠ .array items)
    (hfields : ∀ fields, j ≠ .object fields) : ¬ j.Node (d + 1) n := by
  rintro (_ | _ | _)
  · exact hitems _ rfl
  · exact hfields _ rfl

/-! ### Other numbers -/

mutual

/-- A JSON value with its numbers replaced. -/
def mapNumbers (f : JsonNumber → JsonNumber) : Json → Json
  | .null => .null
  | .bool b => .bool b
  | .number n => .number (f n)
  | .string s => .string s
  | .array items => .array (mapItems f items)
  | .object fields => .object (mapFields f fields)

/-- Items with their numbers replaced. -/
def mapItems (f : JsonNumber → JsonNumber) : List Json → List Json
  | [] => []
  | j :: rest => mapNumbers f j :: mapItems f rest

/-- Fields with the numbers in their values replaced. -/
def mapFields (f : JsonNumber → JsonNumber) : List (String × Json) → List (String × Json)
  | [] => []
  | (key, j) :: rest => (key, mapNumbers f j) :: mapFields f rest

end

theorem mapItems_eq_map (items : List Json) : mapItems f items = items.map (mapNumbers f) := by
  induction items with
  | nil => rfl
  | cons j rest ih => rw [mapItems, ih, List.map_cons]

theorem mapFields_eq_map (fields : List (String × Json)) :
    mapFields f fields = fields.map fun p => (p.1, p.2.mapNumbers f) := by
  induction fields with
  | nil => rfl
  | cons p rest ih => rw [mapFields, ih, List.map_cons]

@[simp] theorem mapNumbers_array (items : List Json) :
    (Json.array items).mapNumbers f = .array (items.map (mapNumbers f)) := by
  rw [mapNumbers, mapItems_eq_map]

@[simp] theorem mapNumbers_object (fields : List (String × Json)) :
    (Json.object fields).mapNumbers f = .object (fields.map fun p => (p.1, p.2.mapNumbers f)) := by
  rw [mapNumbers, mapFields_eq_map]

theorem mapNumbers_mapNumbers (j : Json) :
    (j.mapNumbers f).mapNumbers g = j.mapNumbers (g ∘ f) := by
  induction j using Json.induction with
  | null | bool | number | string => rfl
  | array items ih =>
    rw [mapNumbers_array, mapNumbers_array, mapNumbers_array, List.map_map]
    exact congrArg Json.array (List.map_congr_left ih)
  | object fields ih =>
    rw [mapNumbers_object, mapNumbers_object, mapNumbers_object, List.map_map]
    exact congrArg Json.object (List.map_congr_left fun p hp => Prod.ext rfl (ih p hp))

/-- Only the numbers that a value has count. -/
theorem mapNumbers_congr (h : ∀ d m, j.Node d (.number m) → f m = g m) :
    j.mapNumbers f = j.mapNumbers g := by
  induction j using Json.induction with
  | null | bool | string => rfl
  | number m => exact congrArg Json.number (h 0 m (.root _))
  | array items ih =>
    rw [mapNumbers_array, mapNumbers_array]
    exact congrArg Json.array (List.map_congr_left fun i hi =>
      ih i hi fun d m hm => h (d + 1) m (.item hi hm))
  | object fields ih =>
    rw [mapNumbers_object, mapNumbers_object]
    exact congrArg Json.object (List.map_congr_left fun p hp =>
      Prod.ext rfl (ih p hp fun d m hm => h (d + 1) m (.field hp hm)))

/-- What has other numbers has nodes at the same depths. -/
theorem Node.of_mapNumbers (h : (j.mapNumbers f).Node d n) :
    ∃ m, j.Node d m ∧ n = m.mapNumbers f := by
  induction d generalizing j with
  | zero => exact ⟨j, .root j, h.eq_of_zero⟩
  | succ d ih =>
    cases j with
    | array items =>
      rw [mapNumbers_array] at h
      cases h with
      | item hmem hn =>
        obtain ⟨i, hi, rfl⟩ := List.mem_map.1 hmem
        obtain ⟨m, hm, rfl⟩ := ih hn
        exact ⟨m, .item hi hm, rfl⟩
    | object fields =>
      rw [mapNumbers_object] at h
      cases h with
      | field hmem hn =>
        obtain ⟨p, hp, rfl⟩ := List.mem_map.1 hmem
        obtain ⟨m, hm, rfl⟩ := ih hn
        exact ⟨m, .field hp hm, rfl⟩
    | _ => exact absurd h (not_node_succ nofun nofun)

/-! ### Canonical values -/

/-- The canonical form of a JSON value: all its numbers are. -/
def canonical : Json → Json := mapNumbers JsonNumber.canonical

/-- The fields of an object: each has another name, they are in the order of these, and the engine
takes a name for what it is. -/
structure HasPortableFields (fields : List (String × Json)) : Prop where
  sorted : fields.Pairwise fun f g => f.1 < g.1
  /-- No name has a NUL. -/
  without_nul : ∀ f ∈ fields, '\x00' ∉ f.1.toList
  /-- None is that of the prototype. -/
  ordinary : ∀ f ∈ fields, f.1 ≠ "__proto__"

theorem HasPortableFields.nodup_names (h : HasPortableFields fields) : (fields.map (·.1)).Nodup :=
  List.pairwise_map.2 (h.sorted.imp LT.lt.ne)

/-- A node of a JSON value that the engine has a form of. -/
def IsPortableHere : Json → Prop
  | .number n => n.IsHeld
  | .object fields => HasPortableFields fields
  | _ => True

/-- All nodes of a JSON value are such that the engine has a form of it. -/
def IsPortable (j : Json) : Prop := ∀ d n, j.Node d n → n.IsPortableHere

/-- All nodes of a JSON value are at most so deep. -/
def HasDepth (j : Json) (depth : Nat) : Prop := ∀ d n, j.Node d n → d ≤ depth

/-- Arrays keep their items in order, and so their length. -/
theorem canonical_array (items : List Json) :
    (Json.array items).canonical = .array (items.map canonical) := mapNumbers_array items

/-- Objects keep the names of their fields. -/
theorem canonical_object (fields : List (String × Json)) :
    (Json.object fields).canonical = .object (fields.map fun p => (p.1, p.2.canonical)) :=
  mapNumbers_object fields

theorem IsPortable.here (h : j.IsPortable) : j.IsPortableHere := h 0 j (.root j)

theorem IsPortable.node (h : j.IsPortable) (hn : j.Node d n) : n.IsPortable :=
  fun _ _ hm => h _ _ (hn.trans hm)

theorem IsPortable.item (h : (Json.array items).IsPortable) (hj : j ∈ items) : j.IsPortable :=
  h.node (.item hj (.root j))

theorem IsPortable.field {p : String × Json} (h : (Json.object fields).IsPortable)
    (hp : p ∈ fields) : p.2.IsPortable := h.node (.field hp (.root p.2))

theorem IsPortable.of_parts (hhere : j.IsPortableHere)
    (hitems : ∀ items, j = .array items → ∀ i ∈ items, i.IsPortable)
    (hfields : ∀ fields, j = .object fields → ∀ f ∈ fields, f.2.IsPortable) : j.IsPortable := by
  intro d n hn
  cases hn with
  | root => exact hhere
  | item hi hn => exact hitems _ rfl _ hi _ _ hn
  | field hf hn => exact hfields _ rfl _ hf _ _ hn

theorem HasDepth.of_parts {depth : Nat}
    (hitems : ∀ items, j = .array items → ∀ i ∈ items, i.HasDepth depth)
    (hfields : ∀ fields, j = .object fields → ∀ f ∈ fields, f.2.HasDepth depth) :
    j.HasDepth (depth + 1) := by
  intro d n hn
  cases hn with
  | root => exact Nat.zero_le _
  | item hi hn => exact Nat.succ_le_succ (hitems _ rfl _ hi _ _ hn)
  | field hf hn => exact Nat.succ_le_succ (hfields _ rfl _ hf _ _ hn)

/-- **The canonical form is its own.** -/
theorem canonical_canonical (h : j.IsPortable) : j.canonical.canonical = j.canonical := by
  rw [canonical, mapNumbers_mapNumbers]
  exact mapNumbers_congr fun d m hm => JsonNumber.canonical_canonical (h d _ hm)

theorem IsPortableHere.canonical (h : j.IsPortableHere) : j.canonical.IsPortableHere := by
  cases j with
  | number n => exact JsonNumber.IsHeld.canonical h
  | object fields =>
    rw [canonical_object]
    refine ⟨List.pairwise_map.2 h.sorted, fun p hp => ?_, fun p hp => ?_⟩
    all_goals obtain ⟨q, hq, rfl⟩ := List.mem_map.1 hp
    · exact h.without_nul q hq
    · exact h.ordinary q hq
  | _ => trivial

theorem IsPortable.canonical (h : j.IsPortable) : j.canonical.IsPortable := by
  intro d n hn
  obtain ⟨m, hm, rfl⟩ := hn.of_mapNumbers
  exact (h d m hm).canonical

theorem HasDepth.canonical {depth : Nat} (h : j.HasDepth depth) : j.canonical.HasDepth depth := by
  intro d n hn
  obtain ⟨m, hm, -⟩ := hn.of_mapNumbers
  exact h d m hm

/-! ### Objects -/

theorem insertField_perm {key : String} {value : Json} (h : ∀ p ∈ fields, p.1 ≠ key) :
    (insertField key value fields).Perm ((key, value) :: fields) := by
  induction fields with
  | nil => exact .refl _
  | cons p rest ih =>
    obtain ⟨hp, hrest⟩ := List.forall_mem_cons.1 h
    rw [insertField]
    split_ifs with hlt heq
    · exact .refl _
    · exact absurd heq.symm hp
    · exact ((ih hrest).cons p).trans (.swap _ _ _)

theorem sorted_insertField {key : String} {value : Json} (hne : ∀ p ∈ fields, p.1 ≠ key)
    (h : fields.Pairwise fun f g => f.1 < g.1) :
    (insertField key value fields).Pairwise fun f g => f.1 < g.1 := by
  induction fields with
  | nil => exact List.pairwise_singleton _ _
  | cons p rest ih =>
    obtain ⟨hp, hrest⟩ := List.pairwise_cons.1 h
    obtain ⟨hpne, hrestne⟩ := List.forall_mem_cons.1 hne
    rw [insertField]
    split_ifs with hlt heq
    · refine List.pairwise_cons.2 ⟨fun q hq => ?_, h⟩
      obtain rfl | hq := List.mem_cons.1 hq
      · exact hlt
      · exact hlt.trans (hp q hq)
    · exact absurd heq.symm hpne
    · refine List.pairwise_cons.2 ⟨fun q hq => ?_, ih hrestne hrest⟩
      obtain rfl | hq := List.mem_cons.1 ((insertField_perm hrestne).mem_iff.1 hq)
      · exact lt_of_le_of_ne (not_lt.1 hlt) hpne
      · exact hp q hq

/-- Fields that are put in one after the other are all there, and in order. -/
theorem foldl_insertField {l acc : List (String × Json)} (hnodup : ((l ++ acc).map (·.1)).Nodup)
    (hacc : acc.Pairwise fun f g => f.1 < g.1) :
    (l.foldl (fun acc f => insertField f.1 f.2 acc) acc).Perm (l ++ acc) ∧
      (l.foldl (fun acc f => insertField f.1 f.2 acc) acc).Pairwise fun f g => f.1 < g.1 := by
  induction l generalizing acc with
  | nil => exact ⟨.refl _, hacc⟩
  | cons p rest ih =>
    have hnew : p.1 ∉ (rest ++ acc).map (·.1) := (List.nodup_cons.1 hnodup).1
    have hne : ∀ q ∈ acc, q.1 ≠ p.1 := fun q hq heq =>
      hnew (heq ▸ List.mem_map_of_mem (List.mem_append_right rest hq))
    have hperm : (rest ++ insertField p.1 p.2 acc).Perm (p :: rest ++ acc) :=
      ((insertField_perm hne).append_left rest).trans List.perm_middle
    obtain ⟨hall, hsorted⟩ :=
      ih (((hperm.map (·.1)).nodup_iff).2 hnodup) (sorted_insertField hne hacc)
    exact ⟨hall.trans hperm, hsorted⟩

/-- **An object forgets the order of its fields**, if no two have one name. -/
theorem ofFields_of_perm {l : List (String × Json)} (hperm : l.Perm fields)
    (hsorted : fields.Pairwise fun f g => f.1 < g.1) : ofFields l = .object fields := by
  have hnodup : (fields.map (·.1)).Nodup := List.pairwise_map.2 (hsorted.imp LT.lt.ne)
  have hnodup' : ((l ++ ([] : List (String × Json))).map (·.1)).Nodup := by
    rw [List.append_nil]
    exact ((hperm.map (·.1)).nodup_iff).2 hnodup
  obtain ⟨hall, hinserted⟩ := foldl_insertField hnodup' .nil
  rw [List.append_nil] at hall
  exact congrArg Json.object ((hall.trans hperm).eq_of_pairwise
    (fun p q _ _ hpq hqp => absurd (hpq.trans hqp) (lt_irrefl _)) hinserted hsorted)

end Json

end ScriptBridge
