import ScriptBridge.Proofs.Script.Failure

/-!
# Values as graphs

A value with all that is reached from it is a graph, and that may have cycles.  The parts of an
array are its items, those of another object are the values of its own enumerable properties that
are named by texts, and functions have no parts.

* `World.Chain w n v u` : `n` steps lead from the value `v` to the value `u`, each to a part.
* `World.IsPlain w v` : all that is reached from `v` is **plain data**: its parts are read without
  running anything, and its texts have no half of a pair that stands alone.
* `World.Unfolds w name v j` : the JSON value `j` is **the graph of `v`, unfolded to a tree**.
* `Unfolds.eq` : there is at most one.
* `Chain.loop` : from a value on a cycle there are chains of any length.
-/

namespace ScriptBridge.Script

open Proc

/-- The text of a key that is no symbol, if no half of a pair stands alone in it. -/
def Key.text? (k : Key) : Option String := k.str?.bind fun s => s.toString?.toOption

/-- Whether an object is an array. -/
def Object.isArray (o : Object) : Bool :=
  match o.kind with
  | .array .. => true
  | _ => false

namespace World

/-! ### Parts -/

/-- The value that is read under a key, if that takes no call: `undefined` if nothing is there. -/
def read? (w : World) (r : Ref) (k : Key) : Option Value :=
  match w.find? r k with
  | none => some .undefined
  | some p =>
    match p.holding with
    | .data v => some v
    | _ => none

/-- The keys of an object's own enumerable properties that are texts. -/
def fieldKeys (w : World) (r : Ref) : List Key :=
  let o := w.objects.getD r default
  (ownKeysOf o).filter fun k => k.str?.isSome && (ownIn w o k).any (·.enumerable)

/-- The keys of the parts of an object. -/
def partKeys (w : World) (r : Ref) : List Key :=
  let o := w.objects.getD r default
  if o.isCallable then []
  else
    match o.kind with
    | .array n _ => (List.range n).map .index
    | _ => w.fieldKeys r

/-- So many steps lead from a value to another one, each to a part. -/
inductive Chain (w : World) : Nat → Value → Value → Prop
  | refl (v : Value) : Chain w 0 v v
  | step {r : Ref} {k : Key} {v u : Value} {n : Nat} (hk : k ∈ w.partKeys r)
    (hv : w.read? r k = some v) (h : Chain w n v u) : Chain w (n + 1) (.object r) u

/-- All chains from the value have fewer steps than that. -/
def Within (w : World) (room : Nat) (v : Value) : Prop := ∀ n u, w.Chain n v u → n < room

/-! ### Plain data -/

/-- The parts of an object are plain data. -/
structure HasPlainParts (w : World) (r : Ref) : Prop where
  /-- They are read without running anything. -/
  read : ∀ k ∈ w.partKeys r, ∃ v, w.read? r k = some v
  /-- Their names are texts. -/
  text : ∀ k ∈ w.partKeys r, ∃ t, k.text? = some t
  /-- None of the properties is a variable that has no value yet. -/
  set : ∀ k ∈ ownKeysOf (w.objects.getD r default), ∀ p,
    ownIn w (w.objects.getD r default) k = some p → p.enumerable = true →
    ∀ name, p.holding ≠ .unset name

/-- The value itself is plain data: a text in it has no half of a pair that stands alone, and its
parts are read without running anything. -/
def IsPlainHere (w : World) : Value → Prop
  | .string s => ∃ t, s.toString? = .ok t
  | .object r => (w.objects.getD r default).isCallable = false → w.HasPlainParts r
  | _ => True

/-- All that is reached from the value is plain data. -/
def IsPlain (w : World) (v : Value) : Prop := ∀ n u, w.Chain n v u → w.IsPlainHere u

/-! ### Unfolding -/

/-- The tree of what is reached from a value: what has no JSON form is null, also floats that are
not finite, and the fields of objects have the names that `name` makes of the names of
properties. -/
inductive Unfolds (w : World) (name : String → String) : Value → Json → Prop
  | undefined : Unfolds w name .undefined .null
  | null : Unfolds w name .null .null
  | symbol (id : Nat) : Unfolds w name (.symbol id) .null
  | bigint (n : Int) : Unfolds w name (.bigint n) .null
  | function {r : Ref} (hr : (w.objects.getD r default).isCallable = true) :
    Unfolds w name (.object r) .null
  | bool (b : Bool) : Unfolds w name (.bool b) (.bool b)
  | int (n : Int32) : Unfolds w name (.int n) (.ofInt n.toInt)
  | float (x : Float) :
    Unfolds w name (.float x) (if x.isFinite then .number (.float x) else .null)
  | string {s : Str} {t : String} (ht : s.toString? = .ok t) :
    Unfolds w name (.string s) (.string t)
  | array {r : Ref} {n : Nat} {fixed : Bool} {values : Nat → Value} {items : Nat → Json}
    (hr : (w.objects.getD r default).kind = .array n fixed)
    (hread : ∀ i < n, w.read? r (.index i) = some (values i))
    (hitems : ∀ i < n, Unfolds w name (values i) (items i)) :
    Unfolds w name (.object r) (.array ((List.range n).map items))
  | object {r : Ref} {texts : Key → String} {values : Key → Value} {fields : Key → Json}
    (hr : (w.objects.getD r default).isCallable = false)
    (harray : (w.objects.getD r default).isArray = false)
    (htexts : ∀ k ∈ w.fieldKeys r, k.text? = some (texts k))
    (hread : ∀ k ∈ w.fieldKeys r, w.read? r k = some (values k))
    (hfields : ∀ k ∈ w.fieldKeys r, Unfolds w name (values k) (fields k)) :
    Unfolds w name (.object r) (.ofFields ((w.fieldKeys r).map fun k => (name (texts k), fields k)))

variable {w : World} {r : Ref} {k : Key} {v u x : Value} {n m room : Nat}

/-! ### Chains -/

namespace Chain

theorem trans (h : w.Chain n v u) (h' : w.Chain m u x) : w.Chain (n + m) v x := by
  induction h with
  | refl => rwa [Nat.zero_add]
  | step hk hv _ ih =>
    rw [Nat.add_right_comm]
    exact .step hk hv (ih h')

/-- **From a value on a cycle there are chains of any length.** -/
theorem loop (h : w.Chain (n + 1) v v) (m : Nat) : ∃ l, m ≤ l ∧ w.Chain l v v := by
  induction m with
  | zero => exact ⟨0, Nat.le_refl 0, .refl v⟩
  | succ m ih =>
    obtain ⟨l, hl, hchain⟩ := ih
    exact ⟨n + 1 + l, by omega, h.trans hchain⟩

end Chain

theorem IsPlain.here (h : w.IsPlain v) : w.IsPlainHere v := h 0 v (.refl v)

/-- What is reached from plain data is plain data. -/
theorem IsPlain.part (h : w.IsPlain (.object r)) (hk : k ∈ w.partKeys r)
    (hv : w.read? r k = some v) : w.IsPlain v := fun _ u hu => h _ u (.step hk hv hu)

/-- A value is plain data if it is so itself, and its parts are. -/
theorem IsPlain.of_parts (hhere : w.IsPlainHere v) (h : ∀ r k x, v = .object r → k ∈ w.partKeys r →
    w.read? r k = some x → w.IsPlain x) : w.IsPlain v := by
  intro n u hchain
  cases hchain with
  | refl => exact hhere
  | step hk hv hrest => exact h _ _ _ rfl hk hv _ u hrest

theorem Within.part (h : w.Within (room + 1) (.object r)) (hk : k ∈ w.partKeys r)
    (hv : w.read? r k = some v) : w.Within room v :=
  fun n u hu => Nat.lt_of_succ_lt_succ (h (n + 1) u (.step hk hv hu))

theorem not_within_zero : ¬ w.Within 0 v := fun h => Nat.not_lt_zero 0 (h 0 v (.refl v))

/-- Chains go on only where there are parts. -/
theorem within_of_no_parts (h : ∀ r, v = .object r → w.partKeys r = []) :
    w.Within (room + 1) v := by
  intro n u hchain
  cases hchain with
  | refl => exact Nat.succ_pos _
  | step hk =>
    rw [h _ rfl] at hk
    cases hk

/-- A chain that is too long leads through one of the parts. -/
theorem exists_part_not_within (h : ¬ w.Within (room + 1) (.object r)) :
    ∃ k ∈ w.partKeys r, ∃ v, w.read? r k = some v ∧ ¬ w.Within room v := by
  refine Classical.byContradiction fun hnone => h fun n u hchain => ?_
  cases hchain with
  | refl => exact Nat.succ_pos _
  | step hk hv hrest =>
    have hwithin : w.Within room _ :=
      Classical.byContradiction fun hnot => hnone ⟨_, hk, _, hv, hnot⟩
    exact Nat.succ_lt_succ (hwithin _ u hrest)

/-! ### Parts of arrays, of functions and of other objects -/

theorem partKeys_of_callable (h : (w.objects.getD r default).isCallable = true) :
    w.partKeys r = [] := if_pos h

/-- Functions are plain data. -/
theorem isPlain_of_callable (h : (w.objects.getD r default).isCallable = true) :
    w.IsPlain (.object r) := by
  refine .of_parts (fun hcall => absurd (h.symm.trans hcall) (by decide)) fun q k x hq hk => ?_
  cases hq
  rw [partKeys_of_callable h] at hk
  cases hk

theorem isCallable_of_array {o : Object} {fixed : Bool} (h : o.kind = .array n fixed) :
    o.isCallable = false := by
  rw [Object.isCallable, h]

theorem read?_of_own {p : Property} (hown : ownIn w (w.objects.getD r default) k = some p)
    (hp : p.holding = .data v) : w.read? r k = some v := by
  have hfind : w.find? r k = some p := by rw [find?, lookupIn, hown, Option.map_some]
  rw [read?, hfind]
  simp only [hp]

theorem partKeys_of_array {fixed : Bool} (h : (w.objects.getD r default).kind = .array n fixed) :
    w.partKeys r = (List.range n).map .index := by
  simp only [partKeys, isCallable_of_array h, h, Bool.false_eq_true, if_false]

theorem partKeys_of_not_array (h : (w.objects.getD r default).isCallable = false)
    (harray : (w.objects.getD r default).isArray = false) : w.partKeys r = w.fieldKeys r := by
  simp only [partKeys, h, Bool.false_eq_true, if_false]
  unfold Object.isArray at harray
  split at harray
  · cases harray
  · rfl

/-! ### There is only one tree -/

/-- **A graph is unfolded to one tree.** -/
theorem Unfolds.eq {name : String → String} {j j' : Json} (h : w.Unfolds name v j)
    (h' : w.Unfolds name v j') : j = j' := by
  -- of functions, arrays and other objects, an object is only one
  have hnot {o : Object} {n : Nat} {fixed : Bool} (hkind : o.kind = .array n fixed) :
      o.isCallable ≠ true ∧ o.isArray ≠ false := by
    simp [Object.isCallable, Object.isArray, hkind]
  induction h generalizing j' with
  | undefined | null | symbol | bigint | bool | int | float =>
    cases h'
    rfl
  | string ht =>
    cases h' with
    | string ht' => rw [Except.ok.inj (ht.symm.trans ht')]
  | function hr =>
    cases h' with
    | function => rfl
    | array hr' => exact absurd hr (hnot hr').1
    | object hr' => exact absurd (hr.symm.trans hr') (by decide)
  | array hr hread _ ih =>
    cases h' with
    | function hr' => exact absurd hr' (hnot hr).1
    | array hr' hread' hitems' =>
      obtain ⟨rfl, -⟩ := ObjectKind.array.inj (hr.symm.trans hr')
      refine congrArg Json.array (List.map_congr_left fun i hi => ?_)
      have hi := List.mem_range.1 hi
      refine ih i hi ?_
      rw [Option.some.inj ((hread i hi).symm.trans (hread' i hi))]
      exact hitems' i hi
    | object _ harray => exact absurd harray (hnot hr).2
  | object hr harray htexts hread _ ih =>
    cases h' with
    | function hr' => exact absurd (hr'.symm.trans hr) (by decide)
    | array hr' => exact absurd harray (hnot hr').2
    | object _ _ htexts' hread' hfields' =>
      refine congrArg Json.ofFields (List.map_congr_left fun k hk => ?_)
      have htext := Option.some.inj ((htexts k hk).symm.trans (htexts' k hk))
      have hvalue := Option.some.inj ((hread k hk).symm.trans (hread' k hk))
      have hfield := ih k hk (hvalue ▸ hfields' k hk)
      rw [htext, hfield]

end World

end ScriptBridge.Script
