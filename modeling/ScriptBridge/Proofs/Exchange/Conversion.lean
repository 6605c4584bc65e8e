import ScriptBridge.Proofs.Bridge.SetUp
import ScriptBridge.Proofs.Exchange.Outgoing

/-!
# Converting values to JSON

A value is converted to JSON if it is not nested too deeply, and nothing else stops the conversion
of plain data: neither shared parts nor, on the way to them, cycles.

* `World.Unfolds.congr` : only the names of the properties that are reached count.
* `Bridge.converts_plain_data` : plain data is **converted exactly if no chain has more than 128
  steps**, to the graph unfolded; otherwise there is a range error.  A name is cut at its first NUL.
-/

namespace ScriptBridge

namespace Script

/-! ### Names -/

/-- Of all that is reached from the value, no name of a property has a NUL. -/
def World.NamedWithoutNul (w : World) (v : Value) : Prop :=
  ∀ n r, w.Chain n v (.object r) → ∀ k ∈ w.partKeys r, ∀ t, k.text? = some t → '\x00' ∉ t.toList

/-- Names that are made the same way where they are reached. -/
theorem World.Unfolds.congr {w : World} {name name' : String → String} {v : Value} {j : Json}
    (h : w.Unfolds name v j) (hname : ∀ n r, w.Chain n v (.object r) → ∀ k ∈ w.partKeys r, ∀ t,
      k.text? = some t → name t = name' t) : w.Unfolds name' v j := by
  induction h with
  | undefined => exact .undefined
  | null => exact .null
  | symbol id => exact .symbol id
  | bigint n => exact .bigint n
  | function hr => exact .function hr
  | bool b => exact .bool b
  | int n => exact .int n
  | float x => exact .float x
  | string ht => exact .string ht
  | @array r n _ _ _ hr hread _ ih =>
    refine .array hr hread fun i hi => ih i hi fun m q hchain => ?_
    have hk : Key.index i ∈ w.partKeys r :=
      World.partKeys_of_array hr ▸ List.mem_map_of_mem (List.mem_range.2 hi)
    exact hname (m + 1) q (.step hk (hread i hi) hchain)
  | @object r texts values fields hr harray htexts hread _ ih =>
    have hkeys := World.partKeys_of_not_array hr harray
    have hnames : (w.fieldKeys r).map (fun k => (name (texts k), fields k)) =
        (w.fieldKeys r).map fun k => (name' (texts k), fields k) := by
      refine List.map_congr_left fun k hk => ?_
      rw [hname 0 r (.refl _) k (hkeys ▸ hk) _ (htexts k hk)]
    rw [hnames]
    refine .object hr harray htexts hread fun k hk => ih k hk fun m q hchain => ?_
    exact hname (m + 1) q (.step (hkeys ▸ hk) (hread k hk) hchain)

end Script

open Script

namespace BridgeM

variable {α : Type} {b : Bridge} {w : World} {p : Proc α}

theorem exec_outcome_of_done {a : α} (hb : b.isHalted = false) (hp : p b.world = .done a b.world) :
    exec (outcome p) b = (.ok (.ok a), b) := by
  have hlook : (do return .ok (← Proc.attempt p) : Proc (Except BridgeError (Except Value α)))
      b.world = .ofExcept (.ok (.ok (.ok a))) b.world := by
    rw [Proc.run_bind, Proc.run_attempt, hp]
    rfl
  exact exec_perform_ofExcept hb hlook

/-- What throws an error of the engine has made that error. -/
theorem exec_outcome_of_throwNew {type : ErrorType} {message : String} (hb : b.isHalted = false)
    (hp : p b.world = Proc.throwNew type message b.world) :
    exec (outcome p) b = (.ok (.error (.object b.world.objects.size)), { b with
      world :=
        b.world.push (newError (Intrinsic.errorProto type) (cutMessage message) false) }) := by
  have hlook (w : World) : (do return .ok (← Proc.attempt p) : Proc (Except BridgeError _)) w =
      (p w).finish fun r _ => .ok (.ok r) := by
    rw [Proc.run_bind, Proc.run_attempt]
    exact Outcome.bind_finish _ _ fun _ _ => rfl
  rw [outcome, exec_perform_finish hlook, if_neg (Bool.eq_false_iff.1 hb), hp]
  simp only [Bridge.runFor_throwNew, Option.isNone_some, ← hb]
  rfl

end BridgeM

namespace Bridge

variable {b : Bridge} {v : Value}

/-- The JSON form of a value is made, or it is not: what that comes to. -/
def jsonOutcome (b : Bridge) (v : Value) :
    Except BridgeError (Except Value (Except EngineFault Json)) × Bridge :=
  exec (BridgeM.outcome (Exchange.toJson v).run) b

/-- The range error for values that are nested too deeply. -/
def depthError : Object := newError (Intrinsic.errorProto .rangeError) Exchange.tooDeep false

/-- The bridge after the engine has made that error. -/
def withDepthError (b : Bridge) : Bridge := { b with world := b.world.push depthError }

/-- How plain data is converted to JSON. -/
structure ConvertsPlainData (b : Bridge) (v : Value) : Prop where
  /-- It is converted exactly if no chain has more than 128 steps. -/
  converted_iff : (∃ j b', b.jsonOutcome v = (.ok (.ok (.ok j)), b')) ↔
    ∀ n u, b.world.Chain n v u → n ≤ 128
  /-- Then the bridge is as it was, and the JSON value is the graph, unfolded.  Names end at their
  first NUL. -/
  unfolded : ∀ {j b'}, b.jsonOutcome v = (.ok (.ok (.ok j)), b') →
    b' = b ∧ b.world.Unfolds beforeNul v j
  /-- So names without a NUL are what they were. -/
  named : ∀ {j b'}, b.world.NamedWithoutNul v → b.jsonOutcome v = (.ok (.ok (.ok j)), b') →
    b.world.Unfolds id v j
  /-- Otherwise a range error is thrown. -/
  refused : ∀ n u, b.world.Chain n v u → 128 < n →
    b.jsonOutcome v = (.ok (.error (.object b.world.objects.size)), b.withDepthError)
  /-- A cycle is refused, wherever it is reached. -/
  cyclic : ∀ n m u, b.world.Chain n v u → b.world.Chain (m + 1) u u →
    b.jsonOutcome v = (.ok (.error (.object b.world.objects.size)), b.withDepthError)

theorem jsonOutcome_of_within (hb : b.isHalted = false) (hv : b.world.IsPlain v)
    (h : b.world.Within 129 v) :
    ∃ j, b.jsonOutcome v = (.ok (.ok (.ok j)), b) ∧ b.world.Unfolds beforeNul v j := by
  obtain ⟨j, hrun, hj⟩ := (Exchange.converts hv).unfolds h
  exact ⟨j, BridgeM.exec_outcome_of_done hb hrun, hj⟩

theorem jsonOutcome_of_not_within (hb : b.isHalted = false) (hv : b.world.IsPlain v)
    (h : ¬ b.world.Within 129 v) :
    b.jsonOutcome v = (.ok (.error (.object b.world.objects.size)), b.withDepthError) := by
  have hthrow : (Crossing.throwNew .rangeError Exchange.tooDeep : Crossing Json).run b.world =
      Proc.throwNew .rangeError Exchange.tooDeep b.world := Proc.bind_throwNew _ _ _
  have hrun := BridgeM.exec_outcome_of_throwNew hb (((Exchange.converts hv).thrown h).trans hthrow)
  have hshort : cutMessage Exchange.tooDeep = Exchange.tooDeep := by decide
  rw [hshort] at hrun
  exact hrun

/-- **Plain data is converted to JSON exactly if it is not nested too deeply.** -/
theorem converts_plain_data (hb : b.isHalted = false) (hv : b.world.IsPlain v) :
    b.ConvertsPlainData v := by
  have hunfolded {j : Json} {b' : Bridge} (h : b.jsonOutcome v = (.ok (.ok (.ok j)), b')) :
      b' = b ∧ b.world.Within 129 v ∧ b.world.Unfolds beforeNul v j := by
    by_cases hwithin : b.world.Within 129 v
    · obtain ⟨j', hrun, hj⟩ := jsonOutcome_of_within hb hv hwithin
      cases hrun.symm.trans h
      exact ⟨rfl, hwithin, hj⟩
    · cases (jsonOutcome_of_not_within hb hv hwithin).symm.trans h
  have hrefused {n : Nat} {u : Value} (hchain : b.world.Chain n v u) (hn : 128 < n) :
      b.jsonOutcome v = (.ok (.error (.object b.world.objects.size)), b.withDepthError) :=
    jsonOutcome_of_not_within hb hv fun hwithin => Nat.not_lt.2 hn (hwithin n u hchain)
  refine ⟨⟨?_, fun h => ?_⟩, fun h => ⟨(hunfolded h).1, (hunfolded h).2.2⟩, fun hnamed h => ?_,
    fun n u => hrefused, fun n m u hchain hcycle => ?_⟩
  · rintro ⟨j, b', h⟩ n u hchain
    exact Nat.le_of_lt_succ ((hunfolded h).2.1 n u hchain)
  · obtain ⟨j, hrun, -⟩ := jsonOutcome_of_within hb hv fun n u hchain =>
      Nat.lt_succ_of_le (h n u hchain)
    exact ⟨j, b, hrun⟩
  · refine (hunfolded h).2.2.congr fun n r hchain k hk t ht => ?_
    exact beforeNul_of_not_mem (hnamed n r hchain k hk t ht)
  · -- around the cycle often enough
    obtain ⟨l, hl, hloop⟩ := hcycle.loop 129
    exact hrefused (hchain.trans hloop) (by omega)

/-! ### The namespace object of a new bridge -/

/-- The key of the async entry point. -/
def entryKey : Key := .text (Str.ofString "callHostAsync")

theorem keyOf_entry : Exchange.keyOf ({} : BridgeConfig).asyncEntry = entryKey := by decide

theorem ownKeysOf_namespaceOf (e : Ref) : Proc.ownKeysOf (namespaceOf {} e) = [entryKey] := by
  rw [namespaceOf, keyOf_entry]
  rfl

theorem ownIn_namespaceOf (w : World) (e : Ref) :
    Proc.ownIn w (namespaceOf {} e) entryKey = some (.plain (.object e)) := by
  change (namespaceOf {} e).find? _ = _
  rw [Object.find?_of_plain rfl, namespaceOf, keyOf_entry]
  simp

/-- The namespace object is plain data: it has one field, and that is a function. -/
theorem isPlain_namespaceOf {w : World} {ns e : Ref}
    (hns : w.objects[ns]? = some (namespaceOf {} e))
    (he : w.objects[e]? = some (entryObject {})) : w.IsPlain (.object ns) := by
  have hget := World.getD_of_getElem? hns
  have hkeys : ∀ k ∈ Proc.ownKeysOf (w.objects.getD ns default), k = entryKey := by
    rw [hget, ownKeysOf_namespaceOf]
    exact fun k hk => List.mem_singleton.1 hk
  have hparts : ∀ k ∈ w.partKeys ns, k = entryKey := by
    rw [World.partKeys_of_not_array (by rw [hget]; rfl) (by rw [hget]; rfl)]
    exact fun k hk => hkeys k (List.mem_filter.1 hk).1
  have hread : w.read? ns entryKey = some (.object e) :=
    World.read?_of_own (by rw [hget, ownIn_namespaceOf]) rfl
  refine .of_parts (fun _ => ⟨fun k hk => ?_, fun k hk => ?_, fun k hk p hp _ name => ?_⟩) ?_
  · rw [hparts k hk]
    exact ⟨_, hread⟩
  · rw [hparts k hk]
    exact ⟨"callHostAsync", by rw [Key.text?, entryKey, Key.str?, Option.bind_some,
      Str.toString?_ofString]; rfl⟩
  · rw [hkeys k hk, hget, ownIn_namespaceOf] at hp
    cases hp
    simp [Property.plain]
  · rintro r k x hr hk hx
    cases hr
    rw [hparts k hk] at hx
    cases hread.symm.trans hx
    exact World.isPlain_of_callable (by rw [World.getD_of_getElem? he]; rfl)

/-- It holds of the namespace object of a new bridge. -/
theorem converts_plain_data_namespace : ∃ b tags, create {} {} = .ok (b, tags) ∧
    b.isHalted = false ∧ b.world.IsPlain (.object b.namespaceObject) ∧
      b.ConvertsPlainData (.object b.namespaceObject) := by
  obtain ⟨b, tags, h, hhalted, -⟩ := exists_create_idle
  obtain ⟨ns, w, hinstalled, rfl⟩ := create_eq_ok h (by decide) (by decide)
  obtain ⟨e, hns, he⟩ := hinstalled.entry
  have hplain := isPlain_namespaceOf hns he
  exact ⟨_, tags, h, hhalted, hplain, converts_plain_data hhalted hplain⟩

end Bridge

end ScriptBridge
