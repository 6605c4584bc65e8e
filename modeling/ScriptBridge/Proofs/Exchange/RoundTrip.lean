import ScriptBridge.Proofs.Bridge.Handles
import ScriptBridge.Proofs.Exchange.Shown

/-!
# JSON values that go in and come back

A JSON value that is made a value of the engine, and then converted back, comes back in its
canonical form, as long as nobody has changed the prototypes of objects and of arrays.

* `Bridge.HasFirstPrototypes` : these prototypes are as they were made.
* `Bridge.exchanges` : **a JSON value comes back canonical**, and it can be done again.
* `Bridge.json_round_trips` : what comes back the first time comes back the same ever after.
-/

namespace ScriptBridge

open Script

/-- In the first world, objects take what is assigned to them. -/
theorem Script.Realm.receptive_world : world.Receptive :=
  ⟨ordinary_world.inherits, arrayProto_world⟩

namespace Bridge

variable {b b' : Bridge} {j : Json}

/-- Nobody has changed the prototypes of objects and of arrays. -/
structure HasFirstPrototypes (b : Bridge) : Prop where
  object : Realm.world.Keeps b.world Intrinsic.objectProto
  array : Realm.world.Keeps b.world Intrinsic.arrayProto

theorem HasFirstPrototypes.receptive (h : b.HasFirstPrototypes) : b.world.Receptive :=
  Realm.receptive_world.of_keeps h.object h.array

/-- One JSON value goes in, and another one comes back: the host gets a handle, and for that, unless
there are more slots than indices, the other JSON value. -/
def Exchanges (b : Bridge) (j k : Json) (b' : Bridge) : Prop :=
  ∃ h, b.step (.fromJson j) = (.ok (.handle h), b') ∧
    (b'.handles.slots.size ≤ 2 ^ 32 → b'.step (.toJson h) = (.ok (.json k), b'))

/-- Making a value of JSON adds objects and a handle, and the handle names the value. -/
theorem step_fromJson (hb : b.isHalted = false) (hproto : b.HasFirstPrototypes)
    (hj : j.IsPortable) : ∃ v w, (∀ q, b.world.Keeps w q) ∧ w.Shows b.world.objects.size v j ∧
      b.step (.fromJson j) = (.ok (.handle (b.handles.insert v).1),
        { b with world := w, handles := (b.handles.insert v).2 }) := by
  obtain ⟨v, w, hmade, hkeeps, hshows⟩ := Exchange.makes hj b.world hproto.receptive
  refine ⟨v, w, hkeeps, hshows, ?_⟩
  have hrequire := BridgeM.exec_require_of_done hb hmade
  rw [step, Operation.program, exec_map, BridgeM.fromJson, exec_bind, hrequire]
  rfl

/-- The JSON form of a value that shows JSON is canonical. -/
theorem step_toJson {h : Handle} {v : Value} {lo : Nat} (hb : b.isHalted = false)
    (hh : b.handles.get h = .ok v) (hshows : b.world.Shows lo v j) (hj : j.IsPortable)
    (hdepth : j.HasDepth 128) : b.step (.toJson h) = (.ok (.json j.canonical), b) := by
  obtain ⟨k, hrun, hk⟩ := (Exchange.converts (hshows.isPlain hj)).unfolds (hshows.within hj hdepth)
  obtain rfl := hk.eq (hshows.unfolds hj)
  have hevaluate : exec (BridgeM.evaluate (Exchange.toJson v)) b = (.ok j.canonical, b) :=
    BridgeM.exec_evaluate_of_done hb hrun
  rw [step, Operation.program, exec_map, BridgeM.toJson, exec_bind, BridgeM.exec_value hh]
  simp only [hevaluate]
  rfl

/-- **A JSON value comes back canonical**, and the bridge is as good as before. -/
theorem exchanges (hb : b.isHalted = false) (hh : b.Handled) (hproto : b.HasFirstPrototypes)
    (hj : j.IsPortable) (hdepth : j.HasDepth 128) : ∃ b', b.Exchanges j j.canonical b' ∧
      b'.isHalted = false ∧ b'.Handled ∧ b'.HasFirstPrototypes := by
  obtain ⟨v, w, hkeeps, hshows, hstep⟩ := step_fromJson hb hproto hj
  have hhandled := (Operation.keepsHandles (.fromJson j) b).2 hh
  rw [← step, hstep] at hhandled
  have hnames : Names { b with world := w, handles := (b.handles.insert v).2 }
      (b.handles.insert v).1 v := BridgeM.ends_keep (b := { b with world := w }) hh v _ rfl
  refine ⟨_, ⟨_, hstep, fun hsize => ?_⟩, hb, hhandled, ?_⟩
  · exact step_toJson hb (hnames hsize) hshows hj hdepth
  · exact ⟨fun o ho => hkeeps _ o (hproto.object o ho), fun o ho => hkeeps _ o (hproto.array o ho)⟩

/-- A JSON value that goes into the engine and comes back. -/
structure RoundTrips (b : Bridge) (j : Json) : Prop where
  /-- It comes back canonical, and what has come back goes in and comes back as it is. -/
  twice : ∃ b' b'', b.Exchanges j j.canonical b' ∧ b'.Exchanges j.canonical j.canonical b''
  /-- A number that is an integer of thirty-two bits is written as one. -/
  whole : ∀ {d n} {k : Int}, j.Node d (.number n) → -2 ^ 31 ≤ k → k < 2 ^ 31 →
    n.value? = some (k : ℚ) → n.canonical = .int k
  /-- Every other number is the nearest float. -/
  other : ∀ {d n}, j.Node d (.number n) →
    (∀ k : Int, -2 ^ 31 ≤ k → k < 2 ^ 31 → n.value? ≠ some (k : ℚ)) →
    n.canonical = .float n.toFloat
  /-- The canonical form is its own. -/
  fixed : j.canonical.canonical = j.canonical

/-- **JSON values come back** from a bridge where nobody has changed the prototypes of objects and
of arrays: if they are at most 128 deep, and no name has a NUL or is that of the prototype. -/
theorem json_round_trips {c : BridgeConfig} {events : List Event} (run : Run c events b)
    (hb : b.isHalted = false) (hproto : b.HasFirstPrototypes) (hj : j.IsPortable)
    (hdepth : j.HasDepth 128) : b.RoundTrips j := by
  have hfixed := Json.canonical_canonical hj
  obtain ⟨b', hfirst, hb', hhandled', hproto'⟩ := exchanges hb run.handled hproto hj hdepth
  obtain ⟨b'', hsecond, -⟩ := exchanges hb' hhandled' hproto' hj.canonical hdepth.canonical
  -- the second time, what goes in is canonical already
  rw [hfixed] at hsecond
  refine ⟨⟨b', b'', hfirst, hsecond⟩, fun _ hlow hhigh hk => ?_, fun _ hnone => ?_, hfixed⟩
  · exact JsonNumber.canonical_of_value? (Value.fits_iff.2 ⟨hlow, hhigh⟩) hk
  · refine JsonNumber.canonical_of_not_whole fun k hfits => ?_
    obtain ⟨hlow, hhigh⟩ := Value.fits_iff.1 hfits
    exact hnone k hlow hhigh

/-- A length of time that is written as a float, and some tags. -/
def taggedDuration : Json :=
  .object [("duration", .number (.float 500.0)), ("tags", .array [.string "a\x00b", .null])]

theorem isPortable_taggedDuration : taggedDuration.IsPortable := by
  refine .of_parts ⟨by decide, by decide, by decide⟩ nofun fun fields hfields => ?_
  cases hfields
  refine List.forall_mem_cons.2 ⟨.of_parts ?_ nofun nofun, List.forall_mem_singleton.2 ?_⟩
  · change (500.0 : Float).isFinite = true
    decide
  · refine .of_parts trivial (fun items hitems => ?_) nofun
    cases hitems
    exact List.forall_mem_cons.2 ⟨.of_parts trivial nofun nofun,
      List.forall_mem_singleton.2 (.of_parts trivial nofun nofun)⟩

theorem hasDepth_taggedDuration : taggedDuration.HasDepth 128 := by
  refine .of_parts nofun fun fields hfields => ?_
  cases hfields
  refine List.forall_mem_cons.2 ⟨.of_parts nofun nofun, List.forall_mem_singleton.2 ?_⟩
  refine .of_parts (fun items hitems => ?_) nofun
  cases hitems
  exact List.forall_mem_cons.2 ⟨.of_parts nofun nofun,
    List.forall_mem_singleton.2 (.of_parts nofun nofun)⟩

/-- It holds of a new bridge. -/
theorem json_round_trips_duration : ∃ b tags, create {} {} = .ok (b, tags) ∧ Run {} [] b ∧
    b.isHalted = false ∧ b.HasFirstPrototypes ∧ taggedDuration.IsPortable ∧
      taggedDuration.HasDepth 128 ∧ b.RoundTrips taggedDuration := by
  obtain ⟨b, tags, h, hhalted, -⟩ := exists_create_idle
  have hproto : b.HasFirstPrototypes := by
    obtain ⟨ns, w, hinstalled, rfl⟩ := create_eq_ok h (by decide) (by decide)
    rw [world_blank] at hinstalled
    exact ⟨hinstalled.others _ (by decide), hinstalled.others _ (by decide)⟩
  exact ⟨b, tags, h, .create h, hhalted, hproto, isPortable_taggedDuration,
    hasDepth_taggedDuration, json_round_trips (.create h) hhalted hproto isPortable_taggedDuration
      hasDepth_taggedDuration⟩

end Bridge

end ScriptBridge
