import ScriptBridge.Proofs.Bridge.Run
import ScriptBridge.Proofs.Handle.Refinement

/-!
# The handles of a bridge

Operations insert values into the table of handles and release handles, and do nothing else to it.
So its slots stay in order as long as there is an index for each (`Bridge.Handled`), and a new
handle names its value (`BridgeM.ends_keep`).
-/

namespace ScriptBridge

open Script

namespace Bridge

variable {b b' : Bridge}

/-- The slots are in order, if there is an index for each. -/
def Handled (b : Bridge) : Prop := b.handles.slots.size ≤ 2 ^ 32 → b.handles.WellFormed

/-- The handle names the value, if there is an index for each slot. -/
def Names (b : Bridge) (h : Handle) (v : Value) : Prop :=
  b.handles.slots.size ≤ 2 ^ 32 → b.handles.get h = .ok v

/-- Handles stay in order. -/
def KeepsHandles (b b' : Bridge) : Prop :=
  b.handles.slots.size ≤ b'.handles.slots.size ∧ (b.Handled → b'.Handled)

instance : IsPreorder Bridge KeepsHandles where
  refl _ := ⟨Nat.le_refl _, id⟩
  trans _ _ _ h h' := ⟨Nat.le_trans h.1 h'.1, fun hb => h'.2 (h.2 hb)⟩

theorem keepsHandles_of_eq (h : b'.handles = b.handles) : KeepsHandles b b' := by
  rw [KeepsHandles, Handled, Handled, h]
  exact ⟨Nat.le_refl _, id⟩

theorem keepsHandles_insert (b : Bridge) (v : Value) :
    KeepsHandles b { b with handles := (b.handles.insert v).2 } := by
  have hsize := b.handles.size_slots_le_step (.insert v)
  exact ⟨hsize, fun hb hsize' => (hb (Nat.le_trans hsize hsize')).insert hsize'⟩

theorem keepsHandles_release {h : Handle} {t : HandleTable Value}
    (ht : b.handles.release? h = some t) : KeepsHandles b { b with handles := t } := by
  have hsize := (HandleTable.release?_eq_some ht).2.2.1
  exact ⟨Nat.le_of_eq hsize.symm, fun hb hsize' => (hb (hsize ▸ hsize')).release? ht⟩

theorem engineFrame_handles : BridgeM.EngineFrame KeepsHandles where
  world _ _ := keepsHandles_of_eq rfl
  suspended _ _ := keepsHandles_of_eq rfl
  halt _ _ _ := keepsHandles_of_eq rfl
  insert b v := keepsHandles_insert b v
  released _ _ _ h := keepsHandles_release h
  functions _ _ := keepsHandles_of_eq rfl
  descriptors _ _ := keepsHandles_of_eq rfl
  output _ _ := keepsHandles_of_eq rfl
  stdout _ _ := keepsHandles_of_eq rfl
  failures _ _ := keepsHandles_of_eq rfl
  issue _ _ _ := keepsHandles_of_eq rfl
  table _ _ := keepsHandles_of_eq rfl

theorem frame_handles : BridgeM.Frame KeepsHandles :=
  engineFrame_handles.frame

/-- Every operation keeps the handles in order. -/
theorem Operation.keepsHandles (op : Operation) : Keeps KeepsHandles op.program := by
  refine op.keeps frame_handles (fun h => ?_) fun h => ?_
  · exact op.keeps_of_handlesCalls frame_handles.toCoreFrame h (fun _ _ => keepsHandles_of_eq rfl)
      fun _ _ _ => keepsHandles_of_eq rfl
  · exact op.keeps_of_handlesModules frame_handles.toCoreFrame h (fun _ _ => keepsHandles_of_eq rfl)
      (fun _ _ => keepsHandles_of_eq rfl) fun _ _ => keepsHandles_of_eq rfl

/-- Throughout every run, the handles are in order. -/
theorem Run.handled {c : BridgeConfig} {events : List Event} (run : Run c events b) :
    b.Handled := by
  induction run with
  | create h =>
    obtain ⟨tag, ns, rfl⟩ := setUp_eq_ok h
    exact fun _ => HandleTable.WellFormed.empty tag
  | step run op ih => exact (op.keepsHandles _).2 ih

end Bridge

/-- A new handle names its value. -/
theorem BridgeM.ends_keep {b : Bridge} (hb : b.Handled) (v : Value) :
    Ends (keep v) b fun r b' => ∀ h, r = .ok h → b'.Names h v := by
  rintro h heq hsize
  obtain rfl : (b.handles.insert v).1 = h := Except.ok.inj heq
  have hsize₀ := b.handles.size_slots_le_step (.insert v)
  have hroom : b.handles.HasRoom := HandleTable.hasRoom_of_insert (v := v) hsize
  have hget := (hb (Nat.le_trans hsize₀ hsize)).listed.get?_insert (v := v) hroom
    (b.handles.insert v).1
  change HandleTable.get (b.handles.insert v).2 _ = _
  rw [HandleTable.get, hget, if_pos rfl]

end ScriptBridge
