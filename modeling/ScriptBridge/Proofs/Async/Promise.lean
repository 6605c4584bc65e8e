import Mathlib.Data.List.Nodup
import ScriptBridge.Proofs.Async.Lifecycle
import ScriptBridge.Proofs.Bridge.Evolution
import ScriptBridge.Proofs.Script.Realm

/-!
# The promises of pending calls

The promise of an async call has no settler, so scripts cannot settle it: it is held until the host
ends the call.  `Bridge.Sound` says so of all pending calls of a bridge, and that their promises are
different.

* `Operation.advances` : every operation but ending a call keeps a bridge sound, and keeps its
  pending calls with their promises (`Bridge.Carries`).
* `ends_completeCall_promise` : an attempt to end a call **settles the promise of that call and no
  other**, or leaves all of them alone.
-/

namespace ScriptBridge

open Script

namespace Bridge

/-! ### The promises of pending calls are held -/

/-- The promises of pending calls are different, and nothing in the heap can settle them. -/
structure Sound (b : Bridge) : Prop where
  tame : b.suspended.IsTame
  placed : b.world.Placed
  held : ∀ c ∈ b.ledger.pending, b.world.Holds c.2
  distinct : (b.ledger.pending.map (·.2)).Nodup

/-- Pending calls are still pending, the heap retains its promises, and the promises of new calls
are new. -/
structure Carries (b b' : Bridge) : Prop where
  world : b.world.Retains b'.world
  pending : ∀ c ∈ b.ledger.pending, c ∈ b'.ledger.pending
  fresh : ∀ c ∈ b'.ledger.pending, c ∈ b.ledger.pending ∨ b.world.objects.size ≤ c.2

/-- From a sound bridge it leads to one that carries on with it. -/
def Advances (b b' : Bridge) : Prop := b.Sound → b'.Sound ∧ Carries b b'

theorem Carries.refl (b : Bridge) : Carries b b := ⟨.refl _, fun _ => id, fun _ => .inl⟩

theorem Carries.trans {b₁ b₂ b₃ : Bridge} (h : Carries b₁ b₂) (h' : Carries b₂ b₃) :
    Carries b₁ b₃ where
  world := h.world.trans h'.world
  pending c hc := h'.pending c (h.pending c hc)
  fresh c hc := by
    obtain hc | hc := h'.fresh c hc
    · exact h.fresh c hc
    · exact .inr (Nat.le_trans h.world.grows hc)

instance : IsPreorder Bridge Advances where
  refl b hb := ⟨hb, .refl b⟩
  trans _ _ _ h h' hb := by
    obtain ⟨hb₁, h₁⟩ := h hb
    obtain ⟨hb₂, h₂⟩ := h' hb₁
    exact ⟨hb₂, h₁.trans h₂⟩

variable {b b' : Bridge}

/-- No call was started. -/
theorem advances_of_retains (hworld : b.world.Retains b'.world)
    (hpending : b'.ledger.pending = b.ledger.pending)
    (htame : b.suspended.IsTame → b'.suspended.IsTame) : Advances b b' := by
  intro hb
  refine ⟨⟨htame hb.tame, hworld.placed hb.placed, ?_, ?_⟩, ⟨hworld, ?_, ?_⟩⟩
  · rw [hpending]
    exact fun c hc => hworld.held _ (hb.held c hc)
  · rw [hpending]
    exact hb.distinct
  · rw [hpending]
    exact fun _ => id
  · rw [hpending]
    exact fun _ => .inl

theorem advances_of_eq (hworld : b'.world = b.world)
    (hpending : b'.ledger.pending = b.ledger.pending) (hsuspended : b'.suspended = b.suspended) :
    Advances b b' :=
  advances_of_retains (by rw [hworld]; exact .refl _) hpending (by rw [hsuspended]; exact id)

/-- A new call gets a promise that nothing else has seen. -/
theorem advances_issue (b : Bridge) (payload : Json) :
    Advances b { b with
      world := b.world.push (World.pendingPromise Intrinsic.promiseProto)
      ledger := b.ledger.issue b.world.objects.size payload } := by
  intro hb
  have hworld : b.world.Retains (b.world.push (World.pendingPromise Intrinsic.promiseProto)) :=
    ((World.Evolves.refl _).push (World.pendingPromise _) fun _ _ hk => nomatch hk).toRetains
  have hpending := (b.ledger.issue_spec b.world.objects.size payload).2.1
  refine ⟨⟨hb.tame, hworld.placed hb.placed, ?_, ?_⟩, ⟨hworld, ?_, ?_⟩⟩
  all_goals simp only [hpending]
  · intro c hc
    obtain hc | hc := List.mem_append.1 hc
    · exact hworld.held _ (hb.held c hc)
    · rw [List.mem_singleton.1 hc]
      exact World.holds_push hb.placed _
  · rw [List.map_append, List.nodup_append]
    refine ⟨hb.distinct, by simp, ?_⟩
    rintro p hp q hq rfl
    obtain ⟨c, hc, hp⟩ := List.mem_map.1 hp
    have hlt := (hb.held c hc).lt
    rw [hp, List.mem_singleton.1 hq] at hlt
    exact Nat.lt_irrefl _ hlt
  · exact fun c hc => List.mem_append_left _ hc
  · intro c hc
    obtain hc | hc := List.mem_append.1 hc
    · exact .inl hc
    · rw [List.mem_singleton.1 hc]
      exact .inr (Nat.le_refl _)

/-! ### Runs of the engine -/

theorem advances_serve (b : Bridge) (w : World) (h : HostCall) :
    Advances { b with world := w }
      { (b.serve w h).2.2 with world := (b.serve w h).2.1 } := by
  cases h with
  | print line =>
    rw [serve, printLine]
    split
    all_goals exact advances_of_eq rfl rfl rfl
  | startAsync payload => exact advances_issue { b with world := w } payload
  | call id args =>
    rw [serve]
    split
    all_goals exact advances_of_eq rfl rfl rfl
  | modules c => exact advances_of_eq rfl rfl rfl

theorem evolving_advances : Evolving Advances where
  of_tame h hb := h hb.tame hb
  evolve _ _ _ hworld htame := advances_of_retains hworld.toRetains rfl htame
  serve := advances_serve
  halt _ _ := advances_of_eq rfl rfl rfl

/-- **A run of the engine settles no promise of a pending call.** -/
theorem frame_advances : BridgeM.Frame Advances where
  perform := evolving_advances.perform
  jobs _ _ := advances_of_retains (.of_objects rfl) rfl id
  halt _ _ _ := advances_of_eq rfl rfl rfl
  insert _ _ := advances_of_eq rfl rfl rfl
  released _ _ _ _ := advances_of_eq rfl rfl rfl
  functions _ _ := advances_of_eq rfl rfl rfl
  descriptors _ _ := advances_of_eq rfl rfl rfl
  output _ _ := advances_of_eq rfl rfl rfl
  stdout _ _ := advances_of_eq rfl rfl rfl
  failures _ _ := advances_of_eq rfl rfl rfl

/-- Every operation but ending a call carries on with all pending calls. -/
theorem Operation.advances (op : Operation) (hop : ∀ id o, op ≠ .completeCall id o) :
    Keeps Advances op.program := by
  refine op.keeps frame_advances (fun hcalls => ?_) fun hmodules =>
    op.keeps_of_handlesModules frame_advances.toCoreFrame hmodules
      (fun _ _ => advances_of_eq rfl rfl rfl)
      (fun _ _ => advances_of_eq rfl rfl rfl) fun _ _ => advances_of_eq rfl rfl rfl
  cases op with
  | setDispatcher on =>
    refine Keeps.map (Keeps.modifyGet fun b => advances_of_eq rfl ?_ rfl)
    cases on <;> rfl
  | takeRequests => exact Keeps.map (Keeps.modifyGet fun b => advances_of_eq rfl rfl rfl)
  | takeDispatched => exact Keeps.map (Keeps.modifyGet fun b => advances_of_eq rfl rfl rfl)
  | completeCall id o => exact absurd rfl (hop id o)
  | _ => cases hcalls

/-! ### Taking a call out, and putting it back -/

section take

variable {id : Nat} {p : Ref} {l : Ledger Ref}

/-- A call that is taken out was pending. -/
theorem mem_pending_of_take (ht : b.ledger.take id = .ok (p, l)) :
    (id, p) ∈ b.ledger.pending ∧ l.pending = b.ledger.pending.filter fun c => c.1 ≠ id := by
  unfold Ledger.take at ht
  split at ht
  · rename_i hl
    cases ht
    obtain ⟨l₁, l₂, hl, -⟩ := List.lookup_eq_some_iff.1 hl
    rw [hl]
    exact ⟨List.mem_append_right _ List.mem_cons_self, rfl⟩
  · cases ht

theorem perm_insertCall (id : Nat) (p : Ref) (calls : List (Nat × Ref)) :
    (Ledger.insertCall id p calls).Perm ((id, p) :: calls) := by
  induction calls with
  | nil => exact .refl _
  | cons c rest ih =>
    rw [Ledger.insertCall]
    split
    · exact .refl _
    · exact (ih.cons c).trans (.swap _ _ _)

/-- The promise of a call that was taken out: it is still held, and no pending call has it. -/
structure Detached (b : Bridge) (p : Ref) : Prop where
  sound : b.Sound
  held : b.world.Holds p
  own : ∀ c ∈ b.ledger.pending, p ≠ c.2

theorem Sound.take (hb : b.Sound) (ht : b.ledger.take id = .ok (p, l)) :
    { b with ledger := l }.Detached p := by
  obtain ⟨hmem, hl⟩ := mem_pending_of_take ht
  refine ⟨⟨hb.tame, hb.placed, fun c hc => hb.held c ?_, ?_⟩, hb.held _ hmem, ?_⟩
  · simp only [hl, List.mem_filter] at hc
    exact hc.1
  · simp only [hl]
    exact hb.distinct.sublist (List.filter_sublist.map _)
  · rintro c hc rfl
    simp only [hl, List.mem_filter] at hc
    have heq : c = (id, c.2) := List.inj_on_of_nodup_map hb.distinct hc.1 hmem rfl
    have hne : c.1 ≠ id := by simpa using hc.2
    exact hne (congrArg Prod.fst heq)

/-- New calls have other promises. -/
theorem Detached.advance (h : b.Detached p) (hb : Advances b b') :
    b'.Detached p ∧ Carries b b' := by
  obtain ⟨hsound, hcarries⟩ := hb h.sound
  refine ⟨⟨hsound, hcarries.world.held p h.held, fun c hc => ?_⟩, hcarries⟩
  obtain hc | hc := hcarries.fresh c hc
  · exact h.own c hc
  · exact Nat.ne_of_lt (Nat.lt_of_lt_of_le h.held.lt hc)

/-- Settling it leaves the promises of pending calls alone. -/
theorem Detached.conclude (h : b.Detached p) (v : Verdict) :
    { b with world := b.world.conclude p v }.Sound where
  tame := h.sound.tame
  placed := World.placed_conclude h.held v h.sound.placed
  held c hc := World.holds_conclude h.held v (h.sound.held c hc) (h.own c hc)
  distinct := h.sound.distinct

/-- A call that did not end is pending again, with its promise. -/
theorem Detached.putBack (h : b.Detached p) :
    { b with ledger := b.ledger.putBack id p }.Sound := by
  have hperm := perm_insertCall id p b.ledger.pending
  refine ⟨h.sound.tame, h.sound.placed, fun c hc => ?_, ?_⟩
  · obtain rfl | hc := List.mem_cons.1 (hperm.mem_iff.1 hc)
    · exact h.held
    · exact h.sound.held c hc
  · refine (hperm.map (·.2)).nodup_iff.2 (List.nodup_cons.2 ⟨fun hmem => ?_, h.sound.distinct⟩)
    obtain ⟨c, hc, hcp⟩ := List.mem_map.1 hmem
    exact h.own c hc hcp.symm

/-- All calls that were pending before it was taken out are pending after it was put back. -/
theorem carries_putBack (hids : b.ledger.pendingIds.Nodup) (ht : b.ledger.take id = .ok (p, l))
    (h : Carries { b with ledger := l } b') :
    Carries b { b' with ledger := b'.ledger.putBack id p } := by
  obtain ⟨hmem, hl⟩ := mem_pending_of_take ht
  have hperm := perm_insertCall id p b'.ledger.pending
  refine ⟨h.world, fun c hc => hperm.mem_iff.2 ?_, fun c hc => ?_⟩
  · by_cases hid : c.1 = id
    · have heq : c = (id, p) := List.inj_on_of_nodup_map hids hc hmem hid
      exact heq ▸ List.mem_cons_self
    · refine List.mem_cons_of_mem _ (h.pending c ?_)
      rw [hl, List.mem_filter]
      exact ⟨hc, by simpa using hid⟩
  · obtain rfl | hc := List.mem_cons.1 (hperm.mem_iff.1 hc)
    · exact .inl hmem
    · refine (h.fresh c hc).imp_left fun hc => ?_
      rw [hl] at hc
      exact (List.mem_filter.1 hc).1

end take

/-! ### Ending one call -/

/-- The promise of a call that was taken out was settled by the verdict on a result. -/
structure SettledBy (b : Bridge) (p : Ref) (result : Except String Value) (v : Verdict)
    (b₁ b₂ : Bridge) : Prop where
  reached : exec (BridgeM.evaluate (BridgeM.verdict p result)) b = (.ok v, b₁)
  carries : Carries b b₁
  detached : b₁.Detached p
  settles : b₂ = { b₁ with world := b₁.world.conclude p v }

/-- A promise is settled once the verdict is there, and left alone where that fails. -/
theorem ends_settleCall {p : Ref} (result : Except String Value) (h : b.Detached p) :
    Ends (BridgeM.settleCall p result) b fun r b' =>
      (r = .ok () ∧ ∃ v b₁, SettledBy b p result v b₁ b') ∨
        ∃ e, r = .error e ∧ b'.Detached p ∧ Carries b b' := by
  have hverdict : Ends (BridgeM.evaluate (BridgeM.verdict p result)) b fun r b' =>
      exec (BridgeM.evaluate (BridgeM.verdict p result)) b = (r, b') ∧ b'.Detached p ∧
        Carries b b' :=
    ⟨rfl, h.advance (frame_advances.evaluate _ b)⟩
  refine hverdict.bind (fun v b₁ hv => ?_) fun e b₁ hv => .inr ⟨e, rfl, hv.2⟩
  exact .inl ⟨rfl, v, b₁, hv.1, hv.2.2, hv.2.1, rfl⟩

/-- What ending a call comes to, and what that leaves: nothing is settled, or the promise of the
call is settled by the verdict on the result, and then the jobs run. -/
theorem ends_completeCall_promise (id : Nat) (o : CallOutcome) {b₁ : Bridge}
    (hmade : b.afterOutcome o = b₁) (hb₁ : b₁.Sound) (hids : b₁.ledger.pendingIds.Nodup) :
    Ends (BridgeM.completeCall id o) b fun r b' =>
      (b'.Sound ∧ Carries b₁ b' ∧ ∀ e, r = .ok e → b₁.ledger.take id = .error e) ∨
      ∃ result p l v b₂ b₃, (exec (BridgeM.outcomeValue o) b).1 = .ok result ∧
        b₁.ledger.take id = .ok (p, l) ∧ SettledBy { b₁ with ledger := l } p result v b₂ b₃ ∧
        r = .ok (BridgeM.endOf result) ∧ Advances b₃ b' := by
  have hmade' : Ends (BridgeM.outcomeValue o) b fun r b' =>
      r = (exec (BridgeM.outcomeValue o) b).1 ∧ b' = b₁ := ⟨rfl, hmade⟩
  refine hmade'.bind ?_ fun e _ h => .inl ⟨h.2 ▸ hb₁, h.2 ▸ .refl _, nofun⟩
  rintro result b₁ ⟨hresult, rfl⟩
  refine .get_bind ?_
  cases ht : b₁.ledger.take id with
  | error e =>
    refine .pure (.inl ⟨hb₁, .refl _, ?_⟩)
    rintro _ ⟨⟩
    rfl
  | ok taken =>
    obtain ⟨p, l⟩ := taken
    refine .modify_bind ?_
    -- the promise is settled, or that fails, and then its call is put back
    refine Ends.bind (P := fun r b' =>
      (r = .ok () ∧ ∃ v b₂, SettledBy { b₁ with ledger := l } p result v b₂ b') ∨
        ∃ e, r = .error e ∧ b'.Sound ∧ Carries b₁ b') ?_ ?_ ?_
    · refine (ends_settleCall result (hb₁.take ht)).tryCatch (fun _ b' h => ?_) fun e b' h => ?_
      · obtain h | ⟨e, ⟨⟩, -⟩ := h
        exact .inl h
      · obtain ⟨⟨⟩, -⟩ | ⟨-, -, hdetached, hcarries⟩ := h
        exact .modify_bind (.throw (.inr ⟨e, rfl, hdetached.putBack,
          carries_putBack hids ht hcarries⟩))
    · rintro _ b₃ (⟨-, v, b₂, hsettled⟩ | ⟨e, ⟨⟩, -⟩)
      have hdrain : Ends (discard BridgeM.drain) b₃ fun r b' =>
          (∃ a, r = .ok a) ∧ Advances b₃ b' :=
        ⟨BridgeM.succeeds_drain.discard b₃, frame_advances.drain.discard b₃⟩
      refine hdrain.bind (fun _ b' hb' => .pure (.inr ?_)) ?_
      · exact ⟨result, p, l, v, b₂, b₃, hresult.symm, rfl, hsettled, rfl, hb'.2⟩
      · rintro e _ ⟨⟨_, ⟨⟩⟩, -⟩
    · rintro e b' (⟨⟨⟩, -⟩ | ⟨e', ⟨⟩, hsound, hcarries⟩)
      exact .inl ⟨hsound, hcarries, nofun⟩

/-! ### New bridges -/

theorem sound_blank (c : BridgeConfig) : (blank c).Sound := by
  have hworld : (blank c).world = Realm.world := by simp only [blank]
  refine ⟨List.forall_mem_nil _, ?_, List.forall_mem_nil _, List.nodup_nil⟩
  rw [hworld]
  exact Realm.placed_world

theorem Sound.setUp (h : b.Sound) {tags tags' : TagSource} (hb : b.setUp tags = .ok (b', tags')) :
    b'.Sound := by
  obtain ⟨tag, ns, rfl⟩ := setUp_eq_ok hb
  have hset := (frame_advances.require (installGlobals b.config) b h).1
  exact ⟨hset.tame, hset.placed, hset.held, hset.distinct⟩

end Bridge

end ScriptBridge
