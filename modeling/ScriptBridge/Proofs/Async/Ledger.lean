import Mathlib.Order.Defs.Unbundled
import Mathlib.Tactic.ByContra
import Mathlib.Tactic.SplitIfs
import ScriptBridge.Async.Ledger

/-!
# The books of a ledger

A ledger has no list of the calls that were ended: it knows the next number and the calls that are
pending.  `Ledger.Balanced l taken settled` says that this is enough.  Here `taken` are the requests
that the host has taken, and `settled` the calls that it has ended:

* the requests, taken or not, have the numbers below the next one, each once;
* the settled calls are among them, each once;
* the pending calls are **all the others, in order**.

Starting calls (`Balanced.issues`), taking one out to end it (`Balanced.take_eq_ok`), putting it
back (`Balanced.putBack`) and passing requests on keep the books balanced.
-/

namespace ScriptBridge

namespace Ledger

variable {α : Type} {l l' : Ledger α} {taken : List AsyncRequest} {settled : List Nat}

/-- The second ledger comes from the first by calls that were started. -/
inductive Issues : Ledger α → Ledger α → Prop
  | refl (l : Ledger α) : Issues l l
  | issue {l l' : Ledger α} (h : Issues l l') (call : α) (payload : Json) :
    Issues l (l'.issue call payload)

instance : IsPreorder (Ledger α) Issues where
  refl := .refl
  trans l₁ l₂ l₃ h₁ h₂ := by
    induction h₂ with
    | refl => exact h₁
    | issue _ call payload ih => exact ih.issue call payload

/-- The numbers of calls that were started. -/
def numbers (l : Ledger α) : List Nat := List.range' 1 (l.next - 1)

/-- All requests that were made are known by number, and so are the calls that were ended; the
pending calls are the rest. -/
structure Balanced (l : Ledger α) (taken : List AsyncRequest) (settled : List Nat) : Prop where
  next_pos : 1 ≤ l.next
  /-- Each call has made one request. -/
  requested : ((taken ++ l.queue ++ l.dispatched.map (·.toAsyncRequest)).map (·.id)).Perm l.numbers
  /-- Requests wait in the order of their numbers. -/
  queue_sorted : (l.queue.map (·.id)).Pairwise (· < ·)
  dispatched_sorted : (l.dispatched.map (·.id)).Pairwise (· < ·)
  settled_nodup : settled.Nodup
  settled_mem : ∀ id ∈ settled, id ∈ l.numbers
  pending : l.pendingIds = l.numbers.filter (· ∉ settled)

theorem mem_numbers {id : Nat} : id ∈ l.numbers ↔ 0 < id ∧ id < l.next := by
  rw [numbers, List.mem_range'_1]
  omega

theorem Balanced.new : ({} : Ledger α).Balanced [] [] where
  next_pos := Nat.le_refl 1
  requested := .refl _
  queue_sorted := .nil
  dispatched_sorted := .nil
  settled_nodup := .nil
  settled_mem := nofun
  pending := rfl

/-- The numbers of pending calls are different. -/
theorem Balanced.nodup_pendingIds (h : l.Balanced taken settled) : l.pendingIds.Nodup := by
  rw [h.pending]
  exact (List.nodup_range' 1).sublist List.filter_sublist

/-- A number is given to one call. -/
theorem Balanced.lt_next (h : l.Balanced taken settled) {r : AsyncRequest}
    (hr : r ∈ taken ++ l.queue ++ l.dispatched.map (·.toAsyncRequest)) : r.id < l.next := by
  have hmem : r.id ∈ l.numbers := h.requested.mem_iff.1 (List.mem_map_of_mem hr)
  exact (mem_numbers.1 hmem).2

/-! ### Starting calls -/

/-- Starting a call gives it the next number.  Its request goes to the dispatcher, which is still
installed after it, or waits if there is none. -/
theorem issue_spec (l : Ledger α) (call : α) (payload : Json) :
    let l' := l.issue call payload
    l'.next = l.next + 1 ∧ l'.pending = l.pending ++ [(l.next, call)] ∧
      l'.dispatcher = l.dispatcher ∧
      (l.dispatcher = none ∧ l'.queue = l.queue ++ [⟨l.next, payload⟩] ∧
          l'.dispatched = l.dispatched ∨
        ∃ d, l.dispatcher = some d ∧ l'.queue = l.queue ∧
          l'.dispatched = l.dispatched ++ [{ id := l.next, payload, dispatcher := d }]) := by
  cases hd : l.dispatcher with
  | none => simp [issue, register, dispatch, hd]
  | some d => simp [issue, register, dispatch, hd]

/-- What is in the order of numbers stays so when the next number comes behind it. -/
theorem pairwise_concat {β : Type*} {number : β → Nat} {rs : List β} {r : β}
    (h : (rs.map number).Pairwise (· < ·)) (hr : ∀ q ∈ rs, number q < number r) :
    ((rs ++ [r]).map number).Pairwise (· < ·) := by
  rw [List.map_append, List.pairwise_append]
  refine ⟨h, List.pairwise_singleton _ _, ?_⟩
  intro a ha b hb
  obtain ⟨q, hq, rfl⟩ := List.mem_map.1 ha
  obtain rfl := List.mem_singleton.1 hb
  exact hr q hq

theorem Balanced.issue (h : l.Balanced taken settled) (call : α) (payload : Json) :
    (l.issue call payload).Balanced taken settled := by
  obtain ⟨hnext, hpending, -, hwait⟩ := l.issue_spec call payload
  have hpos := h.next_pos
  have hnumbers : (l.issue call payload).numbers = l.numbers ++ [l.next] := by
    rw [numbers, numbers, hnext, show l.next + 1 - 1 = l.next - 1 + 1 by omega, List.range'_concat]
    congr 2
    omega
  have hfresh : l.next ∉ settled := fun hmem => by
    have := (mem_numbers.1 (h.settled_mem _ hmem)).2
    omega
  have hqueue : ∀ q ∈ l.queue, q.id < l.next := fun q hq => h.lt_next (by simp [hq])
  have hdispatched : ∀ q ∈ l.dispatched, q.id < l.next := fun q hq =>
    h.lt_next (List.mem_append_right _ (List.mem_map_of_mem hq))
  -- the new request stands last, in the queue or with its dispatcher
  refine ⟨by omega, ?_, ?_, ?_, h.settled_nodup, ?_, ?_⟩
  · rw [hnumbers]
    refine List.Perm.trans ?_ (h.requested.append_right [l.next])
    obtain ⟨-, hq, hd⟩ | ⟨d, -, hq, hd⟩ := hwait
    · rw [hq, hd]
      simp only [List.map_append, List.map_cons, List.map_nil, List.append_assoc]
      exact (List.perm_append_comm.append_left _).append_left _
    · rw [hq, hd]
      simp only [List.map_append, List.map_cons, List.map_nil, List.append_assoc]
      exact .refl _
  · obtain ⟨-, hq, -⟩ | ⟨d, -, hq, -⟩ := hwait
    · rw [hq]
      exact pairwise_concat h.queue_sorted hqueue
    · rw [hq]
      exact h.queue_sorted
  · obtain ⟨-, -, hd⟩ | ⟨d, -, -, hd⟩ := hwait
    · rw [hd]
      exact h.dispatched_sorted
    · rw [hd]
      exact pairwise_concat h.dispatched_sorted hdispatched
  · intro id hid
    rw [hnumbers]
    exact List.mem_append_left _ (h.settled_mem id hid)
  · rw [hnumbers, List.filter_append, ← h.pending]
    simp [pendingIds, hpending, hfresh]

theorem Balanced.issues (h : l.Balanced taken settled) (hl : Issues l l') :
    l'.Balanced taken settled := by
  induction hl with
  | refl => exact h
  | issue _ call payload ih => exact ih.issue call payload

theorem Issues.next_le (h : Issues l l') : l.next ≤ l'.next := by
  induction h with
  | refl => exact Nat.le_refl _
  | @issue l' _ call payload ih =>
    have hnext := (l'.issue_spec call payload).1
    omega

/-! ### Ending calls -/

theorem Balanced.mem_pendingIds (h : l.Balanced taken settled) {id : Nat} :
    id ∈ l.pendingIds ↔ id ∈ l.numbers ∧ id ∉ settled := by
  rw [h.pending, List.mem_filter, decide_eq_true_iff]

theorem lookup_eq_none_iff {id : Nat} : l.pending.lookup id = none ↔ id ∉ l.pendingIds := by
  rw [List.lookup_eq_none_iff, pendingIds, List.mem_map]
  constructor
  · rintro hall ⟨p, hp, rfl⟩
    simpa using hall p hp
  · intro hid p hp
    rw [bne_iff_ne]
    rintro rfl
    exact hid ⟨p, hp, rfl⟩

theorem mem_pendingIds_of_lookup {id : Nat} {call : α} (h : l.pending.lookup id = some call) :
    id ∈ l.pendingIds := by
  by_contra hid
  rw [lookup_eq_none_iff.2 hid] at h
  cases h

/-- Why there is nothing to take. -/
theorem eq_of_take_eq_error {id : Nat} {e : CallEnd} (ht : l.take id = .error e) :
    e = .alreadySettled ∨ e = .unknown := by
  unfold take at ht
  split at ht
  · cases ht
  · cases ht
    split_ifs <;> simp

/-- A call that is not pending is told apart by its number. -/
theorem Balanced.take_eq_error (h : l.Balanced taken settled) {id : Nat} {e : CallEnd} :
    l.take id = .error e ↔
      id ∈ settled ∧ e = .alreadySettled ∨ id ∉ l.numbers ∧ e = .unknown := by
  have hmem := h.settled_mem id
  cases hl : l.pending.lookup id with
  | some call =>
    have hid := mem_pendingIds_of_lookup hl
    rw [h.mem_pendingIds] at hid
    simp [take, hl, hid.1, hid.2]
  | none =>
    have hid := lookup_eq_none_iff.1 hl
    rw [h.mem_pendingIds] at hid
    have hnumber : (id ≠ 0 ∧ id < l.next) ↔ id ∈ l.numbers := by
      rw [mem_numbers]
      omega
    simp only [take, hl, Except.error.injEq]
    by_cases hn : id ∈ l.numbers
    · rw [if_pos (hnumber.2 hn)]
      have hs : id ∈ settled := by
        by_contra hs
        exact hid ⟨hn, hs⟩
      simp [hn, hs, eq_comm]
    · rw [if_neg (hnumber.not.2 hn)]
      have hs : id ∉ settled := fun hs => hn (hmem hs)
      simp [hn, hs, eq_comm]

/-- A pending call leaves the pending ones when it is taken out. -/
theorem Balanced.take_eq_ok (h : l.Balanced taken settled) {id : Nat} {call : α}
    (ht : l.take id = .ok (call, l')) :
    id ∈ l.numbers ∧ id ∉ settled ∧ l'.next = l.next ∧ l'.Balanced taken (settled ++ [id]) := by
  unfold take at ht
  split at ht
  · rename_i c hl
    cases ht
    have hid := mem_pendingIds_of_lookup hl
    rw [h.mem_pendingIds] at hid
    refine ⟨hid.1, hid.2, rfl, h.next_pos, h.requested, h.queue_sorted, h.dispatched_sorted,
      ?_, ?_, ?_⟩
    · rw [List.nodup_append]
      refine ⟨h.settled_nodup, by simp, ?_⟩
      rintro a ha b hb rfl
      exact hid.2 (List.mem_singleton.1 hb ▸ ha)
    · intro i hi
      obtain hi | hi := List.mem_append.1 hi
      · exact h.settled_mem i hi
      · exact List.mem_singleton.1 hi ▸ hid.1
    · have hids : (l.pending.filter fun p => p.1 ≠ id).map (·.1) =
          l.pendingIds.filter fun i => i ≠ id := by
        rw [pendingIds, List.filter_map]
        rfl
      rw [pendingIds, hids, h.pending, List.filter_filter]
      refine List.filter_congr fun i _ => ?_
      simp [and_comm]
  · cases ht

/-- A call that is put back has its place among the numbers. -/
theorem map_insertCall {ns : List Nat} (hns : ns.Pairwise (· < ·)) {id : Nat} (hid : id ∈ ns)
    {P : Nat → Prop} [DecidablePred P] (hP : P id) (call : α) {calls : List (Nat × α)}
    (hcalls : calls.map (·.1) = ns.filter fun n => P n ∧ n ≠ id) :
    (insertCall id call calls).map (·.1) = ns.filter P := by
  induction ns generalizing calls with
  | nil => cases hid
  | cons n ns ih =>
    obtain ⟨hlt, hns⟩ := List.pairwise_cons.1 hns
    by_cases hn : n = id
    · -- the others are those behind it
      subst hn
      have hrest : ns.filter (fun m => P m ∧ m ≠ n) = ns.filter P := by
        refine List.filter_congr fun m hm => ?_
        have := hlt m hm
        simp [show m ≠ n by omega]
      rw [List.filter_cons_of_neg (by simp), hrest] at hcalls
      rw [List.filter_cons_of_pos (by simpa using hP), ← hcalls]
      cases calls with
      | nil => rfl
      | cons c calls =>
        have hc : c.1 ∈ ns := by
          have hmem : c.1 ∈ ns.filter P := by
            rw [← hcalls]
            exact List.mem_cons_self
          exact (List.mem_filter.1 hmem).1
        simp [insertCall, hlt _ hc]
    · have hmem := (List.mem_cons.1 hid).resolve_left (Ne.symm hn)
      by_cases hPn : P n
      · rw [List.filter_cons_of_pos (by simp [hPn, hn])] at hcalls
        rw [List.filter_cons_of_pos (by simpa using hPn)]
        obtain ⟨c, rest, rfl, hc, hrest⟩ := List.map_eq_cons_iff.1 hcalls
        have hbehind := hlt id hmem
        rw [insertCall, if_neg (by omega), List.map_cons, ih hns hmem hrest, hc]
      · rw [List.filter_cons_of_neg (by simp [hPn])] at hcalls
        rw [List.filter_cons_of_neg (by simpa using hPn)]
        exact ih hns hmem hcalls

/-- A call that did not end is pending again. -/
theorem Balanced.putBack {id : Nat} (h : l.Balanced taken (settled ++ [id])) (call : α) :
    (l.putBack id call).Balanced taken settled := by
  have hid : id ∉ settled := fun hid =>
    (List.nodup_append.1 h.settled_nodup).2.2 id hid id (List.mem_singleton_self id) rfl
  refine ⟨h.next_pos, h.requested, h.queue_sorted, h.dispatched_sorted,
    h.settled_nodup.sublist (List.sublist_append_left _ _),
    fun i hi => h.settled_mem i (List.mem_append_left _ hi), ?_⟩
  refine map_insertCall List.pairwise_lt_range' (h.settled_mem id (by simp)) hid call ?_
  rw [← pendingIds, h.pending]
  refine List.filter_congr fun i _ => ?_
  simp

/-! ### Passing requests on -/

theorem Balanced.takeQueued (h : l.Balanced taken settled) :
    l.takeQueued.2.Balanced (taken ++ l.takeQueued.1) settled where
  next_pos := h.next_pos
  requested := by simpa [Ledger.takeQueued, numbers] using h.requested
  queue_sorted := .nil
  dispatched_sorted := h.dispatched_sorted
  settled_nodup := h.settled_nodup
  settled_mem := h.settled_mem
  pending := h.pending

theorem Balanced.takeDispatched (h : l.Balanced taken settled) :
    l.takeDispatched.2.Balanced (taken ++ l.takeDispatched.1.map (·.toAsyncRequest)) settled where
  next_pos := h.next_pos
  requested := by
    refine List.Perm.trans ?_ h.requested
    simp only [Ledger.takeDispatched, List.append_nil, List.map_nil, List.map_append,
      List.append_assoc]
    exact List.perm_append_comm.append_left _
  queue_sorted := h.queue_sorted
  dispatched_sorted := .nil
  settled_nodup := h.settled_nodup
  settled_mem := h.settled_mem
  pending := h.pending

theorem Balanced.install (h : l.Balanced taken settled) (on : Bool) :
    (l.install on).Balanced taken settled := by
  cases on with
  | false => exact { h with }
  | true => exact { h with }

end Ledger

end ScriptBridge
