import Mathlib.Tactic.SplitIfs
import ScriptBridge.Proofs.Handle.Invariant

/-!
# Tags of handles

A handle carries the tag of the table that gave it out, in bits of their own, so a table refuses
whatever has another tag, whatever its generation and its index are.  Tags are drawn from a counter
of sixteen bits that leaves out zero: it comes round after 65535 draws (`TagSource.toNat_nth`), and
not before (`TagSource.nth_eq_iff`).
-/

namespace ScriptBridge

namespace TagSource

/-- The tag of the bridge that is created after `k` others. -/
def nth (k : Nat) : UInt16 := .ofNat (k % 65535 + 1)

/-- The source after `k` draws: it has come to the next tag, or to the zero before it. -/
def DrawsNth (s : TagSource) (k : Nat) : Prop := s.draw.1 = nth k

theorem toNat_nth (k : Nat) : (nth k).toNat = k % 65535 + 1 := by
  rw [nth, UInt16.toNat_ofNat']
  omega

theorem nth_ne_zero (k : Nat) : nth k ≠ 0 := by
  intro h
  have hzero := congrArg UInt16.toNat h
  rw [toNat_nth] at hzero
  cases hzero

/-- **Tags have the period 65535 and no shorter one.** -/
theorem nth_eq_iff (i j : Nat) : nth i = nth j ↔ (65535 : Int) ∣ (i : Int) - j := by
  rw [← UInt16.toNat_inj, toNat_nth, toNat_nth]
  omega

theorem drawsNth_start : DrawsNth {} 0 := rfl

/-- What is left after a draw is the number behind the tag that was drawn. -/
theorem next_draw (s : TagSource) : s.draw.2.next = s.draw.1 + 1 := by
  unfold draw
  split_ifs
  · rfl
  · rfl

/-- A draw leaves the source with the next tag. -/
theorem DrawsNth.draw {s : TagSource} {k : Nat} (h : s.DrawsNth k) :
    s.draw.2.DrawsNth (k + 1) := by
  have hnext : s.draw.2.next = nth k + 1 := by rw [next_draw, h]
  have hadd : (nth k + 1).toNat = (k % 65535 + 2) % 65536 := by
    rw [UInt16.toNat_add, toNat_nth]
    rfl
  rw [DrawsNth, TagSource.draw, hnext, ← UInt16.toNat_inj, toNat_nth]
  split_ifs with hzero
  · -- after the last tag comes zero, which is left out
    rw [← UInt16.toNat_inj, hadd] at hzero
    change _ % 65536 = 0 at hzero
    change 1 = _
    omega
  · rw [← UInt16.toNat_inj, hadd] at hzero
    change ¬ _ % 65536 = 0 at hzero
    rw [hadd]
    omega

end TagSource

namespace HandleTable

variable {α : Type} {t t' : HandleTable α} {h : Handle} {v : α}

/-- A new handle has the tag of the table, whether or not there is an index for it. -/
theorem Listed.tag_insert (hl : t.Listed) : (t.insert v).1.tag = t.tag := by
  cases hfree : t.free with
  | cons i free => exact (hl.insert_slots fun hnil => by simp [hfree] at hnil).1
  | nil =>
    simp only [HandleTable.insert, hfree]
    exact Handle.tag_make ..

/-- A table refuses a handle: it has no value for it, and nothing to let go of. -/
structure Refuses (t : HandleTable α) (h : Handle) : Prop where
  contains : t.contains h = false
  get : t.get h = .error (.invalidHandle h)
  release : t.release? h = none

/-- **A handle with another tag is refused**, whatever its generation and its index are. -/
theorem refuses_of_tag (htag : h.tag ≠ t.tag) : t.Refuses h := by
  have hnone : t.get? h = none := if_neg htag
  have hcontains : t.contains h = false := by rw [HandleTable.contains, hnone]; rfl
  refine ⟨hcontains, by rw [HandleTable.get, hnone], ?_⟩
  rw [HandleTable.release?, hcontains]
  rfl

end HandleTable

end ScriptBridge
