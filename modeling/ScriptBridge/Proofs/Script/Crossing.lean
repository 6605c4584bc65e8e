import Mathlib.Data.List.TakeWhile
import ScriptBridge.Proofs.Script.Assignment

/-!
# What crossings come to

A crossing is put together from procedures and from faults.  Its parts run one after the other, and
what is thrown goes through.

* `Crossing.run_mapM_of_done`, `Crossing.run_mapM_of_thrown` : a crossing for each member of a list,
  if none of them changes the world.
* `Str.toString?_beforeNul` : what stands before the first NUL of a text.
-/

namespace ScriptBridge

namespace Script

variable {α β : Type}

/-! ### Procedures as a monad -/

theorem Proc.eq_of_run {p q : Proc α} (h : ∀ w, p w = q w) : p = q := by
  obtain ⟨f, _⟩ := p
  obtain ⟨g, _⟩ := q
  obtain rfl : f = g := funext h
  rfl

theorem Outcome.bind_done (o : Outcome α) : (o.bind fun a w => .done a w) = o := by
  induction o with
  | done a w => rfl
  | thrown v w => rfl
  | ask q w k ih => simp only [bind, ih]

instance : LawfulMonad Proc := .mk' Proc
  (fun p => Proc.eq_of_run fun w => Outcome.bind_done (p w))
  (fun _ _ => rfl)
  (fun p _ _ => Proc.eq_of_run fun w => Outcome.bind_assoc (p w) _ _)

namespace Crossing

variable {w w' : World} {p : Crossing α} {f : α → Crossing β} {type : ErrorType} {message : String}

/-- Throws an error of the engine. -/
def throwNew (type : ErrorType) (message : String) : Crossing α :=
  ofProc (Proc.throwNew type message)

theorem run_pure (a : α) (w : World) : (pure a : Crossing α).run w = .done (.ok a) w := rfl

theorem run_ofProc_of_done {p : Proc α} {a : α} (h : p w = .done a w') :
    (ofProc p).run w = .done (.ok a) w' := by
  change (p w).bind _ = _
  rw [h]
  rfl

/-- A crossing goes on with the value of its first part. -/
theorem run_bind_of_done {a : α} (h : p.run w = .done (.ok a) w') :
    (p >>= f).run w = (f a).run w' := by
  rw [ExceptT.run_bind, Proc.run_bind, h]
  rfl

/-- Nothing comes after an error of the engine. -/
theorem run_bind_of_thrown (h : p.run w = (throwNew type message : Crossing α).run w) :
    (p >>= f).run w = (throwNew type message : Crossing β).run w := by
  have hthrow {γ : Type} : (throwNew type message : Crossing γ).run w =
      (Proc.throwNew type message : Proc (Except EngineFault γ)) w :=
    Proc.bind_throwNew type message _
  rw [ExceptT.run_bind, Proc.run_bind, h, hthrow, hthrow, Proc.bind_throwNew]

variable {l : List α} {g : α → β}

theorem run_mapM_of_done (h : ∀ a ∈ l, (f a).run w = .done (.ok (g a)) w) :
    (l.mapM f).run w = .done (.ok (l.map g)) w := by
  induction l with
  | nil => rfl
  | cons a l ih =>
    obtain ⟨ha, hl⟩ := List.forall_mem_cons.1 h
    rw [List.mapM_cons, run_bind_of_done ha, run_bind_of_done (ih hl)]
    rfl

/-- The first member whose crossing throws ends the whole. -/
theorem run_mapM_of_thrown (h : ∀ a ∈ l, (∃ b, (f a).run w = .done (.ok b) w) ∨
    (f a).run w = (throwNew type message : Crossing β).run w)
    (hthrown : ∃ a ∈ l, (f a).run w = (throwNew type message : Crossing β).run w) :
    (l.mapM f).run w = (throwNew type message : Crossing (List β)).run w := by
  induction l with
  | nil => simp at hthrown
  | cons a l ih =>
    obtain ⟨ha, hl⟩ := List.forall_mem_cons.1 h
    rw [List.mapM_cons]
    obtain ⟨b, hb⟩ | hb := ha
    · have hrest : ∃ a ∈ l, (f a).run w = (throwNew type message : Crossing β).run w := by
        obtain ⟨a', ha', hthrow⟩ := hthrown
        obtain rfl | ha' := List.mem_cons.1 ha'
        · -- a value is not an error
          rw [hb] at hthrow
          cases hthrow
        · exact ⟨a', ha', hthrow⟩
      rw [run_bind_of_done hb]
      exact run_bind_of_thrown (ih hl hrest)
    · exact run_bind_of_thrown hb

end Crossing

end Script

/-! ### Texts that stop at a NUL -/

/-- What stands before the first NUL of a text. -/
def beforeNul (t : String) : String := String.ofList (t.toList.takeWhile (· ≠ '\x00'))

/-- A text without a NUL does not stop before its end. -/
theorem beforeNul_of_not_mem {t : String} (h : '\x00' ∉ t.toList) : beforeNul t = t := by
  have hall : t.toList.takeWhile (· ≠ '\x00') = t.toList :=
    List.takeWhile_eq_self_iff.2 fun c hc => decide_eq_true fun hnul => h (hnul ▸ hc)
  rw [beforeNul, hall, String.ofList_toList]

namespace Str

/-- A unit that is no half of a pair is read as a character. -/
theorem decode_cons {offset : Nat} {u : UInt16} {us : List UInt16} {cs : List Char}
    (hhigh : isHigh u = false) (hlow : isLow u = false)
    (h : decode (offset + (Char.ofNat u.toNat).utf8Size) us = .ok cs) :
    decode offset (u :: us) = .ok (Char.ofNat u.toNat :: cs) := by
  cases us with
  | nil =>
    cases h
    simp [decode, hhigh, hlow]
  | cons v rest =>
    rw [decode, if_neg (Bool.eq_false_iff.1 hhigh), if_neg (Bool.eq_false_iff.1 hlow)]
    dsimp only
    rw [h]
    rfl

theorem toNat_ofNat {n : Nat} (h : n.isValidChar) : (Char.ofNat n).toNat = n := by
  rw [Char.ofNat, dif_pos h]
  rfl

/-- Only the unit zero is read as a NUL. -/
theorem ofNat_toNat_eq_nul_iff {u : UInt16} (hhigh : isHigh u = false) (hlow : isLow u = false) :
    Char.ofNat u.toNat = '\x00' ↔ u = 0 := by
  constructor
  · intro h
    have hlt := u.toNat_lt
    simp only [isHigh, isLow, Bool.and_eq_false_iff, decide_eq_false_iff_not] at hhigh hlow
    have hvalid : u.toNat.isValidChar := by
      simp only [Nat.isValidChar]
      omega
    have hzero := congrArg Char.toNat h
    rw [toNat_ofNat hvalid] at hzero
    exact UInt16.toNat_inj.1 hzero
  · rintro rfl
    rfl

/-- The first half of a pair is not zero, and neither is the second. -/
theorem ne_zero_of_half {u : UInt16} (h : isHigh u = true ∨ isLow u = true) : u ≠ 0 := by
  rintro rfl
  revert h
  decide

theorem join_ne_nul {u v : UInt16} (hhigh : isHigh u = true) (hlow : isLow v = true) :
    join u v ≠ '\x00' := by
  intro h
  simp only [isHigh, isLow, Bool.and_eq_true, decide_eq_true_eq] at hhigh hlow
  have hvalid : (0x10000 + (u.toNat - 0xd800) * 0x400 + (v.toNat - 0xdc00)).isValidChar := by
    simp only [Nat.isValidChar]
    omega
  have hzero := congrArg Char.toNat h
  rw [join, toNat_ofNat hvalid] at hzero
  have hnul : '\x00'.toNat = 0 := rfl
  omega

/-- A unit that is no half of a pair ends what stands before the NUL exactly if its character
does. -/
theorem decode_takeWhile_cons {offset : Nat} {u : UInt16} {us : List UInt16} {cs : List Char}
    (hhigh : isHigh u = false) (hlow : isLow u = false)
    (h : decode (offset + (Char.ofNat u.toNat).utf8Size) (us.takeWhile (· != 0)) =
      .ok (cs.takeWhile (· ≠ '\x00'))) :
    decode offset ((u :: us).takeWhile (· != 0)) =
      .ok ((Char.ofNat u.toNat :: cs).takeWhile (· ≠ '\x00')) := by
  by_cases hu : u = 0
  · subst hu
    rfl
  · have hc : Char.ofNat u.toNat ≠ '\x00' := fun hc => hu ((ofNat_toNat_eq_nul_iff hhigh hlow).1 hc)
    rw [List.takeWhile_cons_of_pos (by simpa using hu),
      List.takeWhile_cons_of_pos (by simpa using hc)]
    exact decode_cons hhigh hlow h

theorem exists_of_map_cons_eq_ok {r : Except Nat (List Char)} {c : Char} {cs : List Char}
    (h : r.map (c :: ·) = .ok cs) : ∃ cs', r = .ok cs' ∧ cs = c :: cs' := by
  cases r with
  | error e => cases h
  | ok cs' => exact ⟨cs', rfl, (Except.ok.inj h).symm⟩

/-- The units before the first zero are read as the characters before the first NUL. -/
theorem decode_takeWhile {offset : Nat} {us : List UInt16} {cs : List Char}
    (h : decode offset us = .ok cs) :
    decode offset (us.takeWhile (· != 0)) = .ok (cs.takeWhile (· ≠ '\x00')) := by
  induction offset, us using decode.induct generalizing cs with
  | case1 offset =>
    cases h
    rfl
  | case2 offset u hhalf =>
    rw [decode, if_pos hhalf] at h
    cases h
  | case3 offset u hhalf =>
    rw [decode, if_neg hhalf] at h
    cases h
    obtain ⟨hhigh, hlow⟩ : isHigh u = false ∧ isLow u = false := by simpa using hhalf
    exact decode_takeWhile_cons hhigh hlow rfl
  | case4 offset u v rest hhigh hlow ih =>
    rw [decode, if_pos hhigh, if_pos hlow] at h
    obtain ⟨cs', hcs, rfl⟩ := exists_of_map_cons_eq_ok h
    -- a pair is never a NUL, as a whole or in its halves
    have hu := ne_zero_of_half (.inl hhigh)
    have hv := ne_zero_of_half (.inr hlow)
    have hc := join_ne_nul hhigh hlow
    rw [List.takeWhile_cons_of_pos (by simpa using hu),
      List.takeWhile_cons_of_pos (by simpa using hv),
      List.takeWhile_cons_of_pos (by simpa using hc), decode, if_pos hhigh, if_pos hlow, ih hcs]
    rfl
  | case5 offset u v rest hhigh hlow =>
    rw [decode, if_pos hhigh, if_neg hlow] at h
    cases h
  | case6 offset u v rest hhigh hlow =>
    rw [decode, if_neg hhigh, if_pos hlow] at h
    cases h
  | case7 offset u v rest hhigh hlow c =>
    rename_i ih
    rw [decode, if_neg hhigh, if_neg hlow] at h
    obtain ⟨cs', hcs, rfl⟩ := exists_of_map_cons_eq_ok h
    exact decode_takeWhile_cons (Bool.eq_false_iff.2 hhigh) (Bool.eq_false_iff.2 hlow) (ih hcs)

/-- The units before the first NUL write what stands before it. -/
theorem toString?_beforeNul {s : Str} {t : String} (h : s.toString? = .ok t) :
    s.beforeNul.toString? = .ok (ScriptBridge.beforeNul t) := by
  rw [toString?] at h ⊢
  cases hdecode : decode 0 s.units with
  | error e =>
    rw [hdecode] at h
    cases h
  | ok cs =>
    rw [hdecode] at h
    obtain rfl : String.ofList cs = t := Except.ok.inj h
    rw [Str.beforeNul, decode_takeWhile hdecode, ScriptBridge.beforeNul, String.toList_ofList]
    rfl

end Str

end ScriptBridge
