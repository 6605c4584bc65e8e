import Mathlib.Tactic.NormNum
import Mathlib.Tactic.SplitIfs
import ScriptBridge.Unit

/-!
# The fields of a blob

A blob is a row of fields, and each of them is read back as it was written.  Numbers are written
with a fixed width, the lowest byte first; texts and the payload stand behind their lengths.

* `Envelope.ofLittleEndian_littleEndian` and `Envelope.littleEndian_ofLittleEndian` : a number that
  fits its width and the bytes that write it determine each other.
* `Envelope.Cursor.take_append` and `Envelope.Cursor.take_eq_ok` : taking `n` bytes succeeds on a
  field of `n` bytes in front of anything, and only there.

Each further reader of a cursor has the same two lemmas: what it makes of the field that it reads,
in front of anything, and that it stood in front of this field if it succeeds.
-/

namespace ScriptBridge

/-- A step that succeeds, and what comes after it. -/
theorem bind_eq_ok {ε α β : Type} {x : Except ε α} {f : α → Except ε β} {b : β} :
    (x >>= f) = .ok b ↔ ∃ a, x = .ok a ∧ f a = .ok b := by
  cases x <;> simp [bind, Except.bind]

theorem ok_bind {ε α β : Type} (a : α) (f : α → Except ε β) :
    ((.ok a : Except ε α) >>= f) = f a := rfl

namespace UnitKind

@[simp] theorem ofByte?_toByte (kind : UnitKind) : ofByte? kind.toByte = some kind := by
  cases kind <;> rfl

theorem toByte_of_ofByte? {b : UInt8} {kind : UnitKind} (h : ofByte? b = some kind) :
    kind.toByte = b := by
  unfold ofByte? at h
  split_ifs at h with h0 h1
  · cases h; exact h0.symm
  · cases h; exact h1.symm

end UnitKind

namespace Envelope

/-! ### Numbers -/

@[simp] theorem length_littleEndian (width n : Nat) : (littleEndian width n).length = width := by
  induction width generalizing n with
  | zero => rfl
  | succ width ih => simp [littleEndian, ih]

/-- A number that fits is read back from the bytes that write it. -/
theorem ofLittleEndian_littleEndian {width n : Nat} (h : n < 256 ^ width) :
    ofLittleEndian (littleEndian width n) = n := by
  induction width generalizing n with
  | zero =>
    have : n = 0 := by simpa using h
    rw [this]; rfl
  | succ width ih =>
    have hdiv : n / 256 < 256 ^ width := by
      rw [Nat.div_lt_iff_lt_mul (by norm_num)]
      rwa [pow_succ] at h
    have hmod : n.toUInt8.toNat = n % 256 := by simp [Nat.toUInt8]
    rw [littleEndian, ofLittleEndian, ih hdiv, hmod]
    exact Nat.mod_add_div n 256

theorem ofLittleEndian_lt (bytes : List UInt8) : ofLittleEndian bytes < 256 ^ bytes.length := by
  induction bytes with
  | nil => simp [ofLittleEndian]
  | cons b bytes ih =>
    have hb : b.toNat < 256 := b.toNat_lt
    rw [ofLittleEndian, List.length_cons, pow_succ]
    omega

/-- The bytes that write a number are those that it was read from. -/
theorem littleEndian_ofLittleEndian (bytes : List UInt8) :
    littleEndian bytes.length (ofLittleEndian bytes) = bytes := by
  induction bytes with
  | nil => rfl
  | cons b bytes ih =>
    have hb : b.toNat < 256 := b.toNat_lt
    have hlow : (b.toNat + 256 * ofLittleEndian bytes).toUInt8 = b := by
      apply UInt8.toNat_inj.1
      simp [Nat.toUInt8]
    have hrest : (b.toNat + 256 * ofLittleEndian bytes) / 256 = ofLittleEndian bytes := by
      rw [Nat.add_mul_div_left _ _ (by norm_num), Nat.div_eq_of_lt hb, Nat.zero_add]
    rw [List.length_cons, ofLittleEndian, littleEndian, hlow, hrest, ih]

/-! ### Cursors -/

namespace Cursor

/-- A field in front of anything is taken as it is. -/
theorem take_append {bytes rest : List UInt8} {n : Nat} (offset : Nat) (h : bytes.length = n) :
    (⟨offset, bytes ++ rest⟩ : Cursor).take n = .ok (bytes, ⟨offset + n, rest⟩) := by
  subst h
  simp [take]

/-- What is taken is a field of the given length that the cursor stood in front of. -/
theorem take_eq_ok {c c' : Cursor} {n : Nat} {bytes : List UInt8}
    (h : c.take n = .ok (bytes, c')) : bytes.length = n ∧ c.rest = bytes ++ c'.rest := by
  unfold take at h
  split_ifs at h with hlt
  simp only [Except.ok.injEq, Prod.mk.injEq] at h
  obtain ⟨rfl, rfl⟩ := h
  refine ⟨?_, (List.take_append_drop n c.rest).symm⟩
  rw [List.length_take]
  omega

/-- A text in front of anything is taken as it is. -/
theorem takeName_append {name : String} {rest : List UInt8} (offset : Nat) :
    (⟨offset, Utf8.encode name ++ rest⟩ : Cursor).takeName (Utf8.encode name).length =
      .ok (name, ⟨offset + (Utf8.encode name).length, rest⟩) := by
  rw [takeName, take_append offset rfl, ok_bind]
  simp

theorem takeName_eq_ok {c c' : Cursor} {n : Nat} {name : String}
    (h : c.takeName n = .ok (name, c')) :
    (Utf8.encode name).length = n ∧ c.rest = Utf8.encode name ++ c'.rest := by
  obtain ⟨⟨bytes, next⟩, htake, h⟩ := bind_eq_ok.1 h
  dsimp only at h
  split at h
  · rename_i s hdecode
    simp only [Except.ok.injEq, Prod.mk.injEq] at h
    obtain ⟨rfl, rfl⟩ := h
    rw [Utf8.encode_of_decode? hdecode]
    exact take_eq_ok htake
  · cases h

theorem takeKind_append (kind : UnitKind) (length : UInt8) {rest : List UInt8} (offset : Nat) :
    (⟨offset, [layoutVersion, kind.toByte, length] ++ rest⟩ : Cursor).takeKind =
      .ok ((kind, length.toNat), ⟨offset + 3, rest⟩) := by
  have hfixed : [layoutVersion, kind.toByte, length].length = 3 := rfl
  rw [takeKind, take_append offset hfixed, ok_bind]
  simp

theorem takeKind_eq_ok {c c' : Cursor} {kind : UnitKind} {n : Nat}
    (h : c.takeKind = .ok ((kind, n), c')) :
    ∃ length : UInt8, length.toNat = n ∧
      c.rest = [layoutVersion, kind.toByte, length] ++ c'.rest := by
  obtain ⟨⟨bytes, next⟩, htake, h⟩ := bind_eq_ok.1 h
  obtain ⟨-, hrest⟩ := take_eq_ok htake
  dsimp only at h
  split at h
  · rename_i version kindByte length
    split_ifs at h with hversion
    split at h
    · rename_i k hkind
      simp only [Except.ok.injEq, Prod.mk.injEq] at h
      obtain ⟨⟨rfl, rfl⟩, rfl⟩ := h
      refine ⟨length, rfl, ?_⟩
      rw [hrest, UnitKind.toByte_of_ofByte? hkind, not_not.1 hversion]
    · cases h
  · cases h

theorem takeEngine_append {rest : List UInt8} (offset : Nat) :
    (⟨offset, Utf8.encode engineTag ++ rest⟩ : Cursor).takeEngine (Utf8.encode engineTag).length =
      .ok (engineTag, ⟨offset + (Utf8.encode engineTag).length, rest⟩) := by
  rw [takeEngine, takeName_append, ok_bind]
  simp

theorem takeEngine_eq_ok {c c' : Cursor} {n : Nat} {tag : String}
    (h : c.takeEngine n = .ok (tag, c')) :
    tag = engineTag ∧ (Utf8.encode tag).length = n ∧ c.rest = Utf8.encode tag ++ c'.rest := by
  obtain ⟨⟨found, next⟩, htake, h⟩ := bind_eq_ok.1 h
  dsimp only at h
  split_ifs at h with htag
  simp only [Except.ok.injEq, Prod.mk.injEq] at h
  obtain ⟨rfl, rfl⟩ := h
  exact ⟨not_not.1 htag, takeName_eq_ok htake⟩

theorem takeUnitName_append {name : String} (hname : (Utf8.encode name).length ≤ 65535)
    {rest : List UInt8} (offset : Nat) :
    (⟨offset, littleEndian 2 (Utf8.encode name).length ++ (Utf8.encode name ++ rest)⟩ :
      Cursor).takeUnitName = .ok (name, ⟨offset + 2 + (Utf8.encode name).length, rest⟩) := by
  have hlength : ofLittleEndian (littleEndian 2 (Utf8.encode name).length) =
      (Utf8.encode name).length :=
    ofLittleEndian_littleEndian (Nat.lt_succ_of_le hname)
  rw [takeUnitName, take_append offset (length_littleEndian _ _), ok_bind]
  dsimp only
  rw [hlength, takeName_append]

theorem takeUnitName_eq_ok {c c' : Cursor} {name : String} (h : c.takeUnitName = .ok (name, c')) :
    (Utf8.encode name).length ≤ 65535 ∧
      c.rest = littleEndian 2 (Utf8.encode name).length ++ (Utf8.encode name ++ c'.rest) := by
  obtain ⟨⟨bytes, next⟩, htake, h⟩ := bind_eq_ok.1 h
  obtain ⟨hbytes, hrest⟩ := take_eq_ok htake
  obtain ⟨hname, hnext⟩ := takeName_eq_ok h
  have hlt := ofLittleEndian_lt bytes
  have hwritten := littleEndian_ofLittleEndian bytes
  rw [hbytes] at hlt hwritten
  refine ⟨by omega, ?_⟩
  rw [hname, hwritten, hrest, hnext]

theorem takeSum_append {length : Nat} (hlength : length < 2 ^ 32) {sum rest : List UInt8}
    (hsum : sum.length = digestLength) (offset : Nat) :
    (⟨offset, littleEndian 4 length ++ (sum ++ rest)⟩ : Cursor).takeSum =
      .ok ((length, sum), ⟨offset + 4 + digestLength, rest⟩) := by
  rw [takeSum, take_append offset (length_littleEndian _ _), ok_bind]
  dsimp only
  rw [take_append _ hsum, ok_bind, ofLittleEndian_littleEndian hlength]

theorem takeSum_eq_ok {c c' : Cursor} {length : Nat} {sum : List UInt8}
    (h : c.takeSum = .ok ((length, sum), c')) :
    length < 2 ^ 32 ∧ sum.length = digestLength ∧
      c.rest = littleEndian 4 length ++ (sum ++ c'.rest) := by
  obtain ⟨⟨bytes, next⟩, htake, h⟩ := bind_eq_ok.1 h
  obtain ⟨⟨found, last⟩, htake', h⟩ := bind_eq_ok.1 h
  simp only [Except.ok.injEq, Prod.mk.injEq] at h
  obtain ⟨⟨rfl, rfl⟩, rfl⟩ := h
  obtain ⟨hbytes, hrest⟩ := take_eq_ok htake
  obtain ⟨hfound, hnext⟩ := take_eq_ok htake'
  have hlt := ofLittleEndian_lt bytes
  have hwritten := littleEndian_ofLittleEndian bytes
  rw [hbytes] at hlt hwritten
  refine ⟨hlt, hfound, ?_⟩
  rw [hwritten, hrest, hnext]

end Cursor

end Envelope

end ScriptBridge
