import ScriptBridge.Handle.Basic

/-!
# The parts of a handle

A handle packs a tag, a generation and the index of a slot into one word.  Read as a number, the
word has these three parts as digits:

* `Handle.toNat_raw_make` : the word of a handle is `tag * 2^48 + generation * 2^32 + index`.
* `Handle.tag_make`, `Handle.generation_make`, `Handle.index_make` : each part is read back.
* `Handle.make_parts` : **every** 64-bit word is the handle with its own parts, so two words with
  the same parts are one (`Handle.ext_parts`).
* `Handle.make_ne_null` : a handle with a tag is not the null handle.
-/

namespace ScriptBridge

namespace Handle

theorem toNat_tag (h : Handle) : h.tag.toNat = h.raw.toNat / 2 ^ 48 := by
  have hlt := h.raw.toNat_lt
  simp only [tag, UInt64.toNat_toUInt16, UInt64.toNat_shiftRight, UInt64.reduceToNat,
    Nat.reduceMod, Nat.shiftRight_eq_div_pow]
  omega

theorem toNat_generation (h : Handle) :
    h.generation.toNat = h.raw.toNat / 2 ^ 32 % 2 ^ 16 := by
  simp only [generation, UInt64.toNat_toUInt16, UInt64.toNat_shiftRight, UInt64.reduceToNat,
    Nat.reduceMod, Nat.shiftRight_eq_div_pow]

theorem toNat_index (h : Handle) : h.index.toNat = h.raw.toNat % 2 ^ 32 := by
  simp only [index, UInt64.toNat_toUInt32]

/-- The three fields do not overlap, so joining them is adding them. -/
theorem toNat_raw_make (tag generation : UInt16) (index : UInt32) :
    (make tag generation index).raw.toNat =
      tag.toNat * 2 ^ 48 + generation.toNat * 2 ^ 32 + index.toNat := by
  have ht := tag.toNat_lt
  have hg := generation.toNat_lt
  have hi := index.toNat_lt
  have htag : (tag.toUInt64 <<< 48).toNat = tag.toNat <<< 48 := by
    simp only [UInt64.toNat_shiftLeft, UInt16.toNat_toUInt64, UInt64.reduceToNat, Nat.reduceMod,
      Nat.shiftLeft_eq]
    omega
  have hgen : (generation.toUInt64 <<< 32).toNat = generation.toNat <<< 32 := by
    simp only [UInt64.toNat_shiftLeft, UInt16.toNat_toUInt64, UInt64.reduceToNat, Nat.reduceMod,
      Nat.shiftLeft_eq]
    omega
  simp only [make, UInt64.toNat_or, htag, hgen, UInt32.toNat_toUInt64]
  rw [Nat.or_assoc, ← Nat.shiftLeft_add_eq_or_of_lt hi, ← Nat.shiftLeft_add_eq_or_of_lt,
    Nat.shiftLeft_eq, Nat.shiftLeft_eq, Nat.add_assoc]
  rw [Nat.shiftLeft_eq]
  omega

section parts

variable (tag generation : UInt16) (index : UInt32)

@[simp] theorem tag_make : (make tag generation index).tag = tag := by
  have hg := generation.toNat_lt
  have hi := index.toNat_lt
  apply UInt16.toNat_inj.1
  rw [toNat_tag, toNat_raw_make]
  omega

@[simp] theorem generation_make : (make tag generation index).generation = generation := by
  have hg := generation.toNat_lt
  have hi := index.toNat_lt
  apply UInt16.toNat_inj.1
  rw [toNat_generation, toNat_raw_make]
  omega

@[simp] theorem index_make : (make tag generation index).index = index := by
  have hi := index.toNat_lt
  apply UInt32.toNat_inj.1
  rw [toNat_index, toNat_raw_make]
  omega

/-- A handle with a tag is not the null handle. -/
theorem make_ne_null (h : tag ≠ 0) : make tag generation index ≠ null := by
  intro hnull
  have htag : null.tag = tag := by rw [← hnull, tag_make]
  exact h (htag.symm.trans rfl)

end parts

/-- Every word is the handle with its own parts. -/
@[simp] theorem make_parts (h : Handle) : make h.tag h.generation h.index = h := by
  have hlt := h.raw.toNat_lt
  suffices hraw : (make h.tag h.generation h.index).raw = h.raw from congrArg Handle.mk hraw
  apply UInt64.toNat_inj.1
  rw [toNat_raw_make, toNat_tag, toNat_generation, toNat_index]
  omega

/-- Two handles with the same parts are one. -/
theorem ext_parts {g h : Handle} (htag : g.tag = h.tag) (hgen : g.generation = h.generation)
    (hindex : g.index = h.index) : g = h := by
  rw [← make_parts g, ← make_parts h, htag, hgen, hindex]

end Handle

end ScriptBridge
