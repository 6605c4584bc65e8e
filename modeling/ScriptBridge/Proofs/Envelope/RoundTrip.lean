import ScriptBridge.Proofs.Envelope.Fields

/-!
# Writing and reading blobs

A blob has one written form.  Reading gives back what was written, and a blob that is read is the
one that writing its contents gives, byte for byte; both hold under every digest function.

* `Envelope.decodeWith_eq_of_fits` : what fits a blob is read back from it, with a header that says
  what was written.
* `Envelope.eq_encodeWith_of_decodeWith` : whatever is read fits a blob, and the blob is the one
  that writing it gives.
* `CompiledUnit.deserialize_eq_ok_iff` : the blobs that are read as a unit are those that are
  written for a unit that fits.
* `Envelope.exact_codec` : all of this together.
-/

namespace ScriptBridge

namespace Envelope

variable {digest : DigestFunction} {name : String} {payload : List UInt8}

/-- A name and a payload whose lengths fit the fields that a blob has for them. -/
structure Fits (name : String) (payload : List UInt8) : Prop where
  name_le : (Utf8.encode name).length ≤ 65535
  payload_lt : payload.length < 2 ^ 32

/-- What the blob of a unit says of it. -/
def headerOf (digest : DigestFunction) (kind : UnitKind) (name : String)
    (payload : List UInt8) : UnitHeader :=
  ⟨name, kind, engineTag, payload.length, (digest payload).toList⟩

/-- The fields of a blob behind its first four bytes, each in front of the rest. -/
def fields (digest : DigestFunction) (kind : UnitKind) (name : String)
    (payload : List UInt8) : List UInt8 :=
  [layoutVersion, kind.toByte, (Utf8.encode engineTag).length.toUInt8] ++
    (Utf8.encode engineTag ++ (littleEndian 2 (Utf8.encode name).length ++
      (Utf8.encode name ++ (littleEndian 4 payload.length ++
        ((digest payload).toList ++ payload)))))

theorem encodeWith_eq (kind : UnitKind) :
    encodeWith digest kind name payload = blobMagic ++ fields digest kind name payload := by
  simp [encodeWith, preamble, fields]

/-- The name of the engine fits the one byte that its length is written with. -/
theorem toNat_length_engineTag :
    (Utf8.encode engineTag).length.toUInt8.toNat = (Utf8.encode engineTag).length := by
  decide

/-- **What was written is read back.** -/
theorem decodeWith_eq_of_fits (kind : UnitKind) (h : Fits name payload) :
    decodeWith digest (encodeWith digest kind name payload) =
      .ok (headerOf digest kind name payload, payload) := by
  have hmagic : (blobMagic ++ fields digest kind name payload).take 4 = blobMagic := rfl
  have hrest : (blobMagic ++ fields digest kind name payload).drop 4 =
      fields digest kind name payload := rfl
  have hdigest : (digest payload).toList.length = digestLength := Vector.length_toList
  rw [encodeWith_eq, decodeWith, hmagic, hrest, if_neg (not_not.2 rfl), fields,
    Cursor.takeKind_append, ok_bind]
  dsimp only
  rw [toNat_length_engineTag, Cursor.takeEngine_append, ok_bind]
  dsimp only
  rw [Cursor.takeUnitName_append h.name_le, ok_bind]
  dsimp only
  rw [Cursor.takeSum_append h.payload_lt hdigest, ok_bind]
  simp [headerOf]

/-- **Only what is written is read.** -/
theorem eq_encodeWith_of_decodeWith {blob : List UInt8} {header : UnitHeader}
    (h : decodeWith digest blob = .ok (header, payload)) :
    Fits header.name payload ∧ header = headerOf digest header.kind header.name payload ∧
      blob = encodeWith digest header.kind header.name payload := by
  unfold decodeWith at h
  split_ifs at h with hmagic
  obtain ⟨⟨⟨kind, n⟩, c₁⟩, hkind, h⟩ := bind_eq_ok.1 h
  obtain ⟨⟨tag, c₂⟩, hengine, h⟩ := bind_eq_ok.1 h
  obtain ⟨⟨name, c₃⟩, hname, h⟩ := bind_eq_ok.1 h
  obtain ⟨⟨⟨declared, sum⟩, c₄⟩, hsum, h⟩ := bind_eq_ok.1 h
  dsimp only at h
  split_ifs at h with hlength hdigest
  simp only [Except.ok.injEq, Prod.mk.injEq] at h
  obtain ⟨rfl, rfl⟩ := h
  obtain ⟨length, rfl, e₁⟩ := Cursor.takeKind_eq_ok hkind
  obtain ⟨rfl, htag, e₂⟩ := Cursor.takeEngine_eq_ok hengine
  obtain ⟨hle, e₃⟩ := Cursor.takeUnitName_eq_ok hname
  obtain ⟨hlt, -, e₄⟩ := Cursor.takeSum_eq_ok hsum
  -- the one byte in front of the engine's name is the length that was read
  have htag' : length = (Utf8.encode engineTag).length.toUInt8 := by
    apply UInt8.toNat_inj.1
    rw [← htag, toNat_length_engineTag]
  have hblob : blob = blobMagic ++ blob.drop 4 := by
    rw [← not_not.1 hmagic, List.take_append_drop]
  rw [not_not] at hlength hdigest
  refine ⟨⟨hle, hlength ▸ hlt⟩, by rw [headerOf, hlength, hdigest], ?_⟩
  rw [encodeWith_eq, fields, hlength, hdigest, ← htag', hblob]
  simp only at e₁ e₂ e₃ e₄ ⊢
  rw [← e₄, ← e₃, ← e₂, ← e₁]

end Envelope

namespace CompiledUnit

open Envelope

/-- **Exactly the blobs that are written for a unit are read as one.** -/
theorem deserialize_eq_ok_iff {blob : List UInt8} {u : CompiledUnit} :
    deserialize blob = .ok u ↔ Fits u.name u.payload ∧ u.serialize = blob := by
  unfold deserialize
  constructor
  · intro h
    split at h
    · rename_i header payload hdecode
      cases h
      obtain ⟨hfits, -, hblob⟩ := eq_encodeWith_of_decodeWith hdecode
      exact ⟨hfits, hblob.symm⟩
    · cases h
  · rintro ⟨hfits, rfl⟩
    have hdecode : decode u.serialize = _ := decodeWith_eq_of_fits u.kind hfits
    rw [hdecode]
    rfl

end CompiledUnit

namespace Envelope

/-- **The codec is exact.**  Under every digest function, what fits a blob is read back as it was
written, and a blob that is read is the one that writing its contents gives.  So the blobs that are
read as a unit are those that are written for a unit that fits, and writing such a unit again gives
the same blob. -/
theorem exact_codec (digest : DigestFunction) :
    (∀ (kind : UnitKind) (name : String) (payload : List UInt8),
      (Utf8.encode name).length ≤ 65535 → payload.length < 2 ^ 32 →
        decodeWith digest (encodeWith digest kind name payload) =
          .ok (⟨name, kind, engineTag, payload.length, (digest payload).toList⟩, payload)) ∧
    (∀ (blob : List UInt8) (header : UnitHeader) (payload : List UInt8),
      decodeWith digest blob = .ok (header, payload) →
        (Utf8.encode header.name).length ≤ 65535 ∧ payload.length < 2 ^ 32 ∧
        header = ⟨header.name, header.kind, engineTag, payload.length, (digest payload).toList⟩ ∧
        encodeWith digest header.kind header.name payload = blob) ∧
    ∀ (blob : List UInt8) (u : CompiledUnit),
      CompiledUnit.deserialize blob = .ok u ↔
        ((Utf8.encode u.name).length ≤ 65535 ∧ u.payload.length < 2 ^ 32) ∧
          u.serialize = blob := by
  refine ⟨fun kind name payload hname hpayload => ?_, fun blob header payload h => ?_,
    fun blob u => ?_⟩
  · exact decodeWith_eq_of_fits kind ⟨hname, hpayload⟩
  · obtain ⟨hfits, hheader, hblob⟩ := eq_encodeWith_of_decodeWith h
    exact ⟨hfits.name_le, hfits.payload_lt, hheader, hblob.symm⟩
  · rw [CompiledUnit.deserialize_eq_ok_iff]
    exact and_congr_left' ⟨fun h => ⟨h.name_le, h.payload_lt⟩, fun h => ⟨h.1, h.2⟩⟩

/-- A module with a name that is not ASCII, and a payload of three bytes. -/
theorem exact_codec_module :
    ((Utf8.encode "λ.js").length ≤ 65535 ∧ [(1 : UInt8), 2, 3].length < 2 ^ 32) ∧
      decodeWith Sha256.digest (encodeWith Sha256.digest .module "λ.js" [1, 2, 3]) =
        .ok (⟨"λ.js", .module, engineTag, 3, (Sha256.digest [1, 2, 3]).toList⟩, [1, 2, 3]) ∧
      (Utf8.encode "λ.js").length ≤ 65535 := by
  have hname : (Utf8.encode "λ.js").length ≤ 65535 := by decide
  have hpayload : [(1 : UInt8), 2, 3].length < 2 ^ 32 := by decide
  obtain ⟨written, read, -⟩ := exact_codec Sha256.digest
  have hread := written .module "λ.js" [1, 2, 3] hname hpayload
  exact ⟨⟨hname, hpayload⟩, hread, (read _ _ _ hread).1⟩

end Envelope

end ScriptBridge
