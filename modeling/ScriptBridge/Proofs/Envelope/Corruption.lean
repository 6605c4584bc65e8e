import ScriptBridge.Bridge.Units
import ScriptBridge.Proofs.Module.Genuine
import ScriptBridge.Proofs.Program

/-!
# Changed blobs

What comes of a blob in which one byte was changed.  A blob is read only as a unit whose own blob it
is (`CompiledUnit.deserialize_eq_ok_iff`), so the fields of the two blobs are compared one by one: a
change in one of them leaves all others as they were (`append_eq_set`).

* `CompiledUnit.cases_of_deserialize_set` : where a changed blob is still read, the change is in the
  kind, in the length of the name, or in the name.
* `CompiledUnit.changes_detected` : **every other change is detected**, and it is said for each of
  these three which changes are not.
* `CompiledUnit.changes_undetected` : there are such changes of each of the three.

The digest is that of the payload alone.  No payload of its length is excluded from having the same
digest, so what is asked of the digest is only that it tells the changed payload from the old one.
-/

namespace ScriptBridge

/-- A change of two parts that stand one behind the other is a change of one of them. -/
theorem append_eq_set {α : Type} {a a' c c' : List α} {i : Nat} {x : α}
    (h : a' ++ c' = (a ++ c).set i x) (hlength : a'.length = a.length) :
    i < a.length ∧ a' = a.set i x ∧ c' = c ∨
      a.length ≤ i ∧ a' = a ∧ c' = c.set (i - a.length) x := by
  obtain hi | hi := Nat.lt_or_ge i a.length
  · rw [List.set_append_left i x hi] at h
    obtain ⟨ha, hc⟩ := List.append_inj h (by rw [hlength, List.length_set])
    exact .inl ⟨hi, ha, hc⟩
  · rw [List.set_append_right i x hi] at h
    obtain ⟨ha, hc⟩ := List.append_inj h hlength
    exact .inr ⟨hi, ha, hc⟩

theorem set_append_append {α : Type} {a b c : List α} {i : Nat} {x : α} (h : a.length ≤ i)
    (h' : i < a.length + b.length) :
    (a ++ (b ++ c)).set i x = a ++ (b.set (i - a.length) x ++ c) := by
  rw [List.set_append_right i x h, List.set_append_left _ x (by omega)]

namespace Envelope

/-- The place of the kind in a blob. -/
def kindAt : Nat := blobMagic.length + 1

/-- The place of the length of the name in a blob. -/
def nameLengthAt : Nat := blobMagic.length + 3 + (Utf8.encode engineTag).length

/-- The place of the name in a blob. -/
def nameAt : Nat := nameLengthAt + 2

end Envelope

namespace CompiledUnit

open Envelope

variable {u u' : CompiledUnit} {i : Nat} {x : UInt8}

/-- The length of the name of a unit, in bytes. -/
def nameLength (u : CompiledUnit) : Nat := (Utf8.encode u.name).length

/-- What stands in the blob of a unit behind its name. -/
def sealedPayload (u : CompiledUnit) : List UInt8 :=
  littleEndian 4 u.payload.length ++ ((Sha256.digest u.payload).toList ++ u.payload)

/-- The fields of the blob of a unit. -/
theorem serialize_eq (u : CompiledUnit) : u.serialize =
    (blobMagic ++ [layoutVersion]) ++ ([u.kind.toByte] ++
      (((Utf8.encode engineTag).length.toUInt8 :: Utf8.encode engineTag) ++
        (littleEndian 2 u.nameLength ++ (Utf8.encode u.name ++ u.sealedPayload)))) := by
  simp [serialize, encode, encodeWith_eq, fields, sealedPayload, nameLength]

/-- A unit that there can be: units come from the compiler and from blobs. -/
inductive Made : CompiledUnit → Prop
  | compile {u : CompiledUnit} (filename source : String) (kind : UnitKind)
    (h : compile filename source kind = .ok u) : Made u
  | deserialize {u : CompiledUnit} (blob : List UInt8) (h : deserialize blob = .ok u) : Made u

/-- The length of the name of such a unit has a place in its blob. -/
theorem Made.nameLength_le (h : Made u) : u.nameLength ≤ 65535 := by
  cases h with
  | compile filename source kind h =>
    obtain ⟨name, hcheck, -, rfl⟩ := of_compile h
    exact length_encode_le hcheck
  | deserialize blob h => exact (deserialize_eq_ok_iff.1 h).1.name_le

/-! ### Which field has changed -/

theorem length_sealedPayload (u : CompiledUnit) :
    u.sealedPayload.length = 4 + (digestLength + u.payload.length) := by
  simp [sealedPayload]

/-- The digest tells whether a byte of the payload was changed to `x`. -/
def TellsPayload (u : CompiledUnit) (x : UInt8) : Prop :=
  ∀ j, u.payload.set j x ≠ u.payload → Sha256.digest (u.payload.set j x) ≠ Sha256.digest u.payload

/-- **Behind the name no change goes undetected.** -/
theorem sealedPayload_eq_of_set (hdigest : u.TellsPayload x) {j : Nat}
    (h : u'.sealedPayload = u.sealedPayload.set j x) : u'.sealedPayload = u.sealedPayload := by
  have hlength : u'.payload.length = u.payload.length := by
    have hlengths := congrArg List.length h
    rw [List.length_set, length_sealedPayload, length_sealedPayload] at hlengths
    omega
  have hsum : littleEndian 4 u'.payload.length = littleEndian 4 u.payload.length := by rw [hlength]
  obtain ⟨-, -, hrest⟩ | ⟨-, -, hrest⟩ := append_eq_set h (by rw [hsum])
  · rw [sealedPayload, hsum, hrest, sealedPayload]
  · have hdigests :
        (Sha256.digest u'.payload).toList.length = (Sha256.digest u.payload).toList.length :=
      by rw [Vector.length_toList, Vector.length_toList]
    obtain ⟨-, -, hpayload⟩ | ⟨-, hsame, hpayload⟩ := append_eq_set hrest hdigests
    · rw [sealedPayload, hpayload, sealedPayload]
    · -- the digest is the old one, so the payload is
      have hunchanged : u'.payload = u.payload := by
        by_contra hne
        rw [hpayload] at hne hsame
        exact hdigest _ hne (Vector.toList_inj.1 hsame)
      rw [sealedPayload, hunchanged, sealedPayload]

/-- Names of the same length have the same length bytes, and the other way round. -/
theorem nameLength_eq_of_littleEndian (hu : u.nameLength ≤ 65535) (hu' : u'.nameLength ≤ 65535)
    (h : littleEndian 2 u'.nameLength = littleEndian 2 u.nameLength) :
    u'.nameLength = u.nameLength := by
  have hread := congrArg ofLittleEndian h
  rwa [ofLittleEndian_littleEndian (Nat.lt_succ_of_le hu'),
    ofLittleEndian_littleEndian (Nat.lt_succ_of_le hu)] at hread

/-- The payload is what stands behind the name. -/
theorem payload_eq_of_sealedPayload (h : u'.sealedPayload = u.sealedPayload) :
    u'.payload = u.payload := by
  have hlength : u'.payload.length = u.payload.length := by
    have hlengths := congrArg List.length h
    rw [length_sealedPayload, length_sealedPayload] at hlengths
    omega
  have hrest := List.append_inj_right h (by rw [length_littleEndian, length_littleEndian])
  exact List.append_inj_right hrest (by rw [Vector.length_toList, Vector.length_toList])

theorem kind_eq_of_toByte (h : u'.kind.toByte = u.kind.toByte) : u'.kind = u.kind := by
  have hkind := UnitKind.ofByte?_toByte u'.kind
  rw [h, UnitKind.ofByte?_toByte] at hkind
  exact (Option.some.inj hkind).symm

theorem name_eq_of_encode (h : Utf8.encode u'.name = Utf8.encode u.name) : u'.name = u.name := by
  have hname := Utf8.decode?_encode u'.name
  rw [h, Utf8.decode?_encode] at hname
  exact (Option.some.inj hname).symm

/-- What the unit that a changed blob is read as has to do with the old one. -/
inductive Reread (u u' : CompiledUnit) (i : Nat) (x : UInt8) : Prop
  | kind (hi : i = kindAt) (hkind : u'.kind.toByte = x) (hname : u'.name = u.name)
    (hpayload : u'.payload = u.payload)
  | nameLength (hi : nameLengthAt ≤ i ∧ i < nameAt) (hkind : u'.kind = u.kind)
    (hlength : littleEndian 2 u'.nameLength =
      (littleEndian 2 u.nameLength).set (i - nameLengthAt) x)
    (hrest : Utf8.encode u'.name ++ u'.sealedPayload = Utf8.encode u.name ++ u.sealedPayload)
  | name (hi : nameAt ≤ i ∧ i < nameAt + u.nameLength) (hkind : u'.kind = u.kind)
    (hname : Utf8.encode u'.name = (Utf8.encode u.name).set (i - nameAt) x)
    (hpayload : u'.payload = u.payload)

/-- **A changed blob that is still read** has changed in its kind or its name. -/
theorem cases_of_deserialize_set (hname : u.nameLength ≤ 65535) (hdigest : u.TellsPayload x)
    (hchange : u.serialize.set i x ≠ u.serialize)
    (h : deserialize (u.serialize.set i x) = .ok u') : Reread u u' i x := by
  obtain ⟨hfits, hserialize⟩ := deserialize_eq_ok_iff.1 h
  rw [← hserialize] at hchange
  rw [u.serialize_eq, u'.serialize_eq] at hserialize hchange
  have hnames (hsame : littleEndian 2 u'.nameLength = littleEndian 2 u.nameLength) :
      (Utf8.encode u'.name).length = (Utf8.encode u.name).length :=
    nameLength_eq_of_littleEndian hname hfits.name_le hsame
  -- the field of the changed byte is looked for from the front: the blobs agree up to it
  have hplaces : kindAt = 5 ∧ nameLengthAt = 30 ∧ nameAt = 32 ∧
    ((Utf8.encode engineTag).length.toUInt8 :: Utf8.encode engineTag).length = 24 := by decide
  obtain ⟨-, -, hrest⟩ | ⟨hi₀, -, hrest⟩ := append_eq_set hserialize rfl
  · exact absurd (by rw [hrest]) hchange
  change 5 ≤ i at hi₀
  obtain ⟨hi, hkind, hrest⟩ | ⟨hi₁, hkind, hrest⟩ := append_eq_set hrest rfl
  · -- the kind
    change i - 5 < 1 at hi
    have hi : i = kindAt := by omega
    rw [hi] at hkind
    obtain ⟨hlengths, hrest⟩ := List.append_inj (List.append_cancel_left hrest)
      (by rw [length_littleEndian, length_littleEndian])
    obtain ⟨hbytes, hsealed⟩ := List.append_inj hrest (hnames hlengths)
    exact .kind hi (List.singleton_inj.1 hkind) (name_eq_of_encode hbytes)
      (payload_eq_of_sealedPayload hsealed)
  change 1 ≤ i - 5 at hi₁
  have hkind : u'.kind = u.kind := kind_eq_of_toByte (List.singleton_inj.1 hkind)
  obtain ⟨-, -, hrest⟩ | ⟨hi₂, -, hrest⟩ := append_eq_set hrest rfl
  · exact absurd (by rw [hkind, hrest]) hchange
  have hplace : i - (blobMagic ++ [layoutVersion]).length - [u.kind.toByte].length -
      ((Utf8.encode engineTag).length.toUInt8 :: Utf8.encode engineTag).length =
        i - nameLengthAt := by
    rw [hplaces.2.2.2, hplaces.2.1]
    change i - 5 - 1 - 24 = i - 30
    omega
  rw [hplaces.2.2.2] at hi₂
  rw [hplace] at hrest
  change 24 ≤ i - 5 - 1 at hi₂
  obtain ⟨hi, hlengths, hrest⟩ | ⟨hi₃, hlengths, hrest⟩ := append_eq_set hrest
    (by rw [length_littleEndian, length_littleEndian])
  · -- the length of the name
    rw [length_littleEndian] at hi
    exact .nameLength (by omega) hkind hlengths hrest
  rw [length_littleEndian] at hi₃ hrest
  obtain ⟨hi, hbytes, hsealed⟩ | ⟨hi₄, hbytes, hsealed⟩ := append_eq_set hrest (hnames hlengths)
  · -- the name
    have hplace : i - nameLengthAt - 2 = i - nameAt := by omega
    rw [hplace] at hbytes
    have hi : i - nameLengthAt - 2 < u.nameLength := hi
    exact .name (by omega) hkind hbytes (payload_eq_of_sealedPayload hsealed)
  · refine absurd ?_ hchange
    rw [hkind, hlengths, hbytes, sealedPayload_eq_of_set hdigest hsealed]

/-- What stands in the blob of a unit in front of the length of its name. -/
def front (u : CompiledUnit) : List UInt8 :=
  (blobMagic ++ [layoutVersion]) ++ ([u.kind.toByte] ++
    ((Utf8.encode engineTag).length.toUInt8 :: Utf8.encode engineTag))

theorem length_front (u : CompiledUnit) : u.front.length = nameLengthAt := by
  simp only [front, nameLengthAt, List.length_append, List.length_cons, List.length_nil]
  omega

theorem serialize_eq_front (u : CompiledUnit) : u.serialize =
    u.front ++ (littleEndian 2 u.nameLength ++ (Utf8.encode u.name ++ u.sealedPayload)) := by
  simp only [serialize_eq, front, List.append_assoc]

/-- The payload can be told from the blob. -/
theorem payload_eq_of_serialize (hu : u.nameLength ≤ 65535) (hu' : u'.nameLength ≤ 65535)
    (h : u'.serialize = u.serialize) : u'.payload = u.payload := by
  rw [u.serialize_eq_front, u'.serialize_eq_front] at h
  have hrest := List.append_inj_right h (by rw [length_front, length_front])
  obtain ⟨hlengths, hrest⟩ := List.append_inj hrest
    (by rw [length_littleEndian, length_littleEndian])
  have hnames := nameLength_eq_of_littleEndian hu hu' hlengths
  exact payload_eq_of_sealedPayload (List.append_inj_right hrest hnames)

/-- **Such a changed blob is that of another unit**, and nothing in it tells of the change. -/
theorem serialize_eq_set_of_reread (h : Reread u u' i x) : u'.serialize = u.serialize.set i x := by
  cases h with
  | kind hi hkind hname hpayload =>
    have hrest : u'.nameLength = u.nameLength ∧ u'.sealedPayload = u.sealedPayload :=
      ⟨by rw [nameLength, hname, nameLength], by rw [sealedPayload, hpayload, sealedPayload]⟩
    rw [u.serialize_eq, u'.serialize_eq, set_append_append (by rw [hi]; exact Nat.le_refl _)
      (by rw [hi]; exact Nat.lt_succ_self _), hi, hkind, hname, hrest.1, hrest.2]
    rfl
  | nameLength hi hkind hlength hrest =>
    have hfront : u'.front = u.front := by rw [front, hkind, front]
    have hplace : nameAt = nameLengthAt + 2 := rfl
    rw [u.serialize_eq_front, u'.serialize_eq_front,
      set_append_append (by rw [length_front]; exact hi.1)
        (by rw [length_front, length_littleEndian]; omega), length_front, hfront, hlength, hrest]
  | name hi hkind hname hpayload =>
    have hfront : u'.front = u.front := by rw [front, hkind, front]
    have hlength : u'.nameLength = u.nameLength := by
      rw [nameLength, hname, List.length_set, nameLength]
    have hplace : (u.front ++ littleEndian 2 u.nameLength).length = nameAt := by
      rw [List.length_append, length_front, length_littleEndian]
      rfl
    rw [u.serialize_eq_front, u'.serialize_eq_front, ← List.append_assoc u.front,
      ← List.append_assoc u'.front, set_append_append (by rw [hplace]; exact hi.1)
        (by rw [hplace]; exact hi.2), hplace, hfront, hlength, hname, sealedPayload, hpayload,
      sealedPayload]

/-! ### What is detected -/

/-- Nothing comes of a blob that is not read, whatever it is given to. -/
structure Refused (blob : List UInt8) (e : BridgeError) (b : Bridge) : Prop where
  registerModule : exec (BridgeM.registerModule blob) b = (.error e, b)
  evalBlob : exec (BridgeM.evalBlob blob) b = (.error e, b)
  loadBlob : exec (BridgeM.loadBlob blob) b = (.error e, b)

theorem refused_of_deserialize {blob : List UInt8} {e : BridgeError}
    (h : deserialize blob = .error e) (b : Bridge) : Refused blob e b where
  registerModule := by rw [BridgeM.registerModule, h, exec_throw]
  evalBlob := by rw [BridgeM.evalBlob, h, exec_throw]
  loadBlob := by rw [BridgeM.loadBlob, h, exec_throw]

/-- What is not read is refused as a blob. -/
theorem deserialize_eq_error (blob : List UInt8) (h : ∀ u, deserialize blob ≠ .ok u) :
    ∃ fault, deserialize blob = .error (.deserialize fault) := by
  unfold deserialize at h ⊢
  split
  · exact absurd (by rename_i hdecode; rw [hdecode]) (h _)
  · exact ⟨_, rfl⟩

/-- **Which changes of a byte are detected.**  A changed blob is read exactly where it is the blob
of another unit: one of the other kind, one with a name of the same length that differs in this
byte, or one in which name and payload are cut apart at another place, with a digest that is right
for this.  In every other case, and so for every change outside the kind, the length of the name and
the name, the blob is refused, and the bridge stays as it was. -/
theorem changes_detected (u : CompiledUnit) (hu : Made u) (i : Nat) (x : UInt8)
    (hchange : u.serialize.set i x ≠ u.serialize) (hdigest : u.TellsPayload x) :
    (∀ u', deserialize (u.serialize.set i x) = .ok u' ↔
      Fits u'.name u'.payload ∧ Reread u u' i x) ∧
    (i ≠ kindAt → i < nameLengthAt ∨ nameAt + u.nameLength ≤ i →
      ∃ fault, deserialize (u.serialize.set i x) = .error (.deserialize fault)) ∧
    ∀ e, deserialize (u.serialize.set i x) = .error e → ∀ b, Refused (u.serialize.set i x) e b := by
  have hread (u' : CompiledUnit) : deserialize (u.serialize.set i x) = .ok u' ↔
      Fits u'.name u'.payload ∧ Reread u u' i x :=
    ⟨fun h => ⟨(deserialize_eq_ok_iff.1 h).1,
        cases_of_deserialize_set hu.nameLength_le hdigest hchange h⟩,
      fun h => deserialize_eq_ok_iff.2 ⟨h.1, serialize_eq_set_of_reread h.2⟩⟩
  refine ⟨hread, fun hkind houtside => deserialize_eq_error _ fun u' h => ?_,
    fun e h b => refused_of_deserialize h b⟩
  have hplace : nameAt = nameLengthAt + 2 := rfl
  cases ((hread u').1 h).2 with
  | kind hi => exact hkind hi
  | nameLength hi => omega
  | name hi => omega

/-- A change of the last byte of a unit, which is in the payload. -/
theorem changes_detected_payload :
    Made ⟨"a.js", .script, [0]⟩ ∧
      (serialize ⟨"a.js", .script, [0]⟩).set 72 1 ≠ serialize ⟨"a.js", .script, [0]⟩ ∧
      TellsPayload ⟨"a.js", .script, [0]⟩ 1 ∧
      ∃ fault, deserialize ((serialize ⟨"a.js", .script, [0]⟩).set 72 1) =
        .error (.deserialize fault) := by
  have hmade : Made ⟨"a.js", .script, [0]⟩ :=
    .deserialize _ (deserialize_eq_ok_iff.2 ⟨⟨by decide, by decide⟩, rfl⟩)
  have hchange :
      (serialize ⟨"a.js", .script, [0]⟩).set 72 1 ≠ serialize ⟨"a.js", .script, [0]⟩ := by
    decide +kernel
  have hdigest : TellsPayload ⟨"a.js", .script, [0]⟩ 1 := by
    rintro (_ | j) h
    · have hdigests : Sha256.digest [1] ≠ Sha256.digest [0] := by decide +kernel
      exact hdigests
    · exact absurd rfl h
  exact ⟨hmade, hchange, hdigest,
    (changes_detected ⟨"a.js", .script, [0]⟩ hmade 72 1 hchange hdigest).2.1 (by decide)
      (by decide)⟩

/-- A payload in which a longer name can end: behind the last bytes of that name it has the length
and the digest of an empty payload. -/
def payloadInName : List UInt8 :=
  [109, 107, 97, 99, 112, 101, 0, 0, 0, 0, 227, 176, 196, 66, 152, 252, 28, 20, 154, 251, 244, 200,
    153, 111, 185, 36, 39, 174, 65, 228, 100, 155, 147, 76, 164, 149, 153, 27, 120, 82, 184, 85]

/-- **Changes that are not detected.**  The blob of a script becomes that of a module, or that of a
script of another name; and where the payload was made for it, a blob becomes that of a script with
a longer name. -/
theorem changes_undetected :
    (∃ u, compile "a.js" "1" .script = .ok u ∧
      (u.serialize.set 5 1 ≠ u.serialize ∧
        deserialize (u.serialize.set 5 1) = .ok { u with kind := .module }) ∧
      u.serialize.set 32 98 ≠ u.serialize ∧
        deserialize (u.serialize.set 32 98) = .ok { u with name := "b.js" }) ∧
    (serialize ⟨"a", .script, payloadInName⟩).set 30 43 ≠ serialize ⟨"a", .script, payloadInName⟩ ∧
      (deserialize ((serialize ⟨"a", .script, payloadInName⟩).set 30 43)).isOk = true := by
  have hchange (u : CompiledUnit) (i : Nat) (x y : UInt8) (h : u.serialize[i]? = some y)
      (hne : x ≠ y) : u.serialize.set i x ≠ u.serialize := by
    intro hsame
    have hi := (List.getElem?_eq_some_iff.1 h).1
    rw [← hsame, List.getElem?_set_self hi] at h
    exact hne (Option.some.inj h)
  have hread {u u' : CompiledUnit} {i : Nat} {x : UInt8} (hfits : Fits u'.name u'.payload)
      (h : Reread u u' i x) : deserialize (u.serialize.set i x) = .ok u' :=
    deserialize_eq_ok_iff.2 ⟨hfits, serialize_eq_set_of_reread h⟩
  obtain ⟨payload, hpayload⟩ : ∃ p, p = Script.Payload.encode ⟨.script, "a.js", "1"⟩ := ⟨_, rfl⟩
  have hlength : payload.length < 2 ^ 32 := by
    rw [hpayload]
    decide
  have ha : (Utf8.encode "a.js").length ≤ 65535 := by decide
  have hb : (Utf8.encode "b.js").length ≤ 65535 := by decide
  have hplace : nameAt ≤ 32 ∧ 32 < nameAt + (Utf8.encode "a.js").length := by decide
  have hset : Utf8.encode "b.js" = (Utf8.encode "a.js").set (32 - nameAt) 98 := by decide
  refine ⟨⟨⟨"a.js", .script, payload⟩, ?_,
    ⟨hchange _ 5 1 0 (by rw [serialize_eq]; rfl) (by decide),
      hread ⟨ha, hlength⟩ (.kind rfl rfl rfl rfl)⟩,
    hchange _ 32 98 97 (by rw [serialize_eq]; rfl) (by decide),
    hread ⟨hb, hlength⟩ (.name hplace rfl hset rfl)⟩,
    hchange _ 30 43 1 (by rw [serialize_eq]; rfl) (by decide), by decide +kernel⟩
  rw [hpayload]
  decide

end CompiledUnit

end ScriptBridge
