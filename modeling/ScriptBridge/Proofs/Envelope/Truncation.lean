import ScriptBridge.Proofs.Envelope.RoundTrip

/-!
# Blobs that end too early

What the reading of a blob says of the blobs that this one is a beginning of.  Every reader of a
field goes forward (`Cursor.Forward`): what it reads does not depend on what stands behind it, and
where the blob ends inside the field it says at which place and how many bytes are missing.  This is
proved once for taking bytes and for two readers one behind the other, so it holds of a whole
header.

* `Envelope.Cursor.forward_takeHeader` : the header as a whole is read going forward.
* `Envelope.decodeWith_append_of_truncated` : as long as bytes are missing, adding some lowers their
  number; once they are there, nothing is reported at that place any more.
* `Envelope.cutsRefused_of_decodeWith` : what the beginnings of an accepted blob, and the blobs that
  begin with it, are refused as.
* `Envelope.decodeStrictly_eq` : reading byte by byte, with no answer where a read goes past the end
  of the blob, is the same function.
* `Envelope.missing_bytes_reported` : **what is missing is reported precisely**, for every blob.
-/

namespace ScriptBridge

namespace Envelope

/-! ### Readers that go forward -/

namespace Cursor

/-- The same place, in a blob that goes on with `more`. -/
def followedBy (c : Cursor) (more : List UInt8) : Cursor := ⟨c.offset, c.rest ++ more⟩

/-- The place behind the last byte. -/
def ending (c : Cursor) : Nat := c.offset + c.rest.length

/-- A reader that has got past the place `o`, or found something wrong with what is there. -/
def Past {α : Type} (o : Nat) : Except BlobFault (α × Cursor) → Prop
  | .ok (_, c) => o < c.offset
  | .error (.truncated o' _) => o < o'
  | .error _ => True

/-- A reader that looks at no more bytes than it takes, and that reports the missing ones. -/
structure Forward {α : Type} (read : Cursor → Except BlobFault (α × Cursor)) : Prop where
  /-- What is read stands in front of the rest, and is the same in front of any other. -/
  of_ok : ∀ {c c' : Cursor} {a : α}, read c = .ok (a, c') →
    ∃ taken, c.rest = taken ++ c'.rest ∧
      ∀ rest, read ⟨c.offset, taken ++ rest⟩ = .ok (a, ⟨c.offset + taken.length, rest⟩)
  /-- What is wrong with the bytes that are there stays wrong. -/
  of_fault : ∀ {c : Cursor} {f : BlobFault}, read c = .error f → (∀ o k, f ≠ .truncated o k) →
    ∀ more, read (c.followedBy more) = .error f
  /-- A place that is reported lies in the blob, and bytes are missing there. -/
  bounds : ∀ {c : Cursor} {o k : Nat}, read c = .error (.truncated o k) →
    c.offset ≤ o ∧ o ≤ c.ending ∧ 1 ≤ k
  of_fewer : ∀ {c : Cursor} {o k : Nat}, read c = .error (.truncated o k) →
    ∀ more, more.length < k → read (c.followedBy more) = .error (.truncated o (k - more.length))
  of_enough : ∀ {c : Cursor} {o k : Nat}, read c = .error (.truncated o k) →
    ∀ more, k ≤ more.length → Past o (read (c.followedBy more))

namespace Forward

variable {α β : Type} {read : Cursor → Except BlobFault (α × Cursor)}

theorem of_ok_rest (hread : Forward read) {c c' : Cursor} {a : α} (h : read c = .ok (a, c')) :
    c.offset ≤ c'.offset ∧ c'.ending = c.ending ∧
      ∀ more, read (c.followedBy more) = .ok (a, c'.followedBy more) := by
  obtain ⟨taken, hrest, hsame⟩ := hread.of_ok h
  have hc : c = ⟨c.offset, taken ++ c'.rest⟩ := by rw [← hrest]
  have hc' : c' = ⟨c.offset + taken.length, c'.rest⟩ := by
    have hself := hsame c'.rest
    rw [← hc, h] at hself
    exact (Prod.mk.inj (Except.ok.inj hself)).2
  have hoffset : c'.offset = c.offset + taken.length := congrArg offset hc'
  refine ⟨by omega, ?_, fun more => ?_⟩
  · rw [ending, ending, hrest, hoffset, List.length_append]
    omega
  · rw [followedBy, hrest, List.append_assoc, hsame, followedBy, hoffset]

theorem past_of_lt (hread : Forward read) {c : Cursor} {o : Nat} (ho : o < c.offset) :
    Past o (read c) := by
  rcases hc : read c with f | ⟨a, c'⟩
  · cases f with
    | truncated o' k => exact Nat.lt_of_lt_of_le ho (hread.bounds hc).1
    | _ => trivial
  · exact Nat.lt_of_lt_of_le ho (hread.of_ok_rest hc).1

protected theorem pure (a : α) : Forward fun c => .ok (a, c) where
  of_ok h := by cases h; exact ⟨[], rfl, fun rest => rfl⟩
  of_fault h := by cases h
  bounds h := by cases h
  of_fewer h := by cases h
  of_enough h := by cases h

/-- What is wrong with something that was read before. -/
protected theorem fail {f : BlobFault} (hf : ∀ o k, f ≠ .truncated o k) :
    Forward fun _ => (.error f : Except BlobFault (α × Cursor)) where
  of_ok h := by cases h
  of_fault h _ _ := h
  bounds h := absurd (Except.error.inj h) (hf _ _)
  of_fewer h := absurd (Except.error.inj h) (hf _ _)
  of_enough h := absurd (Except.error.inj h) (hf _ _)

/-- Taking bytes goes forward. -/
protected theorem take (n : Nat) : Forward (Cursor.take · n) where
  of_ok {c c' bytes} h := by
    obtain ⟨hlength, hrest⟩ := take_eq_ok h
    exact ⟨bytes, hrest, fun rest => hlength ▸ take_append c.offset rfl⟩
  of_fault {c f} h hf := by
    unfold Cursor.take at h
    split_ifs at h
    cases h
    exact absurd rfl (hf _ _)
  bounds {c o k} h := by
    unfold Cursor.take at h
    split_ifs at h with hlt
    cases h
    exact ⟨le_rfl, Nat.le_add_right _ _, by omega⟩
  of_fewer {c o k} h more hmore := by
    unfold Cursor.take at h ⊢
    split_ifs at h with hlt
    cases h
    have hmissing : (c.followedBy more).rest.length < n := by
      rw [followedBy, List.length_append]
      omega
    rw [if_pos hmissing, followedBy, List.length_append, Nat.sub_sub]
  of_enough {c o k} h more hmore := by
    unfold Cursor.take at h ⊢
    split_ifs at h with hlt
    cases h
    have hthere : ¬ (c.followedBy more).rest.length < n := by
      rw [followedBy, List.length_append]
      omega
    rw [if_neg hthere]
    exact Nat.lt_add_of_pos_right (Nat.zero_lt_of_lt hlt)

/-- **Two readers one behind the other.**  Where the first has got past a place, so has the
second. -/
protected theorem bind (hread : Forward read) (next : α → Cursor → Except BlobFault (β × Cursor))
    (hnext : ∀ a, Forward (next a)) : Forward fun c => read c >>= fun p => next p.1 p.2 where
  of_ok {c c' b} h := by
    obtain ⟨⟨a, c₁⟩, h₁, h₂⟩ := bind_eq_ok.1 h
    obtain ⟨taken₁, hrest₁, hsame₁⟩ := hread.of_ok h₁
    obtain ⟨taken₂, hrest₂, hsame₂⟩ := (hnext a).of_ok h₂
    have hoffset : c₁.offset = c.offset + taken₁.length := by
      have hself := hsame₁ c₁.rest
      rw [← hrest₁, h₁] at hself
      exact congrArg (fun x => x.2.offset) (Except.ok.inj hself)
    refine ⟨taken₁ ++ taken₂, by rw [hrest₁, hrest₂, List.append_assoc], fun rest => ?_⟩
    rw [List.append_assoc, hsame₁, ok_bind, ← hoffset, hsame₂, hoffset, List.length_append,
      Nat.add_assoc]
  of_fault {c f} h hf more := by
    rcases h₁ : read c with f₁ | ⟨a, c₁⟩
    · rw [h₁] at h
      cases h
      rw [hread.of_fault h₁ hf more]
      rfl
    · rw [h₁, ok_bind] at h
      rw [(hread.of_ok_rest h₁).2.2 more, ok_bind]
      exact (hnext a).of_fault h hf more
  bounds {c o k} h := by
    rcases h₁ : read c with f₁ | ⟨a, c₁⟩
    · rw [h₁] at h
      cases h
      exact hread.bounds h₁
    · rw [h₁, ok_bind] at h
      obtain ⟨hle, hending, -⟩ := hread.of_ok_rest h₁
      obtain ⟨hlower, hupper, hk⟩ := (hnext a).bounds h
      exact ⟨hle.trans hlower, hending ▸ hupper, hk⟩
  of_fewer {c o k} h more hmore := by
    rcases h₁ : read c with f₁ | ⟨a, c₁⟩
    · rw [h₁] at h
      cases h
      rw [hread.of_fewer h₁ more hmore]
      rfl
    · rw [h₁, ok_bind] at h
      rw [(hread.of_ok_rest h₁).2.2 more, ok_bind]
      exact (hnext a).of_fewer h more hmore
  of_enough {c o k} h more hmore := by
    rcases h₁ : read c with f₁ | ⟨a, c₁⟩
    · rw [h₁] at h
      cases h
      -- the first reader goes on past `o` now, and the second one starts behind it
      have hpast := hread.of_enough h₁ more hmore
      rcases h₂ : read (c.followedBy more) with f₂ | ⟨a, c₂⟩
      · cases f₂ with
        | truncated o' k' => rwa [h₂] at hpast
        | _ => trivial
      · rw [h₂] at hpast
        exact (hnext a).past_of_lt hpast
    · rw [h₁, ok_bind] at h
      rw [(hread.of_ok_rest h₁).2.2 more, ok_bind]
      exact (hnext a).of_enough h more hmore

end Forward

/-! ### The header of a blob -/

/-- The bytes of a name, once they were taken. -/
def judgeName (bytes : List UInt8) (c : Cursor) : Except BlobFault (String × Cursor) :=
  match Utf8.decode? bytes with
  | some s => .ok (s, c)
  | none => .error .badName

theorem forward_takeName (n : Nat) : Forward (takeName · n) := by
  refine (Forward.take n).bind judgeName fun bytes => ?_
  unfold judgeName
  cases Utf8.decode? bytes with
  | some s => exact .pure s
  | none => exact .fail (by simp)

theorem forward_takeEngine (n : Nat) : Forward (takeEngine · n) := by
  refine (forward_takeName n).bind (fun tag c =>
    if tag ≠ engineTag then .error (.foreignEngine tag) else .ok (tag, c)) fun tag => ?_
  split_ifs
  · exact .fail (by simp)
  · exact .pure tag

theorem forward_takeUnitName : Forward takeUnitName :=
  (Forward.take 2).bind (fun length c => c.takeName (ofLittleEndian length)) fun _ =>
    forward_takeName _

theorem forward_takeSum : Forward takeSum :=
  (Forward.take 4).bind (fun length c => c.take digestLength >>= fun p =>
    .ok ((ofLittleEndian length, p.1), p.2)) fun length =>
      (Forward.take digestLength).bind (fun sum c => .ok ((ofLittleEndian length, sum), c))
      fun sum =>
        .pure (ofLittleEndian length, sum)

/-- The three bytes behind the first four: three are there once they were taken. -/
def judgeKind (fixed : List UInt8) (c : Cursor) : Except BlobFault ((UnitKind × Nat) × Cursor) :=
  match fixed with
  | version :: kindByte :: tagLength :: _ =>
    if version ≠ layoutVersion then .error (.unsupportedLayout version)
    else
      match UnitKind.ofByte? kindByte with
      | some kind => .ok ((kind, tagLength.toNat), c)
      | none => .error (.unknownKind kindByte)
  | _ => .error .badMagic

theorem takeKind_eq (c : Cursor) : c.takeKind = c.take 3 >>= fun p => judgeKind p.1 p.2 := by
  unfold takeKind
  rcases h : c.take 3 with f | ⟨fixed, next⟩
  · rfl
  · obtain ⟨hlength, -⟩ := take_eq_ok h
    match fixed, hlength with
    | [version, kindByte, tagLength], _ => rfl

theorem forward_takeKind : Forward takeKind := by
  rw [show takeKind = _ from funext takeKind_eq]
  refine (Forward.take 3).bind judgeKind fun fixed => ?_
  unfold judgeKind
  split
  · rename_i version kindByte tagLength rest
    split_ifs
    · exact .fail (by simp)
    · cases UnitKind.ofByte? kindByte with
      | some kind => exact .pure (kind, tagLength.toNat)
      | none => exact .fail (by simp)
  · exact .fail (by simp)

/-- All fields behind the first four bytes and before the payload. -/
def takeHeader (c : Cursor) : Except BlobFault (UnitHeader × Cursor) := do
  let ((kind, tagLength), c) ← c.takeKind
  let (tag, c) ← c.takeEngine tagLength
  let (name, c) ← c.takeUnitName
  let ((declared, sum), c) ← c.takeSum
  .ok (⟨name, kind, tag, declared, sum⟩, c)

/-- **The header as a whole is read going forward.** -/
theorem forward_takeHeader : Forward takeHeader := by
  refine forward_takeKind.bind (fun fixed c => do
    let (tag, c) ← c.takeEngine fixed.2
    let (name, c) ← c.takeUnitName
    let (sum, c) ← c.takeSum
    .ok ((⟨name, fixed.1, tag, sum.1, sum.2⟩ : UnitHeader), c)) fun fixed => ?_
  refine (forward_takeEngine fixed.2).bind (fun tag c => do
    let (name, c) ← c.takeUnitName
    let (sum, c) ← c.takeSum
    .ok ((⟨name, fixed.1, tag, sum.1, sum.2⟩ : UnitHeader), c)) fun tag => ?_
  refine forward_takeUnitName.bind (fun name c => do
    let (sum, c) ← c.takeSum
    .ok ((⟨name, fixed.1, tag, sum.1, sum.2⟩ : UnitHeader), c)) fun name => ?_
  exact forward_takeSum.bind (fun sum c =>
    .ok ((⟨name, fixed.1, tag, sum.1, sum.2⟩ : UnitHeader), c)) fun sum => .pure _

end Cursor

/-! ### Beginnings of a blob -/

section

variable {digest : DigestFunction} {blob more payload : List UInt8} {header : UnitHeader}

/-- Whether what stands behind a header is the payload that this one describes. -/
def judgePayload (digest : DigestFunction) (header : UnitHeader) (payload : List UInt8) :
    Except BlobFault (UnitHeader × List UInt8) :=
  if payload.length ≠ header.payloadLength then
    .error (.wrongLength header.payloadLength payload.length)
  else if (digest payload).toList ≠ header.digest then .error .wrongDigest
  else .ok (header, payload)

/-- The cursor behind the first four bytes. -/
def behindMagic (blob : List UInt8) : Cursor := ⟨4, blob.drop 4⟩

theorem decodeWith_eq_badMagic (h : blob.take 4 ≠ blobMagic) :
    decodeWith digest blob = .error .badMagic := by
  rw [decodeWith, if_pos h]

theorem decodeWith_eq_judge (h : blob.take 4 = blobMagic) :
    decodeWith digest blob =
      (behindMagic blob).takeHeader >>= fun p => judgePayload digest p.1 p.2.rest := by
  rw [decodeWith, if_neg (not_not.2 h), Cursor.takeHeader]
  simp only [bind_assoc]
  rfl

theorem judgePayload_ne_truncated (o k : Nat) :
    judgePayload digest header payload ≠ .error (.truncated o k) := by
  unfold judgePayload
  split_ifs <;> simp

theorem judgePayload_eq_ok {r : UnitHeader × List UInt8}
    (h : judgePayload digest header payload = .ok r) :
    payload.length = header.payloadLength ∧ r = (header, payload) := by
  unfold judgePayload at h
  split_ifs at h with hlength
  exact ⟨not_not.1 hlength, (Except.ok.inj h).symm⟩

/-- A blob in which bytes are missing starts right, and they are missing in the header. -/
theorem takeHeader_of_truncated {o k : Nat} (h : decodeWith digest blob = .error (.truncated o k)) :
    blob.take 4 = blobMagic ∧
      (behindMagic blob).takeHeader = .error (.truncated o k) := by
  by_cases hmagic : blob.take 4 = blobMagic
  · refine ⟨hmagic, ?_⟩
    rw [decodeWith_eq_judge hmagic] at h
    rcases hheader : (behindMagic blob).takeHeader with f | ⟨header, c⟩
    · rw [hheader] at h
      cases h
      rfl
    · -- a payload that is too short is reported by its length
      rw [hheader, ok_bind] at h
      exact absurd h (judgePayload_ne_truncated o k)
  · rw [decodeWith_eq_badMagic hmagic] at h
    cases h

theorem length_of_take_eq_blobMagic (h : blob.take 4 = blobMagic) : 4 ≤ blob.length := by
  have hlength := congrArg List.length h
  rw [List.length_take] at hlength
  have : blobMagic.length = 4 := rfl
  omega

theorem take_append_of_magic (h : blob.take 4 = blobMagic) : (blob ++ more).take 4 = blobMagic := by
  rw [List.take_append_of_le_length (length_of_take_eq_blobMagic h), h]

theorem behindMagic_append (h : blob.take 4 = blobMagic) :
    behindMagic (blob ++ more) = (behindMagic blob).followedBy more := by
  rw [behindMagic, List.drop_append_of_le_length (length_of_take_eq_blobMagic h)]
  rfl

/-- **What a blob that ends too early says of the longer ones.** -/
theorem decodeWith_append_of_truncated {o k : Nat}
    (h : decodeWith digest blob = .error (.truncated o k)) (more : List UInt8) :
    (more.length < k →
      decodeWith digest (blob ++ more) = .error (.truncated o (k - more.length))) ∧
    (k ≤ more.length → ∀ k', decodeWith digest (blob ++ more) ≠ .error (.truncated o k')) := by
  obtain ⟨hmagic, hheader⟩ := takeHeader_of_truncated h
  rw [decodeWith_eq_judge (take_append_of_magic hmagic), behindMagic_append hmagic]
  constructor
  · intro hfewer
    rw [Cursor.forward_takeHeader.of_fewer hheader more hfewer]
    rfl
  · intro henough k' hsame
    have hpast := Cursor.forward_takeHeader.of_enough hheader more henough
    rcases hlonger : ((behindMagic blob).followedBy more).takeHeader with f | ⟨header, c⟩
    · rw [hlonger] at hpast hsame
      cases hsame
      exact Nat.lt_irrefl o hpast
    · rw [hlonger, ok_bind] at hsame
      exact judgePayload_ne_truncated o k' hsame

theorem bounds_of_truncated {o k : Nat} (h : decodeWith digest blob = .error (.truncated o k)) :
    o ≤ blob.length ∧ 1 ≤ k := by
  obtain ⟨hmagic, hheader⟩ := takeHeader_of_truncated h
  obtain ⟨-, hupper, hk⟩ := Cursor.forward_takeHeader.bounds hheader
  have hlength := length_of_take_eq_blobMagic hmagic
  have hending : (behindMagic blob).ending = 4 + (blob.length - 4) := by
    rw [Cursor.ending, behindMagic, List.length_drop]
  exact ⟨by omega, hk⟩

/-! ### Around an accepted blob -/

/-- **The header of an accepted blob** is read by itself, in front of anything. -/
theorem exists_front_of_decodeWith (h : decodeWith digest blob = .ok (header, payload)) :
    ∃ front, blob = front ++ payload ∧ front.take 4 = blobMagic ∧
      header.payloadLength = payload.length ∧
      ∀ rest, (behindMagic (front ++ rest)).takeHeader = .ok (header, ⟨front.length, rest⟩) := by
  by_cases hmagic : blob.take 4 = blobMagic
  · rw [decodeWith_eq_judge hmagic] at h
    obtain ⟨⟨found, c⟩, hheader, hjudge⟩ := bind_eq_ok.1 h
    obtain ⟨hlength, hpair⟩ := judgePayload_eq_ok hjudge
    cases hpair
    obtain ⟨taken, hrest, hsame⟩ := Cursor.forward_takeHeader.of_ok hheader
    refine ⟨blobMagic ++ taken, ?_, rfl, hlength.symm, fun rest => ?_⟩
    · rw [List.append_assoc, ← hrest, ← hmagic]
      exact (List.take_append_drop 4 blob).symm
    · rw [List.append_assoc, List.length_append]
      exact hsame rest
  · rw [decodeWith_eq_badMagic hmagic] at h
    cases h

/-- Behind a whole header, what is there must be as long as the header says. -/
theorem decodeWith_append_eq_wrongLength {front rest : List UInt8}
    (hmagic : front.take 4 = blobMagic)
    (hfront : (behindMagic (front ++ rest)).takeHeader = .ok (header, ⟨front.length, rest⟩))
    (hlength : rest.length ≠ header.payloadLength) :
    decodeWith digest (front ++ rest) =
      .error (.wrongLength header.payloadLength rest.length) := by
  rw [decodeWith_eq_judge (take_append_of_magic hmagic), hfront, ok_bind, judgePayload,
    if_pos hlength]

/-- A part of a header ends too early: everything else would be found in the whole header, too. -/
theorem exists_truncated_of_front {front part : List UInt8} (hpart : part <+: front)
    (hne : part ≠ front) (hmagic : part.take 4 = blobMagic)
    (hfront : (behindMagic front).takeHeader = .ok (header, ⟨front.length, []⟩)) :
    ∃ o k, decodeWith digest part = .error (.truncated o k) := by
  obtain ⟨missing, rfl⟩ := hpart
  rw [behindMagic_append hmagic] at hfront
  rw [decodeWith_eq_judge hmagic]
  rcases hread : (behindMagic part).takeHeader with f | ⟨found, c⟩
  · by_cases htruncated : ∃ o k, f = .truncated o k
    · obtain ⟨o, k, rfl⟩ := htruncated
      exact ⟨o, k, rfl⟩
    · -- what is wrong with the part would be wrong with the whole header
      rw [Cursor.forward_takeHeader.of_fault hread (fun o k hf => htruncated ⟨o, k, hf⟩)] at hfront
      cases hfront
  · -- a header that ends in the part ends there in the whole one, with nothing behind it
    rw [(Cursor.forward_takeHeader.of_ok_rest hread).2.2 missing] at hfront
    have hnothing : c.rest ++ missing = [] :=
      congrArg (fun r : UnitHeader × Cursor => r.2.rest) (Except.ok.inj hfront)
    exact absurd (by rw [(List.append_eq_nil_iff.1 hnothing).2, List.append_nil]) hne

/-- What becomes of the beginnings of a blob that is read, and of the blobs that go on behind it.
The header is everything before the payload. -/
structure CutsRefused (digest : DigestFunction) (blob : List UInt8) (header : UnitHeader)
    (payload : List UInt8) : Prop where
  ends_with : payload <:+ blob
  magic_missing : ∀ n < 4, decodeWith digest (blob.take n) = .error .badMagic
  header_missing : ∀ n, 4 ≤ n → n < blob.length - payload.length →
    ∃ o k, decodeWith digest (blob.take n) = .error (.truncated o k)
  payload_missing : ∀ n, blob.length - payload.length ≤ n → n < blob.length →
    decodeWith digest (blob.take n) =
      .error (.wrongLength header.payloadLength (n - (blob.length - payload.length)))
  too_long : ∀ more, more ≠ [] → decodeWith digest (blob ++ more) =
    .error (.wrongLength header.payloadLength (payload.length + more.length))

theorem cutsRefused_of_decodeWith (h : decodeWith digest blob = .ok (header, payload)) :
    CutsRefused digest blob header payload := by
  obtain ⟨front, rfl, hmagic, hdeclared, hfront⟩ := exists_front_of_decodeWith h
  have hfour := length_of_take_eq_blobMagic hmagic
  have hheader : (front ++ payload).length - payload.length = front.length := by
    rw [List.length_append, Nat.add_sub_cancel]
  constructor
  case ends_with => exact List.suffix_append front payload
  case magic_missing =>
    intro n hn
    apply decodeWith_eq_badMagic
    intro hread
    have hlength := length_of_take_eq_blobMagic hread
    rw [List.length_take] at hlength
    omega
  case header_missing =>
    intro n hn hlt
    rw [hheader] at hlt
    rw [List.take_append_of_le_length hlt.le]
    have hshorter : (front.take n).length = n := by
      rw [List.length_take]
      omega
    refine exists_truncated_of_front (List.take_prefix n front) (fun hsame => ?_) ?_
      (by simpa using hfront [])
    · rw [hsame] at hshorter
      omega
    · rw [List.take_take, Nat.min_eq_left hn, hmagic]
  case payload_missing =>
    intro n hle hlt
    rw [hheader] at hle ⊢
    rw [List.length_append] at hlt
    have hlength : (payload.take (n - front.length)).length = n - front.length := by
      rw [List.length_take]
      omega
    rw [List.take_append, List.take_of_length_le hle,
      decodeWith_append_eq_wrongLength hmagic (hfront _) (by omega), hlength]
  case too_long =>
    intro more hmore
    have hpositive : 0 < more.length := List.length_pos_iff.2 hmore
    rw [List.append_assoc,
      decodeWith_append_eq_wrongLength hmagic (hfront _) (by rw [List.length_append]; omega),
      List.length_append]

/-- **No blob that is read is a proper beginning of another one.** -/
theorem eq_of_prefix_of_decodeWith {longer : List UInt8} {r r' : UnitHeader × List UInt8}
    (h : decodeWith digest blob = .ok r) (h' : decodeWith digest longer = .ok r')
    (hstart : blob <+: longer) : blob = longer := by
  obtain ⟨more, rfl⟩ := hstart
  by_contra hne
  have hmore : more ≠ [] := fun hnil => hne (by rw [hnil, List.append_nil])
  rw [(cutsRefused_of_decodeWith h).too_long more hmore] at h'
  cases h'

end

/-! ### Reading byte by byte -/

/-- Reading that has no answer, not even a fault, once a read goes past the end of the blob. -/
abbrev Strict (α : Type) : Type := ExceptT BlobFault Option α

namespace Cursor

/-- Reports the bytes that are missing of the next `n`. -/
def require (c : Cursor) (n : Nat) : Strict Unit :=
  if c.rest.length < n then throw (.truncated c.offset (n - c.rest.length)) else pure ()

/-- The next `n` bytes, without a look at how many there are. -/
def split (c : Cursor) (n : Nat) : Strict (List UInt8 × Cursor) :=
  if n ≤ c.rest.length then pure (c.rest.take n, ⟨c.offset + n, c.rest.drop n⟩) else ExceptT.mk none

/-- The next byte, without a look whether there is one. -/
def byte (c : Cursor) : Strict (UInt8 × Cursor) :=
  match c.rest with
  | [] => ExceptT.mk none
  | b :: rest => pure (b, ⟨c.offset + 1, rest⟩)

/-- The next `n` bytes, once they are known to be there. -/
def takeStrictly (c : Cursor) (n : Nat) : Strict (List UInt8 × Cursor) := do
  c.require n
  c.split n

/-- The next `n` bytes as a name. -/
def takeNameStrictly (c : Cursor) (n : Nat) : Strict (String × Cursor) := do
  let (bytes, c) ← c.takeStrictly n
  match Utf8.decode? bytes with
  | some s => pure (s, c)
  | none => throw .badName

/-- One check stands in front of the three bytes of the version, the kind and a length. -/
def takeKindStrictly (c : Cursor) : Strict ((UnitKind × Nat) × Cursor) := do
  c.require 3
  let (version, c) ← c.byte
  if version ≠ layoutVersion then throw (.unsupportedLayout version)
  else
    let (kindByte, c) ← c.byte
    match UnitKind.ofByte? kindByte with
    | some kind =>
      let (tagLength, c) ← c.byte
      pure ((kind, tagLength.toNat), c)
    | none => throw (.unknownKind kindByte)

def takeEngineStrictly (c : Cursor) (n : Nat) : Strict (String × Cursor) := do
  let (tag, c) ← c.takeNameStrictly n
  if tag ≠ engineTag then throw (.foreignEngine tag) else pure (tag, c)

def takeUnitNameStrictly (c : Cursor) : Strict (String × Cursor) := do
  c.require 2
  let (length, c) ← c.split 2
  c.takeNameStrictly (ofLittleEndian length)

def takeSumStrictly (c : Cursor) : Strict ((Nat × List UInt8) × Cursor) := do
  c.require 4
  let (length, c) ← c.split 4
  let (sum, c) ← c.takeStrictly digestLength
  pure ((ofLittleEndian length, sum), c)

end Cursor

/-- Reads a blob with reads that are not guarded themselves, behind the checks of the format. -/
def decodeStrictly (digest : DigestFunction) (blob : List UInt8) :
    Strict (UnitHeader × List UInt8) := do
  let (magic, c) ← tryCatch ((⟨0, blob⟩ : Cursor).takeStrictly 4) fun _ => throw .badMagic
  if magic ≠ blobMagic then throw .badMagic
  else
    let ((kind, tagLength), c) ← c.takeKindStrictly
    let (tag, c) ← c.takeEngineStrictly tagLength
    let (name, c) ← c.takeUnitNameStrictly
    let ((declared, sum), c) ← c.takeSumStrictly
    if c.rest.length ≠ declared then throw (.wrongLength declared c.rest.length)
    else if (digest c.rest).toList ≠ sum then throw .wrongDigest
    else pure (⟨name, kind, tag, declared, sum⟩, c.rest)

section

variable {α β : Type}

/-- An answer: a value, or a fault. -/
def answer (x : Except BlobFault α) : Strict α := ExceptT.mk (some x)

/-- A step whose reads all have an answer, in front of one whose reads have. -/
theorem bind_eq_answer {p : Strict α} {x : Except BlobFault α} {next : α → Strict β}
    {f : α → Except BlobFault β} (hp : p = answer x) (hnext : ∀ a, next a = answer (f a)) :
    p >>= next = answer (x >>= f) := by
  subst hp
  rcases x with fault | a
  · rfl
  · exact hnext a

/-- A read behind its check has an answer. -/
theorem require_bind_split (c : Cursor) (n : Nat) (next : List UInt8 × Cursor → Strict β) :
    (c.require n >>= fun _ => c.split n >>= next) = answer (c.take n) >>= next := by
  unfold Cursor.require Cursor.split Cursor.take
  rcases Nat.lt_or_ge c.rest.length n with hmissing | hthere
  · rw [if_pos hmissing, if_pos hmissing]
    rfl
  · rw [if_neg hthere.not_gt, if_pos hthere, if_neg hthere.not_gt]
    rfl

namespace Cursor

theorem takeStrictly_eq (c : Cursor) (n : Nat) : c.takeStrictly n = answer (c.take n) := by
  have h := require_bind_split c n pure
  rwa [bind_pure, bind_pure] at h

theorem takeNameStrictly_eq (c : Cursor) (n : Nat) :
    c.takeNameStrictly n = answer (c.takeName n) := by
  refine bind_eq_answer (c.takeStrictly_eq n) ?_
  rintro ⟨bytes, next⟩
  dsimp only
  cases Utf8.decode? bytes <;> rfl

theorem takeKindStrictly_eq (c : Cursor) : c.takeKindStrictly = answer c.takeKind := by
  obtain ⟨offset, rest⟩ := c
  match rest with
  | [] | [_] | [_, _] => rfl
  | version :: kindByte :: tagLength :: rest =>
    have hthree : (⟨offset, version :: kindByte :: tagLength :: rest⟩ : Cursor).take 3 =
        .ok ([version, kindByte, tagLength], ⟨offset + 3, rest⟩) :=
      take_append offset (rfl : [version, kindByte, tagLength].length = 3)
    have hchecked : (⟨offset, version :: kindByte :: tagLength :: rest⟩ : Cursor).require 3 =
        pure () := if_neg (by simp)
    rw [takeKindStrictly, hchecked, pure_bind, takeKind, hthree, ok_bind]
    dsimp only [byte]
    rw [pure_bind]
    dsimp only
    split_ifs
    · rfl
    · rw [pure_bind]
      dsimp only
      cases UnitKind.ofByte? kindByte <;> rfl

theorem takeEngineStrictly_eq (c : Cursor) (n : Nat) :
    c.takeEngineStrictly n = answer (c.takeEngine n) := by
  refine bind_eq_answer (c.takeNameStrictly_eq n) ?_
  rintro ⟨tag, next⟩
  dsimp only
  split_ifs <;> rfl

theorem takeUnitNameStrictly_eq (c : Cursor) : c.takeUnitNameStrictly = answer c.takeUnitName := by
  rw [takeUnitNameStrictly, require_bind_split]
  refine bind_eq_answer rfl ?_
  rintro ⟨length, next⟩
  exact next.takeNameStrictly_eq (ofLittleEndian length)

theorem takeSumStrictly_eq (c : Cursor) : c.takeSumStrictly = answer c.takeSum := by
  rw [takeSumStrictly, require_bind_split]
  refine bind_eq_answer rfl ?_
  rintro ⟨length, next⟩
  refine bind_eq_answer (next.takeStrictly_eq digestLength) ?_
  rintro ⟨sum, last⟩
  rfl

end Cursor

end

/-- **No read goes past the end of the blob**, and the outcome is that of `decodeWith`. -/
theorem decodeStrictly_eq (digest : DigestFunction) (blob : List UInt8) :
    decodeStrictly digest blob = answer (decodeWith digest blob) := by
  rw [decodeStrictly, Cursor.takeStrictly_eq, Cursor.take]
  split_ifs with hlt
  · -- the first four bytes are compared, without a check that they are there
    have hmagic : blob.take 4 ≠ blobMagic := fun h =>
      absurd (length_of_take_eq_blobMagic h) (Nat.not_le.2 hlt)
    rw [decodeWith_eq_badMagic hmagic]
    rfl
  · rw [decodeWith]
    change (if blob.take 4 ≠ blobMagic then _ else _) = _
    split_ifs with hmagic
    · rfl
    · refine bind_eq_answer (Cursor.takeKindStrictly_eq _) ?_
      rintro ⟨⟨kind, n⟩, c₁⟩
      refine bind_eq_answer (c₁.takeEngineStrictly_eq n) ?_
      rintro ⟨tag, c₂⟩
      refine bind_eq_answer c₂.takeUnitNameStrictly_eq ?_
      rintro ⟨name, c₃⟩
      refine bind_eq_answer c₃.takeSumStrictly_eq ?_
      rintro ⟨⟨declared, sum⟩, c₄⟩
      dsimp only
      split_ifs <;> rfl

/-! ### What is missing is reported -/

/-- What the reading of blobs says of the bytes that are missing. -/
structure ReportsMissing (digest : DigestFunction) : Prop where
  bounds : ∀ {blob o k}, decodeWith digest blob = .error (.truncated o k) →
    o ≤ blob.length ∧ 1 ≤ k
  fewer : ∀ {blob o k}, decodeWith digest blob = .error (.truncated o k) →
    ∀ more : List UInt8, more.length < k →
      decodeWith digest (blob ++ more) = .error (.truncated o (k - more.length))
  enough : ∀ {blob o k}, decodeWith digest blob = .error (.truncated o k) →
    ∀ more : List UInt8, k ≤ more.length →
      ∀ k', decodeWith digest (blob ++ more) ≠ .error (.truncated o k')
  cuts : ∀ {blob header payload}, decodeWith digest blob = .ok (header, payload) →
    CutsRefused digest blob header payload
  no_beginning : ∀ {blob longer r r'}, decodeWith digest blob = .ok r →
    decodeWith digest longer = .ok r' → blob <+: longer → blob = longer
  /-- Reads that have no answer past the end of the blob give the same answer. -/
  within : ∀ blob, (decodeStrictly digest blob).run = some (decodeWith digest blob)

/-- **Every reader of blobs reports what is missing**, whatever the digest function is. -/
theorem missing_bytes_reported (digest : DigestFunction) : ReportsMissing digest where
  bounds := bounds_of_truncated
  fewer h more := (decodeWith_append_of_truncated h more).1
  enough h more := (decodeWith_append_of_truncated h more).2
  cuts := cutsRefused_of_decodeWith
  no_beginning := eq_of_prefix_of_decodeWith
  within := decodeStrictly_eq digest

/-- A blob that ends inside the name of the engine, and a module whose blob is cut. -/
theorem missing_bytes_reported_quick :
    let start : List UInt8 := blobMagic ++ [1, 1, 23] ++ Utf8.encode "quick"
    let blob := encode .module "λ.js" [1, 2, 3]
    decode start = .error (.truncated 7 18) ∧
      decode (start ++ [0x6a]) = .error (.truncated 7 17) ∧
      (∀ k, decode (start ++ List.replicate 18 0) ≠ .error (.truncated 7 k)) ∧
      (∃ r, decode blob = .ok r) ∧
      decode (blob.take 3) = .error .badMagic ∧
      decode (blob ++ [0]) = .error (.wrongLength 3 4) := by
  intro start blob
  have hstart : decode start = .error (.truncated 7 18) := by decide
  have hfits : Fits "λ.js" [1, 2, 3] := ⟨by decide, by decide⟩
  have hblob : decode blob = _ := decodeWith_eq_of_fits .module hfits
  have hreports := missing_bytes_reported Sha256.digest
  exact ⟨hstart, hreports.fewer hstart [0x6a] (by decide), hreports.enough hstart _ (by decide),
    ⟨_, hblob⟩, (hreports.cuts hblob).magic_missing 3 (by decide),
    (hreports.cuts hblob).too_long [0] (by decide)⟩

end Envelope

end ScriptBridge
