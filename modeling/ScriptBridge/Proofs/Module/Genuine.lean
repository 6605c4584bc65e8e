import Mathlib.Tactic.SplitIfs
import ScriptBridge.Proofs.Envelope.RoundTrip
import ScriptBridge.Script.Module.Table

/-!
# Genuine units

An envelope has a name and a kind of its own, beside those in the payload.  They agree in a unit
that was compiled (`CompiledUnit.genuine_compile`), and in the blob of one (`Genuine.deserialize`).

Only two of the ways in which a unit can lie matter: a module with another name (`NamesItself`), and
a module in the place of a script (`HoldsNoModule`).
-/

namespace ScriptBridge

open Script

/-- The engine knows the module in a payload, if there is one, by the name. -/
def Script.KnownAs (name : String) (payload : List UInt8) : Prop :=
  ∀ n program, readModule payload = .ok (n, program) → n = name

namespace Script.Payload

open Envelope

/-- The words in front of a payload, one by one. -/
theorem take_drop_words (ws : List Nat) (rest : List UInt8) {i : Nat} (hi : i < ws.length) :
    ((ws.flatMap (littleEndian 8) ++ rest).drop (8 * i)).take 8 = littleEndian 8 ws[i] := by
  induction ws generalizing i with
  | nil => simp at hi
  | cons w ws ih =>
    have hlength : (littleEndian 8 w).length = 8 := length_littleEndian 8 w
    rw [List.flatMap_cons, List.append_assoc]
    cases i with
    | zero => exact List.take_left' hlength
    | succ i =>
      rw [show 8 * (i + 1) = 8 + 8 * i by omega, ← List.drop_drop, List.drop_left' hlength]
      exact ih (Nat.lt_of_succ_lt_succ hi)

/-- The numbers in front of a payload are read as they were written. -/
theorem ofLittleEndian_word (p : Payload) (i : Nat) (hi : i < p.words.length)
    (hlt : p.words[i] < 2 ^ 64) :
    ofLittleEndian ((p.encode.drop (8 * i)).take 8) = p.words[i] := by
  rw [encode, List.append_assoc, take_drop_words _ _ hi]
  exact ofLittleEndian_littleEndian hlt

theorem length_words (p : Payload) : (p.words.flatMap (littleEndian 8)).length = start := by
  simp [words, length_littleEndian, start]

/-- The name is the first part. -/
theorem take_drop_name (p : Payload) :
    (p.encode.drop start).take (part p.name).length = part p.name := by
  rw [encode, List.append_assoc, List.drop_left' p.length_words]
  exact List.take_left

theorem toByte_lt (p : Payload) : p.kind.toByte.toNat < 2 ^ 64 :=
  Nat.lt_trans p.kind.toByte.toNat_lt (by decide)

theorem dropLast_part (s : String) : (part s).dropLast = Utf8.encode s := by simp [part]

/-- A payload is read as one of its kind and with its name. -/
theorem of_decode?_encode {p q : Payload} (hname : (part p.name).length < 2 ^ 64)
    (h : decode? p.encode = some q) : q.kind = p.kind ∧ q.name = p.name := by
  have hkind := p.ofLittleEndian_word 1 (by simp [words]) p.toByte_lt
  have hstart := p.ofLittleEndian_word 2 (by simp [words]) (show start < 2 ^ 64 by decide)
  have hlength := p.ofLittleEndian_word 3 (by simp [words]) hname
  simp only [decode?, Option.bind_eq_bind, Option.bind_eq_some_iff] at h
  obtain ⟨kind, hk, name, hn, source, -, h⟩ := h
  split at h
  · cases h
    rw [hkind] at hk
    rw [hstart, hlength] at hn
    constructor
    · simpa [words] using hk.symm
    · simpa [words, take_drop_name, dropLast_part] using hn.symm
  · cases h

/-- **A payload is read as it was written**, if its length can be written. -/
theorem decode?_encode {p : Payload} (h : p.encode.length < 2 ^ 64) :
    decode? p.encode = some p := by
  have hlength : start + (part p.name).length + (part p.source).length < 2 ^ 64 := by
    rwa [encode, List.length_append, List.length_append, length_words] at h
  have hsource : (p.encode.drop (start + (part p.name).length)).take (part p.source).length =
      part p.source := by
    rw [encode, List.drop_left' (by rw [List.length_append, length_words])]
    exact List.take_length
  have hkind := p.ofLittleEndian_word 1 (by simp [words]) p.toByte_lt
  have hstart := p.ofLittleEndian_word 2 (by simp [words]) (show start < 2 ^ 64 by decide)
  have hname := p.ofLittleEndian_word 3 (by simp [words])
    (show (part p.name).length < 2 ^ 64 by omega)
  have hplace := p.ofLittleEndian_word 4 (by simp [words])
    (show start + (part p.name).length < 2 ^ 64 by omega)
  have hrest := p.ofLittleEndian_word 5 (by simp [words])
    (show (part p.source).length < 2 ^ 64 by omega)
  simp only [decode?, hkind, hstart, hname, hplace, hrest]
  simp [words, take_drop_name, hsource, dropLast_part]

end Script.Payload

namespace CompiledUnit

/-- The unit says what its payload is, as units that were compiled do: its kind, and the name of a
module. -/
def Genuine (u : CompiledUnit) : Prop :=
  ∀ p, Payload.decode? u.payload = some p → p.kind = u.kind ∧ (u.kind = .module → p.name = u.name)

/-- The engine knows a genuine unit by its name, and only if it is a module. -/
theorem Genuine.of_readModule {u : CompiledUnit} (hu : u.Genuine) {name : String}
    {program : Program} (h : readModule u.payload = .ok (name, program)) :
    u.kind = .module ∧ name = u.name := by
  unfold readModule at h
  split at h
  · cases h
  · rename_i p hp
    obtain ⟨hkind, hname⟩ := hu p hp
    split_ifs at h with hscript
    rw [hkind] at hscript
    have hmodule : u.kind = .module := by
      cases hk : u.kind with
      | script => exact absurd hk hscript
      | module => rfl
    split at h
    · cases h
    · cases h
      exact ⟨hmodule, hname hmodule⟩

/-- The engine knows the module in the unit, if there is one, by the name of the unit. -/
def NamesItself (u : CompiledUnit) : Prop :=
  ∀ name program, readModule u.payload = .ok (name, program) → name = u.name

/-- The engine finds no module in the unit. -/
def HoldsNoModule (u : CompiledUnit) : Prop := ∀ module, readModule u.payload ≠ .ok module

theorem Genuine.namesItself {u : CompiledUnit} (hu : u.Genuine) : u.NamesItself :=
  fun _ _ h => (hu.of_readModule h).2

/-- The names that are taken are short. -/
theorem length_encode_le {name source : String} (h : checkSource name source = .ok ()) :
    (Utf8.encode name).length ≤ 65535 := by
  have hsize : name.utf8ByteSize ≤ 65535 := by
    by_contra hlong
    simp [checkSource, Nat.lt_of_not_le hlong, throw, throwThe, MonadExceptOf.throw, bind,
      Except.bind] at h
  have hlength : (Utf8.encode name).length = name.utf8ByteSize := by
    simp [Utf8.encode]
  omega

theorem length_part_lt {name source : String} (h : checkSource name source = .ok ()) :
    (Payload.part name).length < 2 ^ 64 := by
  have hlength := length_encode_le h
  simp only [Payload.part, List.length_append, List.length_singleton]
  omega

/-- The unit that a text of a kind is compiled to under a name. -/
def ofText (name : String) (kind : UnitKind) (source : String) : CompiledUnit :=
  ⟨name, kind, Payload.encode ⟨kind, name, source⟩⟩

/-- What is compiled has a name that is taken, and its payload holds the name and the text. -/
theorem of_compile {filename source : String} {kind : UnitKind} {u : CompiledUnit}
    (h : compile filename source kind = .ok u) : ∃ name, checkSource name source = .ok () ∧
      (kind = .module → name = ModuleName.canonical filename) ∧
      u = ofText name kind source := by
  unfold compile at h
  extract_lets name at h
  obtain ⟨_, hcheck, h⟩ := bind_eq_ok.1 h
  refine ⟨name, hcheck, fun hkind => by subst hkind; rfl, ?_⟩
  split at h
  · cases h
  · split at h <;> cases h
    rfl

theorem genuine_ofText {name source : String} {kind : UnitKind}
    (hlength : (Payload.part name).length < 2 ^ 64) : (ofText name kind source).Genuine := by
  intro p hp
  obtain ⟨hkind, hname⟩ := Payload.of_decode?_encode hlength hp
  exact ⟨hkind, fun _ => hname⟩

/-- **A unit that was compiled is genuine.** -/
theorem genuine_compile {filename source : String} {kind : UnitKind} {u : CompiledUnit}
    (h : compile filename source kind = .ok u) : u.Genuine := by
  obtain ⟨name, hcheck, -, rfl⟩ := of_compile h
  exact genuine_ofText (length_part_lt hcheck)

/-- The blob of a genuine unit has that unit in it. -/
theorem Genuine.deserialize {u u' : CompiledUnit} (hu : u.Genuine)
    (hfits : Envelope.Fits u.name u.payload)
    (h : CompiledUnit.deserialize u.serialize = .ok u') : u'.Genuine := by
  have hsame := deserialize_eq_ok_iff.2 ⟨hfits, rfl⟩
  obtain rfl : u = u' := Except.ok.inj (hsame.symm.trans h)
  exact hu

/-- A small module is compiled to a genuine unit, and that fits into a blob. -/
theorem exists_genuine : ∃ u, compile "m.js" "export const x = 1" .module = .ok u ∧
    u.name = "m.js" ∧ u.kind = .module ∧ u.Genuine ∧
      CompiledUnit.deserialize u.serialize = .ok u := by
  let u := ofText "m.js" .module "export const x = 1"
  have hcompile : (compile "m.js" "export const x = 1" .module).toOption = some u := by
    decide +kernel
  have hfits : Envelope.Fits u.name u.payload := ⟨by decide, by decide⟩
  cases h : compile "m.js" "export const x = 1" .module with
  | error e =>
    rw [h] at hcompile
    cases hcompile
  | ok u' =>
    rw [h] at hcompile
    obtain rfl : u' = u := Option.some.inj hcompile
    exact ⟨u, rfl, rfl, rfl, genuine_compile h, deserialize_eq_ok_iff.2 ⟨hfits, rfl⟩⟩

end CompiledUnit

end ScriptBridge
