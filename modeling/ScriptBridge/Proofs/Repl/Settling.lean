import ScriptBridge.Proofs.Text.Blanks
import ScriptBridge.Repl.Command

/-!
# Commands that settle calls

What the session prints as the id of a call is what the commands that settle calls read.

* `digits?_eq_some_iff`, `word?_eq_some_iff` : digits write **their own number**, and nothing else
  does.
* `CallArgs.read_eq_ok_iff` : **what an argument must be**, and what is read from it.
* `read_append_eq` : **a line comes apart** into the command and its argument, whatever blanks
  stand around and between its parts.
* `settling_reads_back` : both together.
-/

namespace ScriptBridge

open Text

variable {s t id first tail line : String} {n : Nat} {cs : List Char} {command : ReplCommand}

namespace CallArgs

/-! ### Numbers -/

/-- The number that digits write. -/
def numberOf (cs : List Char) : Nat := Nat.ofDigitChars 10 cs 0

theorem digits?_eq_some_iff :
    digits? cs = some n ↔ cs ≠ [] ∧ (∀ c ∈ cs, c.isDigit = true) ∧ n = numberOf cs := by
  have hfold : cs.foldl (fun acc c => acc * 10 + (c.toNat - 48)) 0 = numberOf cs := by
    rw [numberOf, Nat.ofDigitChars]
    congr 1
    funext acc c
    rw [Nat.mul_comm]
    rfl
  have hdigits : (cs.isEmpty || !cs.all Char.isDigit) = true ↔
      ¬(cs ≠ [] ∧ ∀ c ∈ cs, c.isDigit = true) := by
    rw [Bool.or_eq_true, List.isEmpty_iff, Bool.not_eq_true', ← Bool.not_eq_true, List.all_eq_true]
    tauto
  rw [digits?, hfold, ← and_assoc]
  by_cases h : cs ≠ [] ∧ ∀ c ∈ cs, c.isDigit = true
  · rw [if_neg (fun hnot => hdigits.1 hnot h), and_iff_right h, Option.some_inj, eq_comm]
  · rw [if_pos (hdigits.2 h)]
    exact iff_of_false (fun hsome => nomatch hsome) fun hand => h hand.1

/-- A text that does not start as `p` does loses nothing. -/
theorem getD_dropStart? {p : String} (h : ∀ rest, s ≠ p ++ rest) : (dropStart? p s).getD s = s := by
  cases hdrop : dropStart? p s with
  | none => rfl
  | some rest => exact absurd (dropStart?_eq_some_iff.1 hdrop) (h rest)

theorem getD_dropStart?_eq (p s : String) :
    s = (dropStart? p s).getD s ∨ s = p ++ (dropStart? p s).getD s := by
  cases hdrop : dropStart? p s with
  | none => exact .inl rfl
  | some rest => exact .inr (dropStart?_eq_some_iff.1 hdrop)

/-- A number in decimal digits, perhaps behind a plus sign. -/
structure SpellsNumber (s : String) (n : Nat) : Prop where
  shape : ∃ sign, ∃ cs : List Char, s = sign ++ String.ofList cs ∧ (sign = "" ∨ sign = "+") ∧
    cs ≠ [] ∧ (∀ c ∈ cs, c.isDigit = true) ∧ n = numberOf cs

/-- What an id may be written as: a number below 2^64, perhaps behind `call-`. -/
structure SpellsId (s : String) (n : Nat) : Prop where
  shape : ∃ call number, s = call ++ number ∧ (call = "" ∨ call = "call-") ∧ SpellsNumber number n
  bound : n < 2 ^ 64

/-- Numbers do not start like `call-`, or anything else that starts with neither. -/
theorem SpellsNumber.ne_append {p : String} (h : SpellsNumber s n) {c : Char}
    (hp : p.toList.head? = some c) (hdigit : c.isDigit = false) (hplus : c ≠ '+') (rest : String) :
    s ≠ p ++ rest := by
  obtain ⟨sign, cs, rfl, hsign, hne, hcs, -⟩ := h.shape
  intro heq
  have hhead := congrArg (List.head? ·.toList) heq
  simp only [String.toList_append, String.toList_ofList, List.head?_append, hp] at hhead
  obtain rfl | rfl := hsign
  · have hc := hcs c (List.mem_of_mem_head? (by simpa using hhead))
    rw [hdigit] at hc
    cases hc
  · exact hplus (by simpa using hhead.symm)

theorem word?_eq_some_iff : word? s = some n ↔ SpellsNumber s n ∧ n < 2 ^ 64 := by
  rw [word?, Option.bind_eq_bind, Option.bind_eq_some_iff]
  constructor
  · rintro ⟨n, hdigits, hn⟩
    split at hn
    case isTrue hbound =>
      cases hn
      have hcs := digits?_eq_some_iff.1 hdigits
      obtain hs | hs := getD_dropStart?_eq "+" s
      · exact ⟨⟨"", _, by rwa [String.ofList_toList, String.empty_append], .inl rfl, hcs⟩, hbound⟩
      · exact ⟨⟨"+", _, by rwa [String.ofList_toList], .inr rfl, hcs⟩, hbound⟩
    case isFalse => cases hn
  · rintro ⟨⟨sign, cs, rfl, hsign, hcs⟩, hbound⟩
    refine ⟨n, digits?_eq_some_iff.2 ?_, if_pos hbound⟩
    obtain rfl | rfl := hsign
    · rw [String.empty_append, getD_dropStart?, String.toList_ofList]
      · exact hcs
      · intro rest hrest
        -- a plus sign is not a digit
        have hplus : '+' ∈ cs := by
          rw [← String.toList_ofList (l := cs), hrest]
          simp
        cases hcs.2.1 _ hplus
    · rwa [dropStart?_append, Option.getD_some, String.toList_ofList]

theorem spellsId_iff : word? ((dropStart? "call-" s).getD s) = some n ↔ SpellsId s n := by
  rw [word?_eq_some_iff]
  constructor
  · rintro ⟨hnumber, hbound⟩
    obtain hs | hs := getD_dropStart?_eq "call-" s
    · exact ⟨⟨"", _, by rwa [String.empty_append], .inl rfl, hnumber⟩, hbound⟩
    · exact ⟨⟨"call-", _, hs, .inr rfl, hnumber⟩, hbound⟩
  · rintro ⟨⟨call, number, rfl, rfl | rfl, hnumber⟩, hbound⟩
    · rw [String.empty_append, getD_dropStart? (hnumber.ne_append rfl rfl (by decide))]
      exact ⟨hnumber, hbound⟩
    · rw [dropStart?_append]
      exact ⟨hnumber, hbound⟩

/-! ### Arguments -/

/-- The id is what stands before the first blank, and what follows it is read without the blanks
around it. -/
theorem read_append_eq_ok_iff {a : CallArgs} (hid : Solid id) (htail : Apart tail) :
    CallArgs.read (some (id ++ tail)) = .ok a ↔ SpellsId id a.id ∧ a.rest = trim tail := by
  obtain ⟨rest, hsplit, hrest⟩ :
    ∃ rest, (splitBlank (id ++ tail)).getD (id ++ tail, "") = (id, rest) ∧
      trim rest = trim tail := by
    obtain rfl | ⟨c, cs, hc, rfl⟩ := htail.eq_or
    · exact ⟨"", by rw [String.append_empty, splitBlank_of_solid hid]; rfl, rfl⟩
    · refine ⟨String.ofList cs, by rw [splitBlank_append hid hc]; rfl, ?_⟩
      rw [String.ofList_cons, trim_append_left]
      simpa [Blank] using hc
  rw [← spellsId_iff]
  -- unfolded as it stands: making its equations would evaluate the bound
  delta CallArgs.read
  simp only [hsplit]
  generalize word? ((dropStart? "call-" id).getD id) = number
  cases number with
  | none => simp
  | some n =>
    obtain ⟨n', rest'⟩ := a
    simp [hrest, eq_comm]

theorem isBlank_of_isDigit {c : Char} (hc : c.isDigit = true) : isBlank c = false := by
  simp only [Char.isDigit, Bool.and_eq_true, decide_eq_true_eq, ge_iff_le,
    UInt32.le_iff_toNat_le] at hc
  have hlow : 48 ≤ c.toNat := hc.1
  have hhigh : c.toNat ≤ 57 := hc.2
  simp only [isBlank, Bool.or_eq_false_iff, Bool.and_eq_false_iff, decide_eq_false_iff_not,
    beq_eq_false_iff_ne]
  omega

theorem SpellsId.solid (h : SpellsId id n) : Solid id := by
  obtain ⟨⟨call, number, rfl, hcall, sign, cs, rfl, hsign, -, hcs, -⟩, -⟩ := h
  have hcall : Solid call := by obtain rfl | rfl := hcall <;> decide
  have hsign : Solid sign := by obtain rfl | rfl := hsign <;> decide
  refine hcall.append (hsign.append fun c hc => isBlank_of_isDigit (hcs c ?_))
  rwa [String.toList_ofList] at hc

/-- **What an argument must be**, and what is read from it. -/
theorem read_eq_ok_iff {arg : Option String} {a : CallArgs} :
    CallArgs.read arg = .ok a ↔ ∃ id tail, arg = some (id ++ tail) ∧ SpellsId id a.id ∧
      Apart tail ∧ a.rest = trim tail := by
  constructor
  · intro h
    cases arg with
    | none => cases h
    | some arg =>
      obtain ⟨id, tail, rfl, hid, htail⟩ := exists_solid_append arg
      obtain ⟨hspells, hrest⟩ := (read_append_eq_ok_iff hid htail).1 h
      exact ⟨id, tail, rfl, hspells, htail, hrest⟩
  · rintro ⟨id, tail, rfl, hspells, htail, hrest⟩
    exact (read_append_eq_ok_iff hspells.solid htail).2 ⟨hspells, hrest⟩

theorem spellsNumber_toString (n : Nat) : SpellsNumber (toString n) n where
  shape := by
    refine ⟨"", Nat.toDigits 10 n, ?_, .inl rfl, Nat.toDigits_ne_nil,
      fun c hc => Nat.isDigit_of_mem_toDigits (by decide) (by decide) hc,
      Nat.ofDigitChars_ten_toDigits.symm⟩
    rw [String.empty_append, Nat.toString_eq_ofList_toDigits]

/-- An id is read as it is shown, and its number alone as well. -/
theorem spellsId_of_shown (n : UInt64) (hid : id = callIdText n.toNat ∨ id = toString n.toNat) :
    SpellsId id n.toNat where
  shape := by
    obtain rfl | rfl := hid
    · exact ⟨"call-", _, rfl, .inr rfl, spellsNumber_toString _⟩
    · exact ⟨"", _, (String.empty_append ..).symm, .inl rfl, spellsNumber_toString _⟩
  bound := n.toNat_lt

end CallArgs

/-! ### Lines -/

/-- The commands that settle calls, and their names. -/
inductive SettlingName : ReplCommand → String → Prop
  | resolve : SettlingName .resolve "resolve"
  | reject : SettlingName .reject "reject"

/-- A line that settles a call, as it may be typed: the name in any case, and blanks between the
parts and around them. -/
inductive SettlingLine (command : ReplCommand) (id t : String) : String → Prop
  | typed {before name gap gap' after : String} (hname : SettlingName command (lowerAscii name))
    (hbefore : Blank before) (hgap : Blank gap) (hne : gap ≠ "") (hgap' : Blank gap')
    (hne' : gap' ≠ "") (hafter : Blank after) :
    SettlingLine command id t (before ++ ("." ++ name ++ gap ++ id) ++ (gap' ++ t ++ after))

theorem toLower_of_isBlank {c : Char} (hc : isBlank c = true) : c.toLower = c := by
  refine dif_neg ?_
  rintro ⟨hlow, hhigh⟩
  have hlow : 65 ≤ c.toNat := hlow
  have hhigh : c.toNat ≤ 90 := hhigh
  simp only [isBlank, Bool.or_eq_true, Bool.and_eq_true, decide_eq_true_eq, beq_iff_eq] at hc
  omega

theorem solid_of_lowerAscii (h : Solid (lowerAscii s)) : Solid s := by
  intro c hc
  by_contra hblank
  rw [Bool.not_eq_false] at hblank
  have hsmall : c ∈ (lowerAscii s).toList := by
    rw [lowerAscii, String.toList_map]
    exact List.mem_map.2 ⟨c, hc, toLower_of_isBlank hblank⟩
  rw [h c hsmall] at hblank
  cases hblank

theorem SettlingName.solid {name : String} (h : SettlingName command (lowerAscii name)) :
    Solid name := by
  refine solid_of_lowerAscii ?_
  generalize lowerAscii name = small at h
  cases h <;> decide

theorem SettlingName.ofName? {name : String} (h : SettlingName command name) :
    ReplCommand.ofName? name = some command := by
  cases h <;> rfl

/-- **A line comes apart** into the command, its id and what follows that. -/
theorem read_append_eq {before name gap : String} (hbefore : Blank before)
    (hname : SettlingName command (lowerAscii name)) (hgap : Blank gap) (hne : gap ≠ "")
    (hid : Solid id) (hid' : id ≠ "") (tail : String) :
    ReplCommand.read (before ++ ("." ++ name ++ gap ++ id) ++ tail) =
      some (command, some (id ++ trimRight tail)) := by
  have hfirst : ∀ c ∈ id.toList.head?, isBlank c = false := fun c hc =>
    hid c (List.mem_of_mem_head? hc)
  have hlast : ∀ c ∈ id.toList.getLast?, isBlank c = false := fun c hc =>
    hid c (List.mem_of_mem_getLast? hc)
  have hline : trim (before ++ ("." ++ name ++ gap ++ id) ++ tail) =
      "." ++ (name ++ (gap ++ (id ++ trimRight tail))) := by
    rw [trim_append hbefore]
    · simp only [String.append_assoc]
    · simp
    · simp [String.toList_append, isBlank]
    · rw [String.toList_append, List.getLast?_append_of_ne_nil _ (by simpa using hid')]
      exact hlast
  obtain ⟨c, cs, hc, hcs, rfl⟩ := hgap.exists_cons hne
  have hargument : trim (String.ofList cs ++ (id ++ trimRight tail)) = id ++ trimRight tail := by
    rw [← String.append_assoc, trim_append hcs hid' hfirst hlast, trimRight_trimRight]
  have hsplit : splitBlank (name ++ (String.ofList (c :: cs) ++ (id ++ trimRight tail))) =
      some (name, String.ofList cs ++ (id ++ trimRight tail)) := by
    have happend := splitBlank_append hname.solid hc (cs ++ (id ++ trimRight tail).toList)
    rwa [← List.cons_append, String.ofList_append, String.ofList_append,
      String.ofList_toList] at happend
  have hfull : (id ++ trimRight tail).isEmpty = false := by
    rw [Bool.eq_false_iff]
    simp [String.append_eq_empty_iff, hid']
  simp only [ReplCommand.read, hline, dropStart?_append, Option.bind_eq_bind, Option.bind_some,
    hsplit, hargument, hfull, hname.ofName?]
  rfl

theorem CallArgs.SpellsId.ne_empty (h : CallArgs.SpellsId id n) : id ≠ "" := by
  obtain ⟨⟨call, number, rfl, -, hnumber⟩, -⟩ := h
  obtain ⟨sign, cs, rfl, -, hne, -⟩ := hnumber.shape
  simp [String.append_eq_empty_iff, hne]

/-- What the commands that settle calls read. -/
structure SettlingReads : Prop where
  /-- From a line with an id as it is shown, or its number, and a text: the command, the id, and the
  text without the blanks around it. -/
  line : ∀ {n : UInt64} {command id t line}, SettlingLine command id t line →
    (id = callIdText n.toNat ∨ id = toString n.toNat) →
    ∃ arg, ReplCommand.read line = some (command, some arg) ∧
      CallArgs.read (some arg) = .ok ⟨n.toNat, trim t⟩
  /-- From an argument: the id that stands before the first blank, which must be spelled as an id,
  and what follows it. -/
  argument : ∀ {arg a}, CallArgs.read arg = .ok a ↔ ∃ id tail, arg = some (id ++ tail) ∧
    CallArgs.SpellsId id a.id ∧ Apart tail ∧ a.rest = trim tail

/-- **Commands that settle calls read back what the session shows.** -/
theorem settling_reads_back : SettlingReads where
  line := by
    rintro n command id t _ ⟨hname, hbefore, hgap, hne, hgap', hne', hafter⟩ hid
    have hspells := CallArgs.spellsId_of_shown n hid
    refine ⟨_, read_append_eq hbefore hname hgap hne hspells.solid hspells.ne_empty _, ?_⟩
    refine (CallArgs.read_append_eq_ok_iff hspells.solid ?_).2 ⟨hspells, ?_⟩
    · rw [String.append_assoc]
      exact (hgap'.apart hne' _).trimRight
    · rw [trim_trimRight, trim_append_right _ hafter, trim_append_left hgap']
  argument := CallArgs.read_eq_ok_iff

/-- The largest id, with blanks beyond ASCII around the parts. -/
example : ReplCommand.read "\u2003.ReSolve\tcall-18446744073709551615\u00a0 [1] \n" =
      some (.resolve, some "call-18446744073709551615\u00a0 [1]") ∧
    CallArgs.read (some "call-18446744073709551615\u00a0 [1]") = .ok ⟨2 ^ 64 - 1, "[1]"⟩ ∧
    CallArgs.read (some "call-18446744073709551616") =
      .error (.notAnId "18446744073709551616") := by
  decide +kernel

end ScriptBridge
