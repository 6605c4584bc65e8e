import Mathlib.Data.List.DropRight
import ScriptBridge.Text.Letters

/-!
# Texts and blanks

How texts are taken apart: what is left when something is taken off the start (`dropStart?`), when
the blanks at both ends are (`trim`), and before and behind the first blank (`splitBlank`).
-/

namespace ScriptBridge

namespace Text

variable {b p s t rest first tail : String} {c : Char} {cs ds : List Char}

/-! ### Starts -/

/-- What is dropped stands at the start. -/
theorem dropStart?_eq_some_iff : dropStart? p s = some rest ↔ s = p ++ rest := by
  rw [dropStart?]
  constructor
  · intro h
    split at h
    case isTrue hstart =>
      obtain ⟨tail, htail⟩ := List.isPrefixOf_iff_prefix.1 hstart
      cases h
      rw [← String.toList_inj, String.toList_append, String.toList_ofList, ← htail,
        ← String.length_toList, List.drop_left]
    case isFalse => cases h
  · rintro rfl
    rw [String.toList_append, if_pos (List.isPrefixOf_iff_prefix.2 (List.prefix_append ..)),
      ← String.length_toList, List.drop_left, String.ofList_toList]

theorem dropStart?_append (p rest : String) : dropStart? p (p ++ rest) = some rest :=
  dropStart?_eq_some_iff.2 rfl

/-! ### Blanks -/

/-- A text of nothing but blanks. -/
def Blank (s : String) : Prop := ∀ c ∈ s.toList, isBlank c = true

/-- A text without blanks. -/
def Solid (s : String) : Prop := ∀ c ∈ s.toList, isBlank c = false

/-- A text that is empty or starts with a blank. -/
def Apart (s : String) : Prop := ∀ c ∈ s.toList.head?, isBlank c = true

instance : Decidable (Solid s) := List.decidableBAll ..

theorem Solid.append (hs : Solid s) (ht : Solid t) : Solid (s ++ t) := by
  intro c hc
  rw [String.toList_append, List.mem_append] at hc
  exact hc.elim (hs c) (ht c)

theorem Blank.exists_cons (h : Blank s) (hne : s ≠ "") :
    ∃ c cs, isBlank c = true ∧ Blank (String.ofList cs) ∧ s = String.ofList (c :: cs) := by
  cases hs : s.toList with
  | nil => exact absurd (String.toList_eq_nil_iff.1 hs) hne
  | cons c cs =>
    rw [Blank, hs, List.forall_mem_cons] at h
    refine ⟨c, cs, h.1, ?_, ?_⟩
    · rw [Blank, String.toList_ofList]
      exact h.2
    · rw [← hs, String.ofList_toList]

theorem Apart.eq_or (h : Apart s) :
    s = "" ∨ ∃ c rest, isBlank c = true ∧ s = String.ofList (c :: rest) := by
  cases hs : s.toList with
  | nil => exact .inl (String.toList_eq_nil_iff.1 hs)
  | cons c rest =>
    refine .inr ⟨c, rest, h c (by rw [hs]; rfl), ?_⟩
    rw [← hs, String.ofList_toList]

theorem Blank.apart (h : Blank s) (hne : s ≠ "") (t : String) : Apart (s ++ t) := by
  intro c hc
  rw [String.toList_append, List.head?_append_of_ne_nil _ (by simpa using hne)] at hc
  exact h c (List.mem_of_mem_head? hc)

/-- Every text is one without blanks and what follows it. -/
theorem exists_solid_append (s : String) :
    ∃ first tail, s = first ++ tail ∧ Solid first ∧ Apart tail := by
  refine ⟨String.ofList (s.toList.takeWhile fun c => !isBlank c),
    String.ofList (s.toList.dropWhile fun c => !isBlank c), ?_, ?_, ?_⟩
  · rw [← String.ofList_append, List.takeWhile_append_dropWhile, String.ofList_toList]
  · intro c hc
    rw [String.toList_ofList] at hc
    simpa using List.mem_takeWhile_imp hc
  · intro c hc
    rw [String.toList_ofList] at hc
    have hhead := List.head?_dropWhile_not (fun c => !isBlank c) s.toList
    rw [Option.mem_def.1 hc] at hhead
    simpa using hhead

/-! ### Blanks at both ends -/

/-- A text without the blanks at its end. -/
def trimRight (s : String) : String := String.ofList (trimEnd s.toList)

theorem exists_trimRight_append (s : String) : ∃ b, s = trimRight s ++ b ∧ Blank b := by
  refine ⟨String.ofList (s.toList.rtakeWhile isBlank), ?_, fun c hc => ?_⟩
  · rw [trimRight, ← String.ofList_append, trimEnd, ← List.rdropWhile,
      List.rdropWhile_append_rtakeWhile, String.ofList_toList]
  · rw [String.toList_ofList] at hc
    exact List.mem_rtakeWhile_imp hc

theorem Apart.trimRight (h : Apart s) : Apart (trimRight s) := by
  obtain ⟨b, hs, -⟩ := exists_trimRight_append s
  intro c hc
  apply h c
  rw [hs, String.toList_append, List.head?_append, Option.mem_def.1 hc]
  rfl

theorem trimEnd_trimEnd (cs : List Char) : trimEnd (trimEnd cs) = trimEnd cs :=
  List.rdropWhile_idempotent isBlank cs

theorem trimEnd_append (hlast : ∀ c ∈ cs.getLast?, isBlank c = false) (ds : List Char) :
    trimEnd (cs ++ ds) = cs ++ trimEnd ds := by
  have hcs : cs.reverse.dropWhile isBlank = cs.reverse := by
    refine List.dropWhile_eq_self_iff.2 fun hlength => ?_
    rw [hlast _ (by simp [List.getLast?_eq_getElem?])]
    exact Bool.false_ne_true
  rw [trimEnd, List.reverse_append, List.dropWhile_append]
  split
  case isTrue hds =>
    rw [hcs, List.reverse_reverse, trimEnd, List.isEmpty_iff.1 hds, List.reverse_nil,
      List.append_nil]
  case isFalse => rw [List.reverse_append, List.reverse_reverse, trimEnd]

theorem trimEnd_append_of_blank (hds : ∀ c ∈ ds, isBlank c = true) :
    trimEnd (cs ++ ds) = trimEnd cs := by
  rw [trimEnd, List.reverse_append, List.dropWhile_append_of_pos (by simpa using hds), trimEnd]

theorem trim_append_left (hb : Blank b) (s : String) : trim (b ++ s) = trim s := by
  rw [trim, String.toList_append, trimStart, List.dropWhile_append_of_pos hb, ← trimStart, trim]

theorem trim_append_right (s : String) (hb : Blank b) : trim (s ++ b) = trim s := by
  rw [trim, String.toList_append, trimStart, List.dropWhile_append, trim, trimStart]
  split
  case isTrue hs =>
    rw [List.isEmpty_iff.1 hs, List.dropWhile_eq_nil_iff.2 hb]
  case isFalse => rw [trimEnd_append_of_blank hb]

theorem trimRight_trimRight (s : String) : trimRight (trimRight s) = trimRight s := by
  rw [trimRight, trimRight, String.toList_ofList, trimEnd_trimEnd]

theorem trim_trimRight (s : String) : trim (trimRight s) = trim s := by
  obtain ⟨b, hs, hb⟩ := exists_trimRight_append s
  conv_rhs => rw [hs, trim_append_right _ hb]

/-- What stands between the first and the last character that are not blank stays. -/
theorem trim_append (hb : Blank b) (hne : s ≠ "") (hfirst : ∀ c ∈ s.toList.head?, isBlank c = false)
    (hlast : ∀ c ∈ s.toList.getLast?, isBlank c = false) (t : String) :
    trim (b ++ s ++ t) = s ++ trimRight t := by
  rw [String.append_assoc, trim_append_left hb, trim, String.toList_append, trimStart]
  cases hs : s.toList with
  | nil => exact absurd (String.toList_eq_nil_iff.1 hs) hne
  | cons c rest =>
    rw [List.cons_append, List.dropWhile_cons_of_neg (by simp [hfirst c (by rw [hs]; rfl)]),
      ← List.cons_append, ← hs, trimEnd_append hlast, String.ofList_append, String.ofList_toList,
      trimRight]

/-! ### The first blank -/

theorem splitBlank_of_solid (h : Solid s) : splitBlank s = none := by
  rw [splitBlank, List.dropWhile_eq_nil_iff.2 (by simpa [Solid] using h)]

theorem splitBlank_append (h : Solid first) (hc : isBlank c = true) (cs : List Char) :
    splitBlank (first ++ String.ofList (c :: cs)) = some (first, String.ofList cs) := by
  have hfirst : ∀ c ∈ first.toList, (!isBlank c) = true := by simpa [Solid] using h
  rw [splitBlank, String.toList_append, String.toList_ofList,
    List.dropWhile_append_of_pos hfirst, List.takeWhile_append_of_pos hfirst,
    List.dropWhile_cons_of_neg (by simp [hc]), List.takeWhile_cons_of_neg (by simp [hc]),
    List.append_nil, String.ofList_toList]

end Text

end ScriptBridge
