import Mathlib.Data.List.Induction
import ScriptBridge.Proofs.Text.Blanks
import ScriptBridge.Repl.Editor

/-!
# Words at the cursor

The editor looks at the word that ends at the cursor: it completes it, and hints at how it may go
on.  Where the word starts is counted in bytes, one byte behind the separator before it.

* `currentWord?_eq_some_iff` : the word is what follows the last separator, **as long as that
  separator takes one byte**; otherwise its start would be inside of the separator.
* `assists` : **what the editor does at every position of every line**.
-/

namespace ScriptBridge

namespace Editor

variable {c : BridgeConfig} {text before after front word rest w : String} {cs line : List Char}
  {start : Nat}

/-! ### Byte offsets -/

theorem byteCount_concat (cs : List Char) (c : Char) :
    byteCount (cs ++ [c]) = byteCount cs + c.utf8Size :=
  List.foldl_concat ..

theorem byteCount_eq (cs : List Char) : byteCount cs = (String.ofList cs).utf8ByteSize := by
  induction cs using List.reverseRecOn with
  | nil => rfl
  | append_singleton cs c ih =>
    rw [byteCount_concat, ih, String.ofList_append, String.utf8ByteSize_append, String.ofList_cons,
      String.ofList_nil, String.append_empty, String.utf8ByteSize_singleton]

theorem byteCount_toList (text : String) : byteCount text.toList = text.utf8ByteSize := by
  rw [byteCount_eq, String.ofList_toList]

theorem byteCount_cons (c : Char) (cs : List Char) :
    byteCount (c :: cs) = c.utf8Size + byteCount cs := by
  rw [byteCount_eq, String.ofList_cons, String.utf8ByteSize_append, String.utf8ByteSize_singleton,
    ← byteCount_eq]

theorem beforeByte?_append (cs rest : List Char) :
    beforeByte? (cs ++ rest) (byteCount cs) = some cs := by
  induction cs with
  | nil => cases rest <;> rfl
  | cons c cs ih =>
    obtain ⟨n, hn⟩ := Nat.exists_eq_add_of_lt c.utf8Size_pos
    rw [Nat.zero_add] at hn
    rw [byteCount_cons, hn, Nat.add_right_comm, List.cons_append, beforeByte?, hn,
      if_pos (by omega), show n + byteCount cs + 1 - (n + 1) = byteCount cs by omega, ih]
    rfl

/-! ### The word that a text ends in -/

/-- A text ends in a word: in characters that belong to words, behind a separator or nothing. -/
structure EndsIn (text front word : String) : Prop where
  /-- The word stands at the end. -/
  split : text = front ++ word
  /-- It is made of letters, digits, `_` and `.`. -/
  inWord : ∀ c ∈ word.toList, inWord c = true
  /-- What stands before it ends in something else. -/
  separated : ∀ c ∈ front.toList.getLast?, Editor.inWord c = false

theorem lastWord_eq (cs : List Char) : lastWord cs = cs.rtakeWhile inWord := rfl

theorem take_eq (cs : List Char) :
    cs.take (cs.length - (lastWord cs).length) = cs.rdropWhile inWord := by
  have hsplit := List.rdropWhile_append_rtakeWhile (p := inWord) (l := cs)
  have hlength := congrArg List.length hsplit
  rw [List.length_append] at hlength
  have hcut : cs.length - (lastWord cs).length = (cs.rdropWhile inWord).length := by
    rw [lastWord_eq]
    omega
  rw [hcut]
  exact List.prefix_iff_eq_take.1 (List.rdropWhile_prefix inWord cs) |>.symm

theorem endsIn_lastWord (text : String) :
    EndsIn text (String.ofList (text.toList.rdropWhile inWord))
      (String.ofList (lastWord text.toList)) where
  split := by
    rw [← String.ofList_append, lastWord_eq, List.rdropWhile_append_rtakeWhile,
      String.ofList_toList]
  inWord c hc := by
    rw [String.toList_ofList] at hc
    exact List.mem_rtakeWhile_imp hc
  separated c hc := by
    rw [String.toList_ofList] at hc
    obtain ⟨hne, rfl⟩ := List.mem_getLast?_eq_getLast hc
    exact Bool.eq_false_iff.2 (List.rdropWhile_last_not _ _ hne)

namespace EndsIn

variable {front' word' : String}

/-- **No longer ending is a word.** -/
theorem longest (h : EndsIn text front word) (hsplit : text = front' ++ word')
    (hword : ∀ c ∈ word'.toList, Editor.inWord c = true) : ∃ more, word = more ++ word' := by
  have hsame := congrArg String.toList (h.split.symm.trans hsplit)
  rw [String.toList_append, String.toList_append, List.append_eq_append_iff] at hsame
  obtain ⟨more, -, hmore⟩ | ⟨more, hfront, hmore⟩ := hsame
  · exact ⟨String.ofList more, String.toList_injective (by simpa using hmore)⟩
  · -- an ending that begins before the word has the separator in it
    obtain rfl | ⟨more, c, rfl⟩ := List.eq_nil_or_concat more
    · exact ⟨"", String.toList_injective (by simpa using hmore.symm)⟩
    · have hc := h.separated c (by simp [hfront])
      rw [hword c (by simp [hmore])] at hc
      cases hc

/-- There is one word that a text ends in. -/
theorem unique (h : EndsIn text front word) (h' : EndsIn text front' word') :
    front = front' ∧ word = word' := by
  obtain ⟨more, rfl⟩ := h.longest h'.split h'.inWord
  obtain ⟨more', hmore⟩ := h'.longest h.split h.inWord
  have hnil : more = "" := by
    have hsize := congrArg String.length hmore
    rw [String.length_append, String.length_append] at hsize
    exact String.length_eq_zero_iff.1 (by omega)
  subst hnil
  rw [String.empty_append] at h ⊢
  exact ⟨(String.append_left_inj _).1 (h.split.symm.trans h'.split), rfl⟩

end EndsIn

/-- The last separator of a text, if there is one, takes one byte. -/
def NarrowSeparator (text : String) : Prop :=
  ∀ front word, EndsIn text front word → ∀ c ∈ front.toList.getLast?, c.utf8Size = 1

/-- What the offset of the word comes to: the end of what stands before the word, if that is one
byte behind the start of the separator. -/
theorem wordStart?_eq_some_iff {cs : List Char} :
    wordStart? cs = some start ↔ start = byteCount (cs.rdropWhile inWord) ∧
      ∀ c ∈ (cs.rdropWhile inWord).getLast?, c.utf8Size = 1 := by
  rw [wordStart?, take_eq]
  cases hlast : (cs.rdropWhile inWord).getLast? with
  | none =>
    rw [List.getLast?_eq_none_iff] at hlast
    simp [hlast, byteCount, eq_comm]
  | some c =>
    by_cases hsize : c.utf8Size = 1
    · simp [hsize, eq_comm]
    · simp [hsize]

/-- **The word at the end of a text**, if the separator before it takes one byte. -/
theorem currentWord?_eq_some_iff : currentWord? text = some (start, word) ↔
    ∃ front, EndsIn text front word ∧ start = front.utf8ByteSize ∧
      ∀ c ∈ front.toList.getLast?, c.utf8Size = 1 := by
  have hend := endsIn_lastWord text
  rw [currentWord?, Option.map_eq_some_iff]
  constructor
  · rintro ⟨start, hstart, ⟨⟩⟩
    obtain ⟨rfl, hsize⟩ := wordStart?_eq_some_iff.1 hstart
    refine ⟨_, hend, byteCount_eq _, ?_⟩
    rwa [String.toList_ofList]
  · rintro ⟨front, hfront, rfl, hsize⟩
    obtain ⟨rfl, rfl⟩ := hfront.unique hend
    rw [String.toList_ofList] at hsize
    exact ⟨_, wordStart?_eq_some_iff.2 ⟨(byteCount_eq _).symm, hsize⟩, rfl⟩

/-- **There is one exactly if the last separator takes one byte.** -/
theorem isSome_currentWord?_iff : (currentWord? text).isSome = true ↔ NarrowSeparator text := by
  rw [Option.isSome_iff_exists]
  constructor
  · rintro ⟨⟨start, word⟩, h⟩ front' word' h'
    obtain ⟨front, hfront, -, hsize⟩ := currentWord?_eq_some_iff.1 h
    obtain ⟨rfl, -⟩ := hfront.unique h'
    exact hsize
  · intro h
    have hend := endsIn_lastWord text
    exact ⟨(_, _), currentWord?_eq_some_iff.2 ⟨_, hend, rfl, h _ _ hend⟩⟩

/-! ### What completes the word -/

/-- The text before the cursor is what the editor completes. -/
theorem completeAt?_eq (c : BridgeConfig) (before after : String) :
    completeAt? c (before ++ after) before.utf8ByteSize =
      (complete? c before).map (before.utf8ByteSize, ·) := by
  rw [completeAt?, String.toList_append, ← byteCount_toList, beforeByte?_append]
  cases hcomplete : complete? c before <;> simp [hcomplete]

theorem isSome_complete?_iff : (complete? c before).isSome = true ↔ NarrowSeparator before := by
  rw [complete?, Option.isSome_map, isSome_currentWord?_iff]

/-- **What is offered**: the words of the editor that begin with the word, with what is left of
them. -/
theorem mem_complete?_iff {candidates : List (String × String)}
    (h : complete? c before = some candidates) (hword : EndsIn before front word) :
    (w, rest) ∈ candidates ↔ word ≠ "" ∧ w ∈ words c ∧ w = word ++ rest := by
  obtain ⟨⟨start, word'⟩, hcurrent, rfl⟩ := Option.map_eq_some_iff.1 h
  obtain ⟨front', hword', -⟩ := currentWord?_eq_some_iff.1 hcurrent
  obtain ⟨-, rfl⟩ := hword.unique hword'
  by_cases hempty : word = ""
  · simp [hempty]
  · simp [hempty, Text.dropStart?_eq_some_iff]

theorem isSome_hint?_iff : (hint? c before).isSome = true ↔ NarrowSeparator before := by
  rw [hint?, Option.isSome_map, isSome_currentWord?_iff]

/-- **What is hinted at** is what is left of a word of the editor. -/
theorem hint?_eq_some_some {shown : String} (h : hint? c before = some (some shown))
    (hword : EndsIn before front word) : 2 ≤ word.utf8ByteSize ∧
      ∃ rest, rest ≠ "" ∧ word ++ rest ∈ words c ∧ shown = Style.dimmed.paint rest := by
  obtain ⟨⟨start, word'⟩, hcurrent, hshown⟩ := Option.map_eq_some_iff.1 h
  obtain ⟨front', hword', -⟩ := currentWord?_eq_some_iff.1 hcurrent
  obtain ⟨-, rfl⟩ := hword.unique hword'
  dsimp only at hshown
  split at hshown
  case isTrue => cases hshown
  case isFalse hsize =>
    refine ⟨Nat.le_of_not_lt hsize, ?_⟩
    obtain ⟨rest, hrest, rfl⟩ := Option.map_eq_some_iff.1 hshown
    obtain ⟨w, hw, hfound⟩ := List.exists_of_findSome?_eq_some hrest
    split at hfound
    case h_1 rest' hdrop =>
      obtain rfl := Text.dropStart?_eq_some_iff.1 hdrop
      split at hfound <;> cases hfound
      refine ⟨rest, fun hempty => ?_, hw, rfl⟩
      simp_all
    case h_2 => cases hfound

/-! ### Every position of every line -/

/-- What the editor does with the cursor between `before` and `after`. -/
structure Assists (c : BridgeConfig) (before after : String) : Prop where
  /-- It finds where the word starts exactly if the separator before it takes one byte. -/
  current_isSome : (currentWord? before).isSome = true ↔ NarrowSeparator before
  /-- Then the start is between two characters, and what follows it is made of letters, digits, `_`
  and `.`. -/
  current : ∀ {start word}, currentWord? before = some (start, word) →
    (String.Pos.Raw.mk start).IsValid before ∧
    ∃ front, before = front ++ word ∧ start = front.utf8ByteSize ∧
      ∀ c ∈ word.toList, inWord c = true
  /-- No longer text before the cursor is. -/
  longest : ∀ {start word front' word'}, currentWord? before = some (start, word) →
    before = front' ++ word' → (∀ c ∈ word'.toList, inWord c = true) → ∃ more, word = more ++ word'
  /-- Completion has an answer exactly if the word has been found. -/
  complete_isSome : (completeAt? c (before ++ after) before.utf8ByteSize).isSome = true ↔
    NarrowSeparator before
  /-- It offers, for insertion at the cursor, what is left of the words that begin with the one
  before the cursor, and of no others. -/
  complete : ∀ {pos candidates start word},
    completeAt? c (before ++ after) before.utf8ByteSize = some (pos, candidates) →
    currentWord? before = some (start, word) → pos = before.utf8ByteSize ∧
    ∀ w rest, (w, rest) ∈ candidates ↔ word ≠ "" ∧ w ∈ words c ∧ w = word ++ rest
  /-- Once it is inserted, the text before the cursor ends in what was offered. -/
  inserted : ∀ {pos candidates w rest},
    completeAt? c (before ++ after) before.utf8ByteSize = some (pos, candidates) →
    (w, rest) ∈ candidates → ∃ front, before ++ rest = front ++ w
  /-- Hints have an answer exactly if text follows the cursor, or the word has been found. -/
  hint_isSome : (hintAt? c (before ++ after) before.utf8ByteSize).isSome = true ↔
    after ≠ "" ∨ NarrowSeparator before
  /-- What is shown is what is left of a word that begins with the one before the cursor, which has
  more than one byte. -/
  hint : ∀ {start word shown}, hintAt? c (before ++ after) before.utf8ByteSize = some (some shown) →
    currentWord? before = some (start, word) → after = "" ∧ 2 ≤ word.utf8ByteSize ∧
    ∃ rest, rest ≠ "" ∧ word ++ rest ∈ words c ∧ shown = Style.dimmed.paint rest

theorem hintAt?_eq (c : BridgeConfig) (before after : String) :
    hintAt? c (before ++ after) before.utf8ByteSize =
      if after = "" then hint? c before else some none := by
  rw [hintAt?, String.utf8ByteSize_append]
  by_cases hafter : after = ""
  · subst hafter
    rw [if_neg (by simp), if_pos rfl, String.append_empty]
  · have hsize : after.utf8ByteSize ≠ 0 := fun h => hafter (String.utf8ByteSize_eq_zero_iff.1 h)
    rw [if_pos (by omega), if_neg hafter]

/-- **What the editor does at every position of every line.** -/
theorem assists (c : BridgeConfig) (before after : String) : Assists c before after where
  current_isSome := isSome_currentWord?_iff
  current h := by
    obtain ⟨front, hfront, rfl, -⟩ := currentWord?_eq_some_iff.1 h
    exact ⟨String.Pos.Raw.isValid_iff_exists_append.2 ⟨front, _, hfront.split, rfl⟩,
      front, hfront.split, rfl, hfront.inWord⟩
  longest h hsplit hword := by
    obtain ⟨front, hfront, -⟩ := currentWord?_eq_some_iff.1 h
    exact hfront.longest hsplit hword
  complete_isSome := by
    rw [completeAt?_eq, Option.isSome_map, isSome_complete?_iff]
  complete h hcurrent := by
    obtain ⟨front, hfront, -⟩ := currentWord?_eq_some_iff.1 hcurrent
    rw [completeAt?_eq, Option.map_eq_some_iff] at h
    obtain ⟨_, hcandidates, ⟨⟩⟩ := h
    exact ⟨rfl, fun _ _ => mem_complete?_iff hcandidates hfront⟩
  inserted h hmem := by
    rw [completeAt?_eq, Option.map_eq_some_iff] at h
    obtain ⟨_, hcandidates, ⟨⟩⟩ := h
    have hfront := endsIn_lastWord before
    obtain ⟨-, -, rfl⟩ := (mem_complete?_iff hcandidates hfront).1 hmem
    exact ⟨_, by rw [← String.append_assoc, ← hfront.split]⟩
  hint_isSome := by
    rw [hintAt?_eq]
    split
    case isTrue hafter => rw [isSome_hint?_iff, or_iff_right (not_not_intro hafter)]
    case isFalse hafter => exact iff_of_true rfl (.inl hafter)
  hint h hcurrent := by
    obtain ⟨front, hfront, -⟩ := currentWord?_eq_some_iff.1 hcurrent
    rw [hintAt?_eq] at h
    split at h
    case isTrue hafter => exact ⟨hafter, hint?_eq_some_some h hfront⟩
    case isFalse => cases h

/-- The start would be inside of the quotation mark, which takes two bytes. -/
example : currentWord? "«a" = none ∧ currentWord? "<a" = some (1, "a") := by
  decide +kernel

end Editor

end ScriptBridge
