import Mathlib.Data.List.Induction
import Mathlib.Tactic.SplitIfs
import ScriptBridge.Repl.Editor

/-!
# Complete entries

An entry is complete when its brackets are.  What brackets a text has is said without the scan: a
text is made of literals, of brackets, and of characters that do not matter, and perhaps ends in a
literal that is left open (`Leaves`).  Brackets are nested as the grammar `WellNested` says; `Due`
says which of them are still open, and in which order they are to be closed.

* `pending?_eq_some_iff`, `mismatched_iff` : a stack of closers follows brackets exactly as far as
  **none is closed that is not due**.
* `leaves_iff` : every text leaves one sequence of brackets.
* `scan_eq_verdict` : the scan looks at the brackets that a text leaves, and at nothing else.
* `complete_iff_nested` : **what a complete entry is**; literals do not matter, and every entry that
  is not complete can be completed.
-/

namespace ScriptBridge

namespace Editor

/-! ### Texts and their brackets -/

/-- Whether a character opens or closes brackets. -/
def isBracket (c : Char) : Bool := (closer? c).isSome || isCloser c

/-- What may stand in a literal: a backslash hides the character behind it. -/
inductive Body (quote : Char) : List Char → Prop
  | nil : Body quote []
  | shown {c : Char} {rest : List Char} (hquote : c ≠ quote) (hslash : c ≠ '\\')
    (h : Body quote rest) : Body quote (c :: rest)
  | hidden {c : Char} {rest : List Char} (h : Body quote rest) : Body quote ('\\' :: c :: rest)

/-- A text literal from its quote to the same quote. -/
inductive Literal : List Char → Prop
  | closed {quote : Char} {body : List Char} (hquote : isQuote quote = true)
    (h : Body quote body) : Literal (quote :: (body ++ [quote]))

/-- A literal that a text ends in, perhaps with a backslash that hides nothing yet. -/
inductive OpenLiteral : List Char → Prop
  | body {quote : Char} {body : List Char} (hquote : isQuote quote = true)
    (h : Body quote body) : OpenLiteral (quote :: body)
  | slash {quote : Char} {body : List Char} (hquote : isQuote quote = true)
    (h : Body quote body) : OpenLiteral (quote :: (body ++ ['\\']))

/-- The brackets that a text leaves when literals and all other characters are taken out, and
whether it ends outside of literals. -/
inductive Leaves : List Char → List Char → Bool → Prop
  | nil : Leaves [] [] true
  | bracket {c : Char} {rest brackets : List Char} {ended : Bool} (hc : isBracket c = true)
    (h : Leaves rest brackets ended) : Leaves (c :: rest) (c :: brackets) ended
  | other {c : Char} {rest brackets : List Char} {ended : Bool} (hc : isBracket c = false)
    (hquote : isQuote c = false) (h : Leaves rest brackets ended) :
    Leaves (c :: rest) brackets ended
  | literal {literal rest brackets : List Char} {ended : Bool} (hl : Literal literal)
    (h : Leaves rest brackets ended) : Leaves (literal ++ rest) brackets ended
  | unended {literal : List Char} (hl : OpenLiteral literal) : Leaves literal [] false

/-! ### The grammar of brackets -/

/-- Brackets that are nested and all closed. -/
inductive WellNested : List Char → Prop
  | nil : WellNested []
  | nest {o c : Char} {inner rest : List Char} (ho : closer? o = some c) (hinner : WellNested inner)
    (h : WellNested rest) : WellNested (o :: (inner ++ c :: rest))

/-- Brackets that are nested as far as they go, and the closers of those that are still open, the
innermost first. -/
inductive Due : List Char → List Char → Prop
  | nested {brackets : List Char} (h : WellNested brackets) : Due brackets []
  | opens {o c : Char} {front inner due : List Char} (h : Due front due) (ho : closer? o = some c)
    (hinner : WellNested inner) : Due (front ++ o :: inner) (c :: due)

/-- Somewhere a bracket is closed that is not the innermost open one. -/
def Mismatched (brackets : List Char) : Prop :=
  ∃ front c rest due, brackets = front ++ c :: rest ∧ isCloser c = true ∧ Due front due ∧
    due.head? ≠ some c

variable {c o quote : Char}
  {text text' rest literal body body' brackets brackets' opened due : List Char} {ended : Bool}

theorem WellNested.append (h : WellNested brackets) (h' : WellNested brackets') :
    WellNested (brackets ++ brackets') := by
  induction h with
  | nil => exact h'
  | nest ho hinner _ _ ih =>
    rw [List.cons_append, List.append_assoc, List.cons_append]
    exact .nest ho hinner ih

theorem Due.append (h : Due brackets due) (h' : WellNested brackets') :
    Due (brackets ++ brackets') due := by
  cases h with
  | nested h => exact .nested (h.append h')
  | opens h ho hinner =>
    rw [List.append_assoc, List.cons_append]
    exact .opens h ho (hinner.append h')

/-- The innermost open bracket is closed. -/
theorem Due.close (h : Due brackets (c :: due)) : Due (brackets ++ [c]) due := by
  cases h with
  | opens h ho hinner =>
    rw [List.append_assoc, List.cons_append]
    exact h.append (.nest ho hinner .nil)

/-! ### The stack of closers -/

/-- The closers that are due behind a bracket; none if it closes what is not due. -/
def stepBracket? (opened : List Char) (c : Char) : Option (List Char) :=
  match closer? c with
  | some close => some (close :: opened)
  | none => if opened.head? = some c then some opened.tail else none

/-- The closers that are due behind brackets. -/
def pending? (opened brackets : List Char) : Option (List Char) :=
  brackets.foldlM stepBracket? opened

/-- No bracket both opens and closes. -/
theorem closer?_of_isCloser (hc : isCloser c = true) : closer? c = none := by
  simp only [isCloser, Bool.or_eq_true, decide_eq_true_eq] at hc
  obtain (rfl | rfl) | rfl := hc <;> rfl

theorem isCloser_of_closer? (ho : closer? o = some c) : isCloser c = true := by
  unfold closer? at ho
  split_ifs at ho <;> cases ho <;> rfl

theorem stepBracket?_of_closer? (ho : closer? o = some c) :
    stepBracket? opened o = some (c :: opened) := by
  rw [stepBracket?, ho]

theorem stepBracket?_of_none (hc : closer? c = none) :
    stepBracket? opened c = if opened.head? = some c then some opened.tail else none := by
  rw [stepBracket?, hc]

theorem stepBracket?_due (hc : isCloser c = true) : stepBracket? (c :: opened) c = some opened := by
  rw [stepBracket?_of_none (closer?_of_isCloser hc)]
  exact if_pos rfl

theorem pending?_cons (opened : List Char) (c : Char) (brackets : List Char) :
    pending? opened (c :: brackets) = (stepBracket? opened c).bind (pending? · brackets) :=
  List.foldlM_cons ..

theorem pending?_append (opened brackets brackets' : List Char) :
    pending? opened (brackets ++ brackets') =
      (pending? opened brackets).bind (pending? · brackets') :=
  List.foldlM_append ..

/-- What is due is closed in its order. -/
theorem pending?_due (hdue : ∀ c ∈ due, isCloser c = true) : pending? due due = some [] := by
  induction due with
  | nil => rfl
  | cons c due ih =>
    rw [pending?_cons, stepBracket?_due (hdue c List.mem_cons_self)]
    exact ih fun c hc => hdue c (List.mem_cons_of_mem _ hc)

/-- Nested brackets leave the stack as it was. -/
theorem pending?_of_wellNested (h : WellNested brackets) (opened : List Char) :
    pending? opened brackets = some opened := by
  induction h generalizing opened with
  | nil => rfl
  | nest ho _ _ ihinner ih =>
    rw [pending?_cons, stepBracket?_of_closer? ho, Option.bind_some, pending?_append, ihinner,
      Option.bind_some, pending?_cons, stepBracket?_due (isCloser_of_closer? ho)]
    exact ih opened

theorem pending?_of_due (h : Due brackets due) : pending? [] brackets = some due := by
  induction h with
  | nested h => exact pending?_of_wellNested h []
  | opens _ ho hinner ih =>
    rw [pending?_append, ih, Option.bind_some, pending?_cons, stepBracket?_of_closer? ho,
      Option.bind_some, pending?_of_wellNested hinner]

theorem due_of_pending? (h : pending? [] brackets = some due) : Due brackets due := by
  induction brackets using List.reverseRecOn generalizing due with
  | nil =>
    cases h
    exact .nested .nil
  | append_singleton brackets c ih =>
    rw [pending?_append] at h
    obtain ⟨due₁, hdue₁, hstep⟩ := Option.bind_eq_some_iff.1 h
    rw [pending?_cons] at hstep
    obtain ⟨due₂, hstep, ⟨⟩⟩ := Option.bind_eq_some_iff.1 hstep
    cases hc : closer? c with
    | some close =>
      rw [stepBracket?_of_closer? hc] at hstep
      cases hstep
      exact .opens (ih hdue₁) hc .nil
    | none =>
      rw [stepBracket?_of_none hc] at hstep
      split_ifs at hstep with hhead
      cases hstep
      obtain ⟨rest, rfl⟩ := List.head?_eq_some_iff.1 hhead
      exact (ih hdue₁).close

/-- **The stack follows the grammar.** -/
theorem pending?_eq_some_iff : pending? [] brackets = some due ↔ Due brackets due :=
  ⟨due_of_pending?, pending?_of_due⟩

theorem pending?_eq_nil_iff : pending? [] brackets = some [] ↔ WellNested brackets := by
  rw [pending?_eq_some_iff]
  constructor
  · rintro ⟨h⟩
    assumption
  · exact .nested

/-- **It gets stuck where a bracket is closed that is not due.** -/
theorem mismatched_iff (hb : ∀ c ∈ brackets, isBracket c = true) :
    Mismatched brackets ↔ pending? [] brackets = none := by
  constructor
  · rintro ⟨front, c, rest, due, rfl, hc, hdue, hhead⟩
    rw [pending?_append, pending?_of_due hdue, Option.bind_some, pending?_cons,
      stepBracket?_of_none (closer?_of_isCloser hc), if_neg hhead]
    rfl
  · intro h
    induction brackets using List.reverseRecOn with
    | nil => cases h
    | append_singleton brackets c ih =>
      cases hfront : pending? [] brackets with
      | none =>
        obtain ⟨front, c', rest, due, rfl, hc', hdue⟩ :=
          ih (fun c hc => hb c (List.mem_append_left _ hc)) hfront
        exact ⟨front, c', rest ++ [c], due, by simp, hc', hdue⟩
      | some due =>
        rw [pending?_append, hfront, Option.bind_some, pending?_cons] at h
        have hbracket : isBracket c = true := hb c (by simp)
        cases hc : closer? c with
        | some close =>
          rw [stepBracket?_of_closer? hc] at h
          cases h
        | none =>
          rw [stepBracket?_of_none hc] at h
          refine ⟨brackets, c, [], due, rfl, ?_, due_of_pending? hfront, fun hhead => ?_⟩
          · rwa [isBracket, hc] at hbracket
          · rw [if_pos hhead] at h
            cases h

/-! ### Each text leaves one sequence of brackets -/

theorem Body.append (h : Body quote body) (h' : Body quote body') : Body quote (body ++ body') := by
  induction h with
  | nil => exact h'
  | shown hquote hslash _ ih => exact .shown hquote hslash ih
  | hidden _ ih => exact .hidden ih

mutual

/-- The brackets that a text leaves, and whether it ends outside of literals. -/
def strip : List Char → List Char × Bool
  | [] => ([], true)
  | c :: rest =>
    if isQuote c then stripLiteral c rest
    else if isBracket c then (c :: (strip rest).1, (strip rest).2) else strip rest

/-- The same of a text that stands in a literal that `quote` closes. -/
def stripLiteral (quote : Char) : List Char → List Char × Bool
  | [] => ([], false)
  | [c] => ([], c ≠ '\\' && c = quote)
  | c :: d :: rest =>
    if c = '\\' then stripLiteral quote rest
    else if c = quote then strip (d :: rest)
    else stripLiteral quote (d :: rest)

end

theorem not_slash_of_isQuote (hquote : isQuote quote = true) : quote ≠ '\\' := by
  rintro rfl
  cases hquote

theorem isQuote_of_isBracket (hc : isBracket c = true) : isQuote c = false := by
  simp only [isBracket, closer?, isCloser, Bool.or_eq_true, decide_eq_true_eq] at hc
  by_contra hquote
  simp only [isQuote, Bool.not_eq_false, Bool.or_eq_true, decide_eq_true_eq] at hquote
  obtain (rfl | rfl) | rfl := hquote <;> simp at hc

theorem stripLiteral_closed (hquote : isQuote quote = true) (rest : List Char) :
    stripLiteral quote (quote :: rest) = strip rest := by
  have hslash := not_slash_of_isQuote hquote
  cases rest with
  | nil => simp [stripLiteral, strip, hslash]
  | cons d rest => rw [stripLiteral, if_neg hslash, if_pos rfl]

theorem stripLiteral_shown (hquote : c ≠ quote) (hslash : c ≠ '\\') (rest : List Char) :
    stripLiteral quote (c :: rest) = stripLiteral quote rest := by
  cases rest with
  | nil => simp [stripLiteral, hquote]
  | cons d rest => rw [stripLiteral, if_neg hslash, if_neg hquote]

/-- What may stand in a literal does not matter. -/
theorem stripLiteral_body (h : Body quote body) (rest : List Char) :
    stripLiteral quote (body ++ rest) = stripLiteral quote rest := by
  induction h with
  | nil => rfl
  | shown hquote hslash _ ih => rw [List.cons_append, stripLiteral_shown hquote hslash, ih]
  | hidden _ ih => rw [List.cons_append, List.cons_append, stripLiteral, if_pos rfl, ih]

theorem strip_quote (hquote : isQuote quote = true) (rest : List Char) :
    strip (quote :: rest) = stripLiteral quote rest := by
  rw [strip, if_pos hquote]

theorem strip_of_leaves (h : Leaves text brackets ended) : strip text = (brackets, ended) := by
  induction h with
  | nil => rfl
  | bracket hc _ ih =>
    rw [strip, isQuote_of_isBracket hc, if_neg Bool.false_ne_true, if_pos hc, ih]
  | other hc hquote _ ih =>
    rw [strip, hquote, if_neg Bool.false_ne_true, hc, if_neg Bool.false_ne_true, ih]
  | literal hl _ ih =>
    obtain ⟨hquote, hbody⟩ := hl
    rw [List.cons_append, List.append_assoc, strip_quote hquote, stripLiteral_body hbody,
      List.singleton_append, stripLiteral_closed hquote, ih]
  | unended hl =>
    obtain ⟨hquote, hbody⟩ | ⟨hquote, hbody⟩ := hl
    · have hread := stripLiteral_body hbody []
      rw [List.append_nil] at hread
      rw [strip_quote hquote, hread]
      rfl
    · rw [strip_quote hquote, stripLiteral_body hbody]
      rfl

/-- The induction is on the text that is still to be read; inside of a literal, what has been read
of it since its quote is carried along. -/
theorem leaves_strip (text : List Char) : Leaves text (strip text).1 (strip text).2 := by
  -- on how the text is stripped: outside of literals, and in one whose body was read up to here
  refine strip.induct (fun text => Leaves text (strip text).1 (strip text).2)
    (fun quote text => isQuote quote = true → ∀ {body}, Body quote body →
      Leaves (quote :: (body ++ text)) (stripLiteral quote text).1 (stripLiteral quote text).2)
    .nil ?quote ?bracket ?other ?unended ?last ?hidden ?closed ?shown text
  case quote =>
    intro quote rest hquote ih
    rw [strip_quote hquote]
    exact ih hquote .nil
  case bracket =>
    intro c rest hquote hc ih
    rw [strip, if_neg hquote, if_pos hc]
    exact .bracket hc ih
  case other =>
    intro c rest hquote hc ih
    rw [strip, if_neg hquote, if_neg hc]
    exact .other (Bool.eq_false_iff.2 hc) (Bool.eq_false_iff.2 hquote) ih
  case unended =>
    intro quote hquote body hbody
    rw [List.append_nil]
    exact .unended (.body hquote hbody)
  case last =>
    intro quote c hquote body hbody
    by_cases hslash : c = '\\'
    · subst hslash
      exact .unended (.slash hquote hbody)
    · by_cases hc : c = quote
      · subst hc
        rw [stripLiteral_closed hquote]
        simpa [strip] using Leaves.literal (.closed hquote hbody) .nil
      · rw [stripLiteral_shown hc hslash]
        exact .unended (.body hquote (hbody.append (.shown hc hslash .nil)))
  case hidden =>
    intro quote d rest ih hquote body hbody
    rw [stripLiteral, if_pos rfl]
    simpa using ih hquote (hbody.append (.hidden (c := d) .nil))
  case closed =>
    intro quote d rest _ ih hquote body hbody
    rw [stripLiteral_closed hquote]
    simpa using Leaves.literal (.closed hquote hbody) ih
  case shown =>
    intro quote c d rest hslash hc ih hquote body hbody
    rw [stripLiteral_shown hc hslash]
    simpa using ih hquote (hbody.append (.shown hc hslash .nil))

/-- **Every text leaves one sequence of brackets.** -/
theorem leaves_iff : Leaves text brackets ended ↔ strip text = (brackets, ended) := by
  refine ⟨strip_of_leaves, fun h => ?_⟩
  have hleaves := leaves_strip text
  rwa [h] at hleaves

theorem Leaves.isBracket (h : Leaves text brackets ended) (hc : c ∈ brackets) :
    isBracket c = true := by
  induction h with
  | nil | unended => cases hc
  | bracket hbracket _ ih =>
    obtain rfl | hc := List.mem_cons.1 hc
    · exact hbracket
    · exact ih hc
  | other _ _ _ ih | literal _ _ ih => exact ih hc

/-- A text that ends outside of literals can be followed by any text. -/
theorem Leaves.append (h : Leaves text brackets true) (h' : Leaves text' brackets' ended) :
    Leaves (text ++ text') (brackets ++ brackets') ended := by
  generalize htrue : true = outside at h
  induction h with
  | nil => exact h'
  | bracket hc _ ih => exact .bracket hc (ih htrue)
  | other hc hquote _ ih => exact .other hc hquote (ih htrue)
  | literal hl _ ih =>
    rw [List.append_assoc]
    exact .literal hl (ih htrue)
  | unended => cases htrue

theorem OpenLiteral.exists_literal (h : OpenLiteral literal) :
    ∃ more, Literal (literal ++ more) := by
  obtain @⟨quote, body, hquote, hbody⟩ | @⟨quote, body, hquote, hbody⟩ := h
  · exact ⟨[quote], .closed hquote hbody⟩
  · refine ⟨[quote, quote], ?_⟩
    simpa using Literal.closed hquote (hbody.append (.hidden (c := quote) .nil))

/-- A literal that is left open can be closed. -/
theorem Leaves.exists_ended (h : Leaves text brackets ended) :
    ∃ more, Leaves (text ++ more) brackets true := by
  induction h with
  | nil => exact ⟨[], .nil⟩
  | bracket hc _ ih => exact ih.imp fun _ h => .bracket hc h
  | other hc hquote _ ih => exact ih.imp fun _ h => .other hc hquote h
  | literal hl _ ih =>
    refine ih.imp fun _ h => ?_
    rw [List.append_assoc]
    exact .literal hl h
  | unended hl =>
    obtain ⟨more, hl⟩ := hl.exists_literal
    exact ⟨more, by simpa using Leaves.literal hl .nil⟩

theorem Due.isCloser (h : Due brackets due) (hc : c ∈ due) : isCloser c = true := by
  induction h with
  | nested => cases hc
  | opens _ ho _ ih =>
    obtain rfl | hc := List.mem_cons.1 hc
    · exact isCloser_of_closer? ho
    · exact ih hc

/-- Closers leave themselves. -/
theorem leaves_of_isCloser (hdue : ∀ c ∈ due, isCloser c = true) : Leaves due due true := by
  induction due with
  | nil => exact .nil
  | cons c due ih =>
    refine .bracket ?_ (ih fun c hc => hdue c (List.mem_cons_of_mem _ hc))
    rw [Editor.isBracket, hdue c List.mem_cons_self, Bool.or_true]

/-! ### The scan -/

/-- What the scan answers about brackets that stand behind open ones. -/
def verdict (opened : List Char) (reading : List Char × Bool) : Bool :=
  match pending? opened reading.1 with
  | some due => due.isEmpty && reading.2
  | none => true

theorem verdict_bracket (opened : List Char) (c : Char) (reading : List Char × Bool)
    (h : stepBracket? opened c = some due) :
    verdict opened (c :: reading.1, reading.2) = verdict due reading := by
  rw [verdict, pending?_cons, h]
  rfl

theorem verdict_mismatched (opened : List Char) (c : Char) (reading : List Char × Bool)
    (h : stepBracket? opened c = none) : verdict opened (c :: reading.1, reading.2) = true := by
  rw [verdict, pending?_cons, h]
  rfl

theorem verdict_nil (opened : List Char) (ended : Bool) :
    verdict opened ([], ended) = (opened.isEmpty && ended) := rfl

/-- A bracket changes the open ones, and ends the scan if it closes what is not due. -/
theorem scan_cons (opened : List Char) (c : Char) (rest : List Char) :
    scan opened (c :: rest) =
      if isQuote c then scanLiteral c opened rest
      else if isBracket c then ((stepBracket? opened c).map (scan · rest)).getD true
      else scan opened rest := by
  by_cases hquote : isQuote c = true
  · cases opened <;> rw [scan, if_pos hquote, if_pos hquote]
  rw [if_neg hquote]
  cases hopen : closer? c with
  | some close =>
    rw [isBracket, stepBracket?_of_closer? hopen, hopen]
    cases opened <;> rw [scan, if_neg hquote, hopen] <;> rfl
  | none =>
    rw [isBracket, stepBracket?_of_none hopen, hopen]
    cases opened with
    | nil => rw [scan, if_neg hquote, hopen]; rfl
    | cons due opened =>
      rw [scan, if_neg hquote, hopen]
      by_cases hdue : due = c <;> simp [hdue]

/-- **The scan looks at the brackets that a text leaves**, each against those that are open before
it. -/
theorem scan_eq_verdict (opened text : List Char) :
    scan opened text = verdict opened (strip text) := by
  revert opened
  -- the scan reads a text as it is stripped, so the cases are those of the stripping
  refine strip.induct (fun text => ∀ opened, scan opened text = verdict opened (strip text))
    (fun quote text => ∀ opened,
      scanLiteral quote opened text = verdict opened (stripLiteral quote text))
    ?nil ?quote ?bracket ?other ?unended ?last ?hidden ?closed ?shown text
  case nil =>
    intro opened
    cases opened <;> rfl
  case quote =>
    intro quote rest hquote ih opened
    rw [scan_cons, if_pos hquote, ih, strip_quote hquote]
  case bracket =>
    intro c rest hquote hc ih opened
    rw [scan_cons, if_neg hquote, if_pos hc, strip, if_neg hquote, if_pos hc]
    cases hstep : stepBracket? opened c with
    | some due => rw [verdict_bracket _ _ _ hstep, Option.map_some, Option.getD_some, ih]
    | none => rw [verdict_mismatched _ _ _ hstep, Option.map_none, Option.getD_none]
  case other =>
    intro c rest hquote hc ih opened
    rw [scan_cons, if_neg hquote, if_neg hc, strip, if_neg hquote, if_neg hc, ih]
  case unended =>
    intro quote opened
    rw [scanLiteral, stripLiteral, verdict_nil, Bool.and_false]
  case last =>
    intro quote c opened
    rw [scanLiteral, stripLiteral, verdict_nil]
    by_cases hslash : c = '\\' <;> simp [hslash, Bool.and_comm]
  case hidden =>
    intro quote d rest ih opened
    rw [scanLiteral, stripLiteral, if_pos rfl, if_pos rfl, ih]
  case closed =>
    intro quote d rest hslash ih opened
    rw [scanLiteral, stripLiteral, if_neg hslash, if_neg hslash, if_pos rfl, if_pos rfl, ih]
  case shown =>
    intro quote c d rest hslash hc ih opened
    rw [scanLiteral, stripLiteral, if_neg hslash, if_neg hslash, if_neg hc, if_neg hc, ih]

/-- What the scan answers about the brackets of a text. -/
theorem isBalanced_of_leaves {s : String} (h : Leaves s.toList brackets ended) :
    isBalanced s = verdict [] (brackets, ended) := by
  rw [isBalanced, scan_eq_verdict, leaves_iff.1 h]

theorem verdict_eq_true_iff (hb : ∀ c ∈ brackets, isBracket c = true) :
    verdict [] (brackets, ended) = true ↔
      Mismatched brackets ∨ ended = true ∧ WellNested brackets := by
  rw [mismatched_iff hb, ← pending?_eq_nil_iff, verdict]
  cases pending? [] brackets with
  | none => simp
  | some due => simp [and_comm]

/-! ### Complete entries -/

/-- What it is for an entry to be complete. -/
structure Entry (s : String) : Prop where
  /-- An entry has one reading: the brackets that stand outside of literals, and whether the entry
  ends outside of literals. -/
  reading : ∃! reading : List Char × Bool, Leaves s.toList reading.1 reading.2
  /-- It is complete when a bracket is closed that is not the innermost open one, whatever follows
  it, or when its brackets are nested and no literal is left open; and only then. -/
  complete_iff : ∀ {brackets ended}, Leaves s.toList brackets ended →
    (isBalanced s = true ↔ Mismatched brackets ∨ ended = true ∧ WellNested brackets)
  /-- A literal can be put anywhere outside of literals. -/
  literal : ∀ {before after literal : String} {brackets}, s = before ++ after →
    Leaves before.toList brackets true → Literal literal.toList →
    isBalanced (before ++ literal ++ after) = isBalanced s
  /-- What is not complete can be completed. -/
  completable : isBalanced s = false → ∃ more, isBalanced (s ++ more) = true

/-- A literal leaves nothing. -/
theorem isBalanced_literal {before after literal : String}
    (hbefore : Leaves before.toList brackets true) (hl : Literal literal.toList) :
    isBalanced (before ++ literal ++ after) = isBalanced (before ++ after) := by
  have hafter := leaves_strip after.toList
  have hplain := hbefore.append hafter
  have hfilled := hbefore.append (.literal hl hafter)
  rw [← String.toList_append] at hplain
  rw [← List.append_assoc, ← String.toList_append, ← String.toList_append] at hfilled
  rw [isBalanced_of_leaves hplain, isBalanced_of_leaves hfilled]

/-- First the literal is closed in which the text ends, then the brackets that are due. -/
theorem exists_isBalanced_append {s : String} (h : isBalanced s = false) :
    ∃ more, isBalanced (s ++ more) = true := by
  have hleaves := leaves_strip s.toList
  rw [isBalanced_of_leaves hleaves] at h
  cases hdue : pending? [] (strip s.toList).1 with
  | none =>
    rw [verdict, hdue] at h
    cases h
  | some due =>
    have hclosers : ∀ c ∈ due, isCloser c = true := fun _ => (due_of_pending? hdue).isCloser
    obtain ⟨more, hmore⟩ := hleaves.exists_ended
    have hclosed := hmore.append (leaves_of_isCloser hclosers)
    refine ⟨String.ofList (more ++ due), ?_⟩
    rw [List.append_assoc, ← String.toList_ofList (l := more ++ due),
      ← String.toList_append] at hclosed
    rw [isBalanced_of_leaves hclosed, verdict, pending?_append, hdue, Option.bind_some,
      pending?_due hclosers]
    rfl

/-- **What a complete entry is.** -/
theorem complete_iff_nested (s : String) : Entry s where
  reading := ⟨strip s.toList, leaves_iff.2 rfl, fun _ h => (leaves_iff.1 h).symm⟩
  complete_iff h := by
    rw [isBalanced_of_leaves h]
    exact verdict_eq_true_iff fun _ => h.isBracket
  literal hs hbefore hl := by
    rw [hs]
    exact isBalanced_literal hbefore hl
  completable := exists_isBalanced_append

/-- The quote that a backslash hides closes nothing, and the bracket in the literal does not
count. -/
example : isBalanced "print(\"\\\"(\")" = true ∧ isBalanced "print(\"\\\")" = false := by decide

end Editor

end ScriptBridge
