import ScriptBridge.Text.Decomposition

/-!
# Normal forms

Texts that mean the same can be written with composed characters or with their parts.  A normal form
settles how: taken apart (`decompose`) or put together again (`compose`), after the marks behind
each base are sorted by their classes.
-/

namespace ScriptBridge

namespace Text

/-- The normal forms of a text. -/
structure NormalForm where
  /-- Whether characters in another shape become plain ones. -/
  isCompatible : Bool
  /-- Whether parts are put together. -/
  isComposed : Bool
deriving DecidableEq, Repr

/-- The form of a name. -/
def NormalForm.ofName? : String → Option NormalForm
  | "NFC" => some ⟨false, true⟩
  | "NFD" => some ⟨false, false⟩
  | "NFKC" => some ⟨true, true⟩
  | "NFKD" => some ⟨true, false⟩
  | _ => none

/-- Puts a mark behind those before it that may not stand behind it; `before` is in reverse. -/
def insertMark (n : Nat) : List Nat → List Nat
  | [] => [n]
  | m :: before =>
    if markClass n < markClass m ∧ markClass n ≠ 0 then m :: insertMark n before
    else n :: m :: before

/-- A text with its marks in order. -/
def sortMarks (text : List Nat) : List Nat :=
  (text.foldl (fun acc n => insertMark n acc) []).reverse

/-- A text taken apart. -/
def decompose (isCompatible : Bool) (text : List Nat) : List Nat :=
  sortMarks (text.flatMap (partsOf isCompatible))

/-- The syllable that a letter of Hangul ends, behind a letter or a syllable. -/
def syllable? (a b : Nat) : Option Nat :=
  if 0x1100 ≤ a ∧ a < 0x1113 ∧ 0x1161 ≤ b ∧ b < 0x1176 then
    some (0xac00 + ((a - 0x1100) * 21 + (b - 0x1161)) * 28)
  else if 0xac00 ≤ a ∧ a < 0xac00 + 11172 ∧ (a - 0xac00) % 28 = 0 ∧ 0x11a8 ≤ b ∧ b < 0x11c3 then
    some (a + (b - 0x11a7))
  else none

/-- The character that two make. -/
def joined? (a b : Nat) : Option Nat :=
  if b < 0x300 then none
  else (syllable? a b).or ((Array.find? (fun e => e.2 == [a, b]) composedPairs).map (·.1))

/-- Puts a text together.  `base` is the last character that others can join, `marks` are those
behind it in reverse: one with a mark of its class, or with a base, in between joins nothing. -/
def composeFrom (base : Nat) (marks : List Nat) : List Nat → List Nat
  | [] => base :: marks.reverse
  | n :: rest =>
    let free := match marks with
      | [] => true
      | m :: _ => markClass m ≠ 0 ∧ markClass m < markClass n
    match if free then joined? base n else none with
    | some c => composeFrom c marks rest
    | none =>
      if markClass n = 0 then base :: marks.reverse ++ composeFrom n [] rest
      else composeFrom base (n :: marks) rest

/-- Puts a text together that is taken apart; what stands in front of the first base joins
nothing. -/
def compose (text : List Nat) : List Nat :=
  let start := text.takeWhile (markClass · ≠ 0)
  match text.dropWhile (markClass · ≠ 0) with
  | [] => start
  | base :: rest => start ++ composeFrom base [] rest

/-- A text in a normal form. -/
def normalize (form : NormalForm) (text : List Nat) : List Nat :=
  if text.all (· < 0x80) then text
  else
    let apart := decompose form.isCompatible text
    if form.isComposed then compose apart else apart

end Text

end ScriptBridge
