import ScriptBridge.Proofs.Script.Failure

/-!
# How errors are described

An error that no script catches is described to the host by its `name`, the text that it is
converted to and the place where it was made.  Scripts can change all of that, as the properties are
looked up and the conversion is called when the error is described.

* `Bridge.runFor_describe` : an error that **tells what it is**, as errors do unless scripts change
  that, is described by its name and its message.
-/

namespace ScriptBridge

namespace Script

open Proc

/-- A text is found under a key. -/
def World.holdsText (w : World) (r : Ref) (key text : String) : Bool :=
  match (w.find? r (Key.ofString key)).map Property.holding with
  | some (.data (.string s)) => s = Str.ofString text
  | _ => false

/-- The function that makes a text of an error is found under `toString`. -/
def World.holdsErrorText (w : World) (r : Ref) : Bool :=
  match (w.find? r (Key.ofString "toString")).map Property.holding with
  | some (.data (.object f)) =>
    match (w.objects.getD f default).kind with
    | .native (.error .toString) [] => true
    | _ => false
  | _ => false

/-- An error has a name, a message and a stack that are texts, and it is converted to a text by the
function that is there for errors. -/
structure World.TellsError (w : World) (r : Ref) (name message stack : String) : Prop where
  isError : (w.objects.getD r default).isError = true
  named : w.holdsText r "name" name = true
  worded : w.holdsText r "message" message = true
  placed : w.holdsText r "stack" stack = true
  /-- Nothing stands in the way of its `toString`. -/
  unconverted : (w.find? r (.symbol Symbols.toPrimitive)).isNone = true
  converted : w.holdsErrorText r = true

instance (w : World) (r : Ref) (name message stack : String) :
    Decidable (w.TellsError r name message stack) :=
  decidable_of_iff ((w.objects.getD r default).isError = true ∧ w.holdsText r "name" name = true ∧
      w.holdsText r "message" message = true ∧ w.holdsText r "stack" stack = true ∧
      (w.find? r (.symbol Symbols.toPrimitive)).isNone = true ∧ w.holdsErrorText r = true)
    ⟨fun ⟨h₁, h₂, h₃, h₄, h₅, h₆⟩ => ⟨h₁, h₂, h₃, h₄, h₅, h₆⟩,
      fun h => ⟨h.isError, h.named, h.worded, h.placed, h.unconverted, h.converted⟩⟩

/-- What the host gets to know of an error. -/
def errorDescription (name message stack : String) : ScriptException where
  name := some name
  message := name ++ ": " ++ message
  stack := if stack.isEmpty then none else some stack

theorem ofString_append (s t : String) :
    Str.ofString (s ++ t) = Str.ofString s ++ Str.ofString t := by
  refine congrArg Str.mk ?_
  rw [String.toList_append, List.flatMap_append]
  rfl

section

variable {w : World}

/-- Reading a text. -/
theorem run_getOf_text {r : Ref} {key text : String} (h : w.holdsText r key text = true) :
    getOf r (Key.ofString key) w = .done (.ofString text) w := by
  refine run_getOf ?_
  unfold World.holdsText at h
  split at h
  · rename_i s hs
    rw [hs, of_decide_eq_true h]
    rfl
  · cases h

theorem run_textProperty? {r : Ref} {key text : String}
    (h : w.holdsText r key text = true) :
    Exchange.textProperty? r key w = .done (some text) w := by
  simp only [Exchange.textProperty?, run_bind, run_attempt, run_getOf_text h, Outcome.finish,
    Outcome.ofExcept, Outcome.bind, Value.ofString, Str.toString?_ofString]
  rfl

theorem run_toStr_string (s : Str) : toStr (.string s) w = .done s w := rfl

/-- The text of a value is that of the string that it is converted to. -/
theorem run_coerceText (v : Value) : (Exchange.coerceText v).run w =
    (toStr v w).bind fun s => (Exchange.textOf s).run := by
  have hcross : (Crossing.ofProc (toStr v)).run = do return .ok (← toStr v) := rfl
  simp only [Exchange.coerceText, ExceptT.run_bind, hcross, run_bind, run_pure, Outcome.bind_assoc,
    Outcome.bind]

/-- A text is its own text. -/
theorem run_textOf (text : String) :
    (Exchange.textOf (Str.ofString text)).run w = .done (.ok text) w := by
  rw [Exchange.textOf, Str.toString?_ofString]
  rfl

variable {r : Ref} {name message stack : String} (h : w.TellsError r name message stack)

include h

theorem run_stackOf :
    Exchange.stackOf r w = .done (if stack.isEmpty then none else some stack) w := by
  have htext : (Exchange.coerceText (.ofString stack)).run w = .done (.ok stack) w := by
    rw [run_coerceText, Value.ofString, run_toStr_string]
    exact run_textOf stack
  have hread : attempt (getOf r (Key.ofString "stack")) w = .done (.ok (.ofString stack)) w := by
    rw [run_attempt, run_getOf_text h.placed]
    rfl
  have hkind : (w.objects.getD r default).kind = .error := by
    have herror := h.isError
    unfold Object.isError at herror
    split at herror
    · assumption
    · cases herror
  simp only [Exchange.stackOf, run_bind, run_object, Outcome.bind, hkind, hread]
  simp only [Value.ofString] at htext ⊢
  simp only [run_bind, run_attempt, htext, Outcome.finish, Outcome.ofExcept, Outcome.bind]
  rfl

/-- The text of the error, as the function for that makes it. -/
theorem run_errorText (hname : name ≠ "") (hmessage : message ≠ "") :
    errorText (.object r) w = .done (.ofString (name ++ ": " ++ message)) w := by
  have hunits {s : String} (hs : s ≠ "") : (Str.ofString s).units.isEmpty = false := by
    cases hempty : (Str.ofString s).units.isEmpty with
    | false => rfl
    | true =>
      have hstr : Str.ofString s = Str.ofString "" := congrArg Str.mk (List.isEmpty_iff.1 hempty)
      exact absurd (Str.ofString_injective hstr) hs
  have hfield {key text : String}
      (hkey : w.holdsText r key text = true) :
      get (.object r) (Key.ofString key) w = .done (.string (Str.ofString text)) w :=
    run_getOf_text hkey
  simp only [errorText, isObject, if_true, run_bind, hfield h.named, hfield h.worded, Outcome.bind,
    run_toStr_string, hunits hname, hunits hmessage]
  simp only [Value.ofString, ofString_append]
  rfl

/-- The request to convert the error, and how it goes on. -/
theorem run_toStr (hname : name ≠ "") (hmessage : message ≠ "") :
    ∃ f k, toStr (.object r) w = .ask (.call (.object f) (.object r) []) w k ∧
      (Request.call (.object f) (.object r) []).run w =
        .done (.reply (.value (.ofString (name ++ ": " ++ message)))) w ∧
      k (.ok (.value (.ofString (name ++ ": " ++ message)))) w =
        .done (Str.ofString (name ++ ": " ++ message)) w := by
  obtain ⟨f, hf, hkind⟩ : ∃ f, (w.find? r (Key.ofString "toString")).map (·.holding) =
      some (.data (.object f)) ∧
        (w.objects.getD f default).kind = .native (.error .toString) [] := by
    have htext := h.converted
    unfold World.holdsErrorText at htext
    split at htext
    · rename_i f hf
      refine ⟨f, hf, ?_⟩
      split at htext
      · assumption
      · cases htext
    · cases htext
  -- it has no conversion of its own, so that `toString` is asked for
  have hmethod : getMethod (.object r) (.symbol Symbols.toPrimitive) w = .done .undefined w := by
    have hnone : get (.object r) (.symbol Symbols.toPrimitive) w = .done .undefined w := by
      obtain hnone : lookupIn w (.symbol Symbols.toPrimitive) (w.objects.size + 1) r = none :=
        Option.map_eq_none_iff.1 (Option.isNone_iff_eq_none.1 h.unconverted)
      simp only [Proc.get, getOf, getFrom, lookup, run_bind, run_world, run_pure,
        Outcome.bind, hnone]
    simp only [getMethod, run_bind, hnone, Outcome.bind]
    rfl
  have hget : get (.object r) (Key.ofString "toString") w = .done (.object f) w := run_getOf hf
  have hcallable : isCallable (.object f) w = .done true w := by
    simp only [isCallable, run_bind, run_object, Outcome.bind, run_pure, Object.isCallable, hkind]
  refine ⟨f, ?_⟩
  simp only [toStr, toPrimitive, isObject, Bool.not_true, Bool.false_eq_true, if_false, run_bind,
    hmethod, Outcome.bind, if_true, firstPrimitive, hget, hcallable]
  refine ⟨_, rfl, ?_, rfl⟩
  have hcall : callValue (.object f) (.object r) [] w = errorText (.object r) w := by
    simp only [callValue, run_bind, run_object, Outcome.bind, hkind]
    rfl
  have hrun : (Request.call (.object f) (.object r) []).run w =
      (callValue (.object f) (.object r) [] w).bind fun v w => .done (.reply (.value v)) w := rfl
  rw [hrun, hcall, run_errorText h hname hmessage]
  rfl

end

end Script

open Script

/-- **An error that tells what it is** is described by its name and its message. -/
theorem Bridge.runFor_describe {w : World} {r : Ref} {name message stack : String}
    (h : w.TellsError r name message stack) (hname : name ≠ "") (hmessage : message ≠ "") (n : Nat)
    (b : Bridge) : runFor (n + 3) (.top (Exchange.describe (.object r) w)) b =
      (some (.ok (errorDescription name message stack)), { b with world := w }) := by
  obtain ⟨g, k, htext, hcall, hk⟩ := run_toStr h hname hmessage
  simp only [Exchange.describe, Proc.run_bind, run_textProperty? h.named, run_stackOf h,
    Outcome.bind, Exchange.thrownText, Proc.run_attempt, run_coerceText, htext, Outcome.finish]
  simp only [runFor, Running.step, Running.answer, hcall, Running.deliver, hk, Outcome.bind,
    run_textOf, Outcome.finish]
  rfl

end ScriptBridge
