import ScriptBridge.Proofs.Bridge.Frame
import ScriptBridge.Proofs.Script.Outcome

/-!
# What evaluating and importing come to

* `ends_stage_evaluateLinked` : starting the evaluation of a linked module never fails, because what
  its body throws settles a promise; only cutting the engine off prevents it.
* `ends_stage_throwFault` : a program on the table that fails is a stage that fails.
* `ends_importedNamespace` : an import yields an object.
-/

namespace ScriptBridge

open Script

namespace Script.Proc

/-- Evaluating a linked module throws nothing. -/
theorem only_evaluateLinked (id : Nat) (order : List Nat) :
    Only (fun _ => True) False (evaluateLinked id order) := by
  have hattempt {α : Type} (p : Proc α) : Only (fun _ => True) False (discard (attempt p)) := by
    refine Only.bind (Only.attempt (Only.any p)) fun _ _ => .pure trivial
  have hstate (id : Nat) : Only (fun _ => True) False (moduleState id) :=
    Only.world.bind fun _ _ => .pure trivial
  have hnative (code : Native) (captured : List Value) (name : String) (arity : Nat) :
      Only (fun _ => True) False (allocNative code captured name arity) := fun _ => trivial
  have hfunctions (s : Ref) : Only (fun _ => True) False (resolvingFunctions s) :=
    (hnative _ _ _ _).bind fun resolve _ => (hnative _ _ _ _).bind fun reject _ => .pure trivial
  have hcapability : Only (fun _ => True) False ownCapability :=
    Only.bind (P := fun _ => True) (fun _ => trivial) fun p _ =>
      (hfunctions p.2).bind fun _ _ => .pure trivial
  refine (hattempt _).bind fun _ _ => (hstate id).bind fun m _ => (hstate _).bind fun root _ => ?_
  split
  · exact .pure trivial
  · refine hcapability.bind fun cap _ => ?_
    refine Only.bind (P := fun _ => True) (fun _ => trivial) fun _ _ => ?_
    exact (hattempt _).bind fun _ _ => .pure trivial

/-- The error for a module that cannot be had is always thrown. -/
theorem only_throwFault {α : Type} (f : ModuleFault) :
    Only (fun _ => False) True (throwFault f : Proc α) :=
  (Only.any _).bind fun _ _ _ => trivial

end Script.Proc

namespace BridgeM

variable {α : Type} {b : Bridge}

/-- What running a procedure comes to from a world, unless the engine is cut off. -/
theorem ends_perform_of {P : Except BridgeError α → Prop} {E : Prop}
    {p : Proc (Except BridgeError α)} (h : (p b.world).Only P E) :
    Ends (perform p) b fun r b' =>
      b'.isHalted = true ∧ r = .error (.engine .exhausted) ∨ P r ∨
        E ∧ r = .error (.engine .refused) := by
  unfold Ends
  rw [exec_perform]
  split_ifs with hb
  · exact .inl ⟨hb, rfl⟩
  · have hrun := Bridge.runFor_only (r := .top (p b.world)) h Bridge.stepLimit
      { b with world := default }
    rcases hrun with hnone | ⟨r, hsome, hr⟩ | ⟨v, hthrown, hE⟩
    · exact .inl ⟨by simp [hnone], by simp [hnone, outcomeOf]⟩
    · exact .inr (.inl (by simpa [hsome, outcomeOf] using hr))
    · exact .inr (.inr ⟨hE, by simp [hthrown, outcomeOf]⟩)

theorem ends_perform {P : Except BridgeError α → Prop} {E : Prop}
    {p : Proc (Except BridgeError α)} (h : p.Only P E) (b : Bridge) :
    Ends (perform p) b fun r b' =>
      b'.isHalted = true ∧ r = .error (.engine .exhausted) ∨ P r ∨
        E ∧ r = .error (.engine .refused) :=
  ends_perform_of (h b.world)

/-- A stage that has failed is not passed. -/
theorem ends_stage_throwFault (name : String) (s : ModuleStage) (f : ModuleFault) (b : Bridge) :
    Ends (stage name s (Proc.throwFault f : Proc α)) b fun r _ => ∃ e, r = .error e := by
  have hattempt := Proc.Only.attempt (Proc.only_throwFault (α := α) f)
  unfold stage
  refine (ends_perform (P := fun r => ∃ e, r = .error e) (E := True) ?_ b).mono ?_
  · refine (hattempt.mono False.elim).bind ?_
    rintro _ (⟨_, -, h⟩ | ⟨-, v, rfl⟩)
    · exact h.elim
    · exact (Proc.Only.any _).bind fun _ _ => .pure ⟨_, rfl⟩
  · rintro r b' (⟨-, rfl⟩ | hr | ⟨-, rfl⟩)
    · exact ⟨_, rfl⟩
    · exact hr
    · exact ⟨_, rfl⟩

/-- The evaluation of a linked module starts, or the engine is cut off. -/
theorem ends_stage_evaluateLinked (name : String) (s : ModuleStage) (id : Nat) (order : List Nat)
    (b : Bridge) :
    Ends (stage name s (Proc.evaluateLinked id order)) b fun r b' =>
      b'.isHalted = true ∨ ∃ promise, r = .ok promise := by
  have hattempt := Proc.Only.attempt (Proc.only_evaluateLinked id order)
  unfold stage
  refine (ends_perform (P := fun r => ∃ promise, r = .ok promise) (E := False) ?_ b).mono ?_
  · refine hattempt.bind ?_
    rintro _ (⟨promise, rfl, -⟩ | ⟨h, -⟩)
    · exact .pure ⟨promise, rfl⟩
    · exact h.elim
  · rintro r b' (⟨hhalted, -⟩ | hr | ⟨h, -⟩)
    · exact .inl hhalted
    · exact .inr hr
    · exact h.elim

/-- An import yields an object. -/
theorem ends_importedNamespace (name : String) (promise : Value) (b : Bridge) :
    Ends (importedNamespace name promise) b fun r _ => ∀ v, r = .ok v → ∃ ns, v = .object ns := by
  unfold importedNamespace
  refine (ends_perform (P := fun r => ∀ v, r = .ok v → ∃ ns, v = .object ns)
    (E := True) ?_ b).mono ?_
  · refine (Proc.Only.any _).bind fun state _ => ?_
    split
    · refine .pure ?_
      rintro _ ⟨⟩
      exact ⟨_, rfl⟩
    · exact .pure nofun
    · exact (Proc.Only.any _).bind fun _ _ => .pure nofun
    · exact .pure nofun
  · rintro r b' (⟨-, rfl⟩ | hr | ⟨-, rfl⟩)
    · nofun
    · exact hr
    · nofun

end BridgeM

end ScriptBridge
