import ScriptBridge.Proofs.Script.Finish

/-!
# Errors for failed host calls

The error that a script gets for a failed host call is made with whatever the global `Error` is at
that time.

* `BridgeM.exec_hostCallError` : where that is still **the function that makes errors**, the engine
  makes an error with the message of the host, and its name is `HostCallError`.
-/

namespace ScriptBridge

namespace Script

open Proc

/-- The property that is found under a key of an object or of a prototype of it. -/
def World.find? (w : World) (r : Ref) (k : Key) : Option Property :=
  (lookupIn w k (w.objects.size + 1) r).map (·.2)

/-- The global `Error` is the function that makes errors, they get a prototype, and what they
inherit lets them have a name. -/
structure World.MakesErrors (w : World) (ctor proto : Ref) : Prop where
  global : (w.find? Intrinsic.global (Key.ofString "Error")).map (·.holding) =
    some (.data (.object ctor))
  builtin : (w.objects.getD ctor default).kind = .native (.error (.make .error)) []
  prototype : (w.find? ctor (Key.ofString "prototype")).map (·.holding) =
    some (.data (.object proto))
  named : ∃ p v, w.find? proto (Key.ofString "name") = some p ∧ p.holding = .data v ∧
    p.writable = true

/-- A value is an error for a failed host call, with a message. -/
def World.IsHostCallError (w : World) (v : Value) (message : String) : Prop :=
  ∃ r o, v = .object r ∧ w.objects[r]? = some o ∧ o.kind = .error ∧
    o.find? (Key.ofString "name") = some (.plain (.ofString hostCallErrorName)) ∧
    o.find? (Key.ofString "message") = some (.hidden (.ofString message))

/-! ### Looking up where there is an object more -/

section push

variable (w : World) (o : Object)

theorem size_push : (w.push o).objects.size = w.objects.size + 1 := by simp [World.push]

theorem getD_push_size : (w.push o).objects.getD w.objects.size default = o := by
  simp [World.push]

variable {w} in
theorem getD_push {r : Ref} (hr : r < w.objects.size) :
    (w.push o).objects.getD r default = w.objects.getD r default := by
  simp only [World.push, Array.getD_eq_getD_getElem?, Array.getElem?_push_lt hr]
  simp [hr]

theorem resolveLink_push (fuel : Nat) (s : ScopeRef) (name : String) :
    resolveLink (w.push o) fuel s name = resolveLink w fuel s name := by
  induction fuel generalizing s name with
  | zero => rfl
  | succ fuel ih =>
    simp only [resolveLink, ih]
    rfl

theorem ownIn_push (o' : Object) (k : Key) : ownIn (w.push o) o' k = ownIn w o' k := by
  simp only [ownIn, resolveLink_push]
  rfl

variable {w} in
/-- What was found is still found. -/
theorem lookupIn_push {k : Key} {fuel : Nat} {r : Ref} {x : Ref × Property}
    (h : lookupIn w k fuel r = some x) : lookupIn (w.push o) k fuel r = some x := by
  induction fuel generalizing r with
  | zero => cases h
  | succ fuel ih =>
    -- behind the heap there is nothing to be found
    have hr : r < w.objects.size := by
      refine Nat.lt_of_not_le fun hr => ?_
      have hnone : w.objects.getD r default = default := by simp [hr]
      have hown : ownIn w default k = none := by
        change Object.find? default k = none
        simp [Object.find?, Object.position?, show (default : Object).props = #[] from rfl]
      rw [lookupIn, hnone, hown] at h
      cases h
    rw [lookupIn] at h ⊢
    rw [getD_push o hr, ownIn_push]
    cases hown : ownIn w (w.objects.getD r default) k with
    | some p =>
      rw [hown] at h
      exact h
    | none =>
      rw [hown] at h
      cases hproto : (w.objects.getD r default).proto with
      | some q =>
        simp only [hproto] at h ⊢
        exact ih h
      | none =>
        simp only [hproto] at h
        cases h

end push

/-! ### What the parts of making an error come to -/

theorem Outcome.bind_assoc {α β γ : Type} (o : Outcome α) (f : α → World → Outcome β)
    (g : β → World → Outcome γ) : (o.bind f).bind g = o.bind fun a w => (f a w).bind g := by
  induction o with
  | done a w => rfl
  | thrown v w => rfl
  | ask q w k ih => simp only [bind, ih]

theorem run_object (r : Ref) (w : World) : object r w = .done (w.objects.getD r default) w := rfl

theorem run_world (w : World) : world w = .done w w := rfl

theorem run_pure {α : Type} (a : α) (w : World) : (pure a : Proc α) w = .done a w := rfl

/-- Reading the state of a promise, if it is one. -/
theorem run_promiseState? (p : Ref) (w : World) :
    promiseState? (.object p) w = .done (w.promise? p) w := by
  simp only [promiseState?, run_bind, run_object, Outcome.bind, World.promise?, World.kind?,
    Array.getD_eq_getD_getElem?]
  cases w.objects[p]? with
  | none => rfl
  | some o =>
    rw [Option.getD_some, Option.map_some]
    cases o.kind <;> rfl

/-- Reading a property that holds a value. -/
theorem run_getOf {w : World} {r : Ref} {k : Key} {v : Value}
    (h : (w.find? r k).map (·.holding) = some (.data v)) : getOf r k w = .done v w := by
  rw [World.find?, Option.map_map] at h
  obtain ⟨⟨q, p⟩, hq, hp⟩ := Option.map_eq_some_iff.1 h
  have hp : p.holding = .data v := hp
  simp only [getOf, getFrom, lookup, run_bind, run_world, run_pure, Outcome.bind, hq, hp]
  rfl

/-- A new error: it has a message and remembers where it was made. -/
def newError (proto : Ref) (message : String) (traced : Bool) : Object :=
  { kind := .error, proto := some proto,
    props := #[(Key.ofString "message", .hidden (.ofString message)),
      (Key.ofString "stack", .hidden (.string (stackText traced)))] }

/-- Such an error with a name. -/
def namedError (proto : Ref) (message : String) (traced : Bool) (name : Value) : Object :=
  { newError proto message traced with
    props := (newError proto message traced).props.push (Key.ofString "name", .plain name) }

theorem position?_newError (proto : Ref) (message : String) (traced : Bool) :
    (newError proto message traced).position? (Key.ofString "name") = none := by
  have hmessage : (Key.ofString "message" == Key.ofString "name") = false := by decide
  have hstack : (Key.ofString "stack" == Key.ofString "name") = false := by decide
  simp [Object.position?, newError, List.findIdx?_cons, hmessage, hstack]

section

variable {w : World} {ctor proto : Ref} (h : w.MakesErrors ctor proto) (message : String)

include h

/-- The constructor asks whether it is to remember where it was called, and then makes the error. -/
theorem run_construct_error : ∃ k,
    (Request.construct (.object ctor) [.ofString message] (.object ctor)).run w =
      .ask .traced w k ∧
    ∀ traced w', k (.ok (.flag traced)) w' =
      .done (.reply (.value (.object w'.objects.size)))
        (w'.push (newError proto message traced)) := by
  let c : NativeCall :=
    { this := .undefined, args := [.ofString message], newTarget := .object ctor, captured := [] }
  have hctor : (w.objects.getD ctor default).isConstructor = true := by
    rw [Object.isConstructor, h.builtin]
    rfl
  have hnative : constructValue (.object ctor) [.ofString message] (.object ctor) w =
      constructError .error c w := by
    simp only [constructValue, run_bind, run_object, Outcome.bind, hctor, h.builtin, if_true]
    rfl
  have hmade : constructError .error c w =
      (allocError proto (some (Str.ofString message)) [] w).bind fun r w =>
        .done (.object r) w := by
    simp only [c, constructError, run_bind, protoFor, run_getOf h.prototype, Outcome.bind, run_pure]
    rfl
  have hrun : (Request.construct (.object ctor) [.ofString message] (.object ctor)).run w =
      (constructError .error c w).bind fun v w => .done (.reply (.value v)) w := by
    rw [← hnative]
    rfl
  rw [hmade] at hrun
  exact ⟨_, hrun, fun _ _ => rfl⟩

/-- Giving the new error a name. -/
theorem run_set_name (traced : Bool) (v : Value) :
    ∃ w', set (.object w.objects.size) (Key.ofString "name") v true
        (w.push (newError proto message traced)) = .done () w' ∧
      w'.objects[w.objects.size]? = some (namedError proto message traced v) := by
  obtain ⟨p, u, hp, hholding, hwritable⟩ := h.named
  obtain ⟨⟨holder, q⟩, hfound, rfl⟩ := Option.map_eq_some_iff.1 hp
  have hown : ownIn (w.push (newError proto message traced)) (newError proto message traced)
      (Key.ofString "name") = none := by
    change Object.find? _ _ = none
    rw [Object.find?, position?_newError, Option.bind_none]
  -- the name is found on the prototype: it is writable there, so that the error gets its own
  have hlook : lookupIn (w.push (newError proto message traced)) (Key.ofString "name")
      (w.objects.size + 1 + 1) w.objects.size = some (holder, q) := by
    rw [lookupIn, getD_push_size, hown]
    exact lookupIn_push _ hfound
  let w' := (w.push (newError proto message traced)).modify w.objects.size
    (Object.revised fun o => place o (Key.ofString "name") (.plain v))
  have hwrite : writeOwn w.objects.size (Key.ofString "name") v
      (w.push (newError proto message traced)) = .done none w' := by
    simp only [writeOwn, run_bind, run_world, Outcome.bind, getD_push_size, hown]
    rfl
  have hholding : q.holding = .data u := hholding
  have hwritable : q.writable = true := hwritable
  have hset : Proc.setOf w.objects.size (Key.ofString "name") v
      (w.push (newError proto message traced)) = .done none w' := by
    simp only [Proc.setOf, setFor, lookup, run_bind, run_world, Outcome.bind, run_pure, size_push,
      hlook, hholding, hwritable, if_true, hwrite]
  refine ⟨w', ?_, ?_⟩
  · simp only [Proc.set, run_bind, hset, Outcome.bind]
    rfl
  · have hplace : place (newError proto message traced) (Key.ofString "name") (.plain v) =
        namedError proto message traced v := by
      change Object.put _ _ _ = _
      rw [Object.put, position?_newError]
      rfl
    simp only [w', World.push, World.modify, Array.getElem?_modify, if_true,
      Array.getElem?_push_size, Option.map_some, Object.revised, hplace]
    rfl

/-- Making the error for a failed host call: it is constructed, and then it gets its name. -/
theorem run_hostCallError : ∃ k,
    (Exchange.hostCallError message).run w =
      .ask (.construct (.object ctor) [.ofString message] (.object ctor)) w k ∧
    ∀ v w₁ w₂, set v (Key.ofString "name") (.ofString hostCallErrorName) true w₁ = .done () w₂ →
      k (.ok (.value v)) w₁ = .done (.ok v) w₂ := by
  have hctor : (w.objects.getD ctor default).isConstructor = true := by
    rw [Object.isConstructor, h.builtin]
    rfl
  have hrun : (Exchange.hostCallError message).run w =
      (construct (.object ctor) [.ofString message] (.object ctor) w).bind fun v w =>
        (set v (Key.ofString "name") (.ofString hostCallErrorName) true w).bind fun _ w =>
          .done (.ok v) w := by
    have hcross {α : Type} (p : Proc α) : (Crossing.ofProc p).run = do return .ok (← p) := rfl
    simp only [Exchange.hostCallError, ExceptT.run_bind, hcross, run_bind, run_getOf h.global,
      Outcome.bind, run_pure]
    simp only [isConstructor, run_bind, run_object, Outcome.bind, run_pure, hctor, if_true, hcross,
      Outcome.bind_assoc]
  refine ⟨_, hrun, fun v w₁ w₂ hset => ?_⟩
  change (set v (Key.ofString "name") (.ofString hostCallErrorName) true w₁).bind _ = _
  rw [hset]
  rfl

end

/-- The error is one for a failed host call once it has its name. -/
theorem isHostCallError_of_getElem? {w : World} {r proto : Ref} {message : String} {traced : Bool}
    (h : w.objects[r]? = some (namedError proto message traced (.ofString hostCallErrorName))) :
    w.IsHostCallError (.object r) message := by
  have hmessage : (Key.ofString "message" == Key.ofString "name") = false := by decide
  have hstack : (Key.ofString "stack" == Key.ofString "name") = false := by decide
  refine ⟨r, _, rfl, h, rfl, ?_, ?_⟩
  all_goals
    simp [Object.find?, Object.position?, namedError, newError, List.findIdx?_cons,
      hmessage, hstack]

end Script

open Script

variable {ctor proto : Ref}

/-- A run that begins with making the error, and catches what that throws, has the error after three
steps. -/
theorem Bridge.runFor_hostCallError {w : World} (h : w.MakesErrors ctor proto) (message : String) :
    ∃ w', w'.IsHostCallError (.object w.objects.size) message ∧
      ∀ {α : Type} (f : Except Value (Except EngineFault Value) → World → Outcome α) (n : Nat)
        (b : Bridge),
        runFor (n + 3)
          (.top ((((Exchange.hostCallError message).run w).finish fun r _ => .ok r).bind f)) b =
          runFor n (.top (f (.ok (.ok (.object w.objects.size))) w')) b := by
  obtain ⟨k, hrun, hk⟩ := run_hostCallError h message
  obtain ⟨k', hconstruct, hk'⟩ := run_construct_error h message
  -- whether anything that runs shows up in stack traces
  let traced : Bool :=
    (Request.construct (.object ctor) [.ofString message] (.object ctor)).mark w ≠ .plain ||
      [(⟨Request.traced.mark w, k'⟩ : Frame)].any fun f => f.mark ≠ .plain
  obtain ⟨w', hset, hnamed⟩ := run_set_name h message traced (.ofString hostCallErrorName)
  refine ⟨w', isHostCallError_of_getElem? hnamed, fun f n b => ?_⟩
  rw [hrun]
  simp only [Outcome.finish, Outcome.bind, runFor, Running.step, Running.answer, hconstruct,
    Running.deliver, hk']
  rw [hk _ _ _ hset]
  rfl

namespace BridgeM

/-- **The error for a failed host call, where the global `Error` is the function that makes
errors:** it has the message of the host, and its name is `HostCallError`. -/
theorem exec_hostCallError {b : Bridge} (hb : b.isHalted = false)
    (h : b.world.MakesErrors ctor proto) (message : String) :
    ∃ e b', exec (evaluate (Exchange.hostCallError message)) b = (.ok e, b') ∧
      b'.world.IsHostCallError e message := by
  obtain ⟨w', hmade, hrun⟩ := Bridge.runFor_hostCallError h message
  have hlimit : Bridge.stepLimit = Bridge.stepLimit - 4 + 1 + 3 := rfl
  refine ⟨.object b.world.objects.size, { b with world := w', isHalted := false }, ?_, hmade⟩
  rw [evaluate, exec_perform, if_neg (Bool.eq_false_iff.1 hb), Proc.run_bind, Proc.run_attempt,
    hlimit, hrun]
  simp only [run_pure, Bridge.runFor, Running.step]
  rfl

end BridgeM

end ScriptBridge
