import ScriptBridge.Proofs.Script.Inside

/-!
# `String(x)`

A script makes a text of a value by a call of the function `String`.  That runs the conversion above
a frame of its own, and the host runs the same conversion by itself.

* `World.MakesString` : a script **evaluates `String(x)`**, where a variable holds the value, or it
  calls the function under another name.
* `World.MakesString.exists_callsAbove` : what is done **before and after the call** of that
  function.
* `Bridge.ComesTo.makesString`, `Bridge.ComesTo.of_makesString` : of any value but a symbol it makes
  **what the conversion makes of it by itself**, and nothing else.
* `Bridge.comesTo_makesString_symbol` : of a symbol it makes the description.
-/

namespace ScriptBridge

namespace Script

open Proc

/-- The expression `String(x)`. -/
def Expr.stringOf (x : String) : Expr := .call (.ident "String") [.one (.ident x)] false

example : ((parse false "String(x)").toOption.bind fun p =>
    match p.body with
    | [.expr (.call (.ident f) [.one (.ident x)] false)] => some (f, x)
    | _ => none) = some ("String", "x") := by
  decide +kernel

/-- Whether an object is the function that makes texts. -/
def World.IsString (w : World) (f : Ref) : Prop :=
  ∃ captured, (w.objects.getD f default).kind = .native (.string .make) captured

/-- What is seen of a scope: `String` is still the function of that name, and a variable holds a
value. -/
structure World.SeesString (w : World) (env : Env) (x : String) (v : Value) : Prop where
  builtin : ∃ f, readVar "String" env w = .done (.object f) w ∧ w.IsString f
  held : readVar x env w = .done v w

/-- How a script makes a text of a value: it evaluates `String(x)`, or it calls the function, which
it may have under any name. -/
inductive World.MakesString (w : World) (v : Value) : Proc Value → Prop
  | expression {env : Env} {x : String} (h : w.SeesString env x v) :
    w.MakesString v (eval (.stringOf x) env)
  | function {f : Ref} (h : w.IsString f) : w.MakesString v (call (.object f) .undefined [v])

/-- The value of a variable that is a property of the global object, and none of a script. -/
def World.globalValue? (w : World) (name : String) : Option Value :=
  let scope := w.scopes.getD Intrinsic.globalScope default
  match scope.find? name, scope.activation.bind Activation.func, scope.parent,
    (w.find? Intrinsic.global (Key.ofString name)).map Property.holding with
  | none, none, none, some (.data v) => some v
  | _, _, _, _ => none

/-- Whether a value is the function that makes texts. -/
def World.isStringFunction (w : World) : Value → Bool
  | .object f =>
    match (w.objects.getD f default).kind with
    | .native (.string .make) _ => true
    | _ => false
  | _ => false

/-- The text that a script gets of a symbol. -/
def World.symbolText (w : World) (id : Nat) : Str :=
  Str.ofString "Symbol(" ++ (w.symbols.getD id none).getD Str.empty ++ Str.ofString ")"

/-- The text that a function returns, or what it throws. -/
def textReply (y : Except Value Str) (w : World) : Outcome Final :=
  .ofExcept (y.map fun s => .reply (.value (.string s))) w

section

variable {w : World} {env : Env} {x : String} {v : Value} {f : Ref}

theorem run_readVar_of_globalValue? (henv : env.scope = Intrinsic.globalScope)
    (h : w.globalValue? x = some v) : readVar x env w = .done v w := by
  dsimp only [World.globalValue?] at h
  split at h
  · rename_i u hfind hactivation hparent hholding
    obtain rfl : u = v := Option.some.inj h
    have hresolve : w.resolve x (w.scopes.size + 1) env.scope = .global := by
      rw [henv, World.resolve]
      simp only [hfind, hparent, World.resolve.outer]
      split
      · rename_i f args hcall
        rw [hcall] at hactivation
        cases hactivation
      · rfl
    rw [World.find?, Option.map_map] at hholding
    obtain ⟨⟨q, p⟩, hlookup, hp⟩ := Option.map_eq_some_iff.1 hholding
    have hp : p.holding = .data u := hp
    simp only [readVar, readVar?, resolve, lookup, run_bind, run_world, run_pure, Outcome.bind,
      hresolve, hlookup, hp, readHolding]
  · cases h

theorem isString_of_isStringFunction {g : Value} (hg : w.isStringFunction g = true) :
    ∃ f, g = .object f ∧ w.IsString f := by
  unfold World.isStringFunction at hg
  split at hg
  · rename_i f
    split at hg
    · rename_i captured hkind
      exact ⟨f, rfl, captured, hkind⟩
    · cases hg
  · cases hg

/-- Variables are seen that are properties of the global object. -/
theorem seesString_of_globalValue? {g : Value} (henv : env.scope = Intrinsic.globalScope)
    (hstring : w.globalValue? "String" = some g) (hg : w.isStringFunction g = true)
    (hx : w.globalValue? x = some v) : w.SeesString env x v := by
  obtain ⟨f, rfl, hf⟩ := isString_of_isStringFunction hg
  exact ⟨⟨f, run_readVar_of_globalValue? henv hstring, hf⟩, run_readVar_of_globalValue? henv hx⟩

/-! ### What the function does -/

/-- The call makes a text of any value but a symbol by the conversion, -/
theorem run_call_string (hf : w.IsString f) (hv : ∀ id, v ≠ .symbol id) :
    (Request.call (.object f) .undefined [v]).run w = (toStr v w).followed textReply := by
  obtain ⟨captured, hf⟩ := hf
  have hmake : runString .make { this := .undefined, args := [v], captured } w =
      (toStr v w).bind fun s w => .done (.string s) w := by
    cases v with
    | symbol id => exact absurd rfl (hv id)
    | _ => rfl
  have hcall : callValue (.object f) .undefined [v] w =
      runString .make { this := .undefined, args := [v], captured } w := by
    simp only [callValue, run_bind, run_object, Outcome.bind, hf]
    rfl
  have hrun : (Request.call (.object f) .undefined [v]).run w =
      (callValue (.object f) .undefined [v] w).bind fun u w => .done (.reply (.value u)) w := rfl
  rw [hrun, hcall, hmake, Outcome.bind_assoc, Outcome.bind_eq_followed]
  refine congrArg (fun d => (toStr v w).followed d) (funext fun y => funext fun w => ?_)
  cases y <;> rfl

/-- and of a symbol by its description. -/
theorem run_call_string_symbol (id : Nat) (hf : w.IsString f) :
    (Request.call (.object f) .undefined [.symbol id]).run w =
      textReply (.ok (w.symbolText id)) w := by
  obtain ⟨captured, hf⟩ := hf
  simp only [Request.run, callValue, run_bind, run_object, Outcome.bind, hf]
  rfl

/-! ### What is done before and after the call -/

/-- A procedure takes so many steps to a call of a function above other code that shows up in stack
traces, and gives on what the call comes to in so many steps. -/
structure CallsAbove (p : Proc Value) (w : World) (q : Request) (below : List Frame)
    (base : Base Value) (before after : Nat) : Prop where
  showsUp : base.ShowsUp below
  calls : ∀ n b, Bridge.runFor (n + before) (.top (p w)) b =
    Bridge.runFor n (.inner (q.run w) below base) b
  givesOn : ∀ y w' b, Bridge.runFor after (.inner (textReply y w') below base) b =
    (some (y.map .string), { b with world := w' })

theorem mark_call_string (hf : w.IsString f) :
    (Request.call (.object f) .undefined [v]).mark w = .traced := by
  obtain ⟨captured, hf⟩ := hf
  simp only [Request.mark, Request.markOfCallee, hf]
  rfl

/-- A call by itself. -/
theorem exists_callsAbove_call (hf : w.IsString f) : ∃ base, CallsAbove
    (call (.object f) .undefined [v]) w (.call (.object f) .undefined [v]) [] base 1 2 := by
  obtain ⟨k, hcall, hend⟩ : ∃ k, call (.object f) .undefined [v] w =
      .ask (.call (.object f) .undefined [v]) w k ∧
      ∀ y w', k y w' = .ofExcept (y.map valueOf) w' :=
    ⟨_, rfl, fun y w' => by cases y <;> rfl⟩
  refine ⟨⟨.traced, k⟩, .inl (by rintro ⟨⟩), fun n b => ?_, fun y w' b => ?_⟩
  · simp only [Bridge.runFor, Running.step, Running.answer, hcall, mark_call_string hf]
  · cases y <;> simp only [Bridge.runFor, Running.step, Running.deliver, textReply, Except.map,
      Outcome.ofExcept, hend, valueOf]

/-- The value of a variable. -/
theorem run_eval_ident (h : readVar x env w = .done v w) :
    (Request.eval (.ident x) env).run w = .done (.reply (.value v)) w := by
  simp only [Request.run, evalExpr, run_bind, h]
  rfl

/-- What a call asks for, one after the other, if the function is named and its argument is a
variable. -/
theorem exists_run_stringOf (x : String) (env : Env) (w : World) (f v : Value) : ∃ k₁ k₂ k₃,
    (Request.eval (.stringOf x) env).run w = .ask (.callee (.ident "String") env) w k₁ ∧
      k₁ (.ok (.callee f .undefined)) w = .ask (.eval (.ident x) env) w k₂ ∧
      k₂ (.ok (.value v)) w = .ask (.call f .undefined [v]) w k₃ ∧
      ∀ y w', k₃ y w' = .ofExcept (y.map fun r => .reply (.value (valueOf r))) w' := by
  refine ⟨_, _, _, rfl, rfl, rfl, fun y w' => ?_⟩
  cases y <;> rfl

/-- The expression `String(x)` calls the function above a frame of its own. -/
theorem exists_callsAbove_stringOf (h : w.SeesString env x v) : ∃ f below base, w.IsString f ∧
    CallsAbove (eval (.stringOf x) env) w (.call (.object f) .undefined [v]) below base 8 3 := by
  obtain ⟨f, hread, hf⟩ := h.builtin
  obtain ⟨k₁, k₂, k₃, hcallee, harg, hcall, hend⟩ := exists_run_stringOf x env w (.object f) v
  obtain ⟨k₀, htop, hdone⟩ : ∃ k, eval (.stringOf x) env w = .ask (.eval (.stringOf x) env) w k ∧
      ∀ y w', k y w' = .ofExcept (y.map valueOf) w' :=
    ⟨_, rfl, fun y w' => by cases y <;> rfl⟩
  obtain ⟨k, hident, hfound⟩ : ∃ k, (Request.callee (.ident "String") env).run w =
      .ask (.eval (.ident "String") env) w k ∧
      k (.ok (.value (.object f))) w = .done (.reply (.callee (.object f) .undefined)) w :=
    ⟨_, rfl, rfl⟩
  refine ⟨f, [⟨.traced, k₃⟩], ⟨.plain, k₀⟩, hf,
    .inr ⟨_, List.mem_singleton_self _, by rintro ⟨⟩⟩, fun n b => ?_, fun y w' b => ?_⟩
  · simp only [Bridge.runFor, Running.step, Running.answer, Running.deliver, htop, hcallee, hident,
      run_eval_ident hread, hfound, harg, run_eval_ident h.held, hcall, mark_call_string hf]
    rfl
  · cases y with
    | ok s =>
      simp only [Bridge.runFor, Running.step, Running.deliver, textReply, Except.map,
        Outcome.ofExcept, hend, hdone]
      rfl
    | error e =>
      simp only [Bridge.runFor, Running.step, Running.deliver, textReply, Except.map,
        Outcome.ofExcept, hend, hdone]

/-- **What a script does before and after the call** takes no more than eleven steps. -/
theorem World.MakesString.exists_callsAbove {p : Proc Value} (h : w.MakesString v p) :
    ∃ f below base before after, w.IsString f ∧ before + after ≤ 11 ∧
      CallsAbove p w (.call (.object f) .undefined [v]) below base before after := by
  cases h with
  | expression h =>
    obtain ⟨f, below, base, hf, habove⟩ := exists_callsAbove_stringOf h
    exact ⟨f, below, base, 8, 3, hf, Nat.le_refl 11, habove⟩
  | @function f hf =>
    obtain ⟨base, habove⟩ := exists_callsAbove_call hf
    exact ⟨f, [], base, 1, 2, hf, by decide, habove⟩

end

end Script

open Script

namespace Bridge

variable {b b' b₁ : Bridge} {v : Value} {p : Proc Value} {n : Nat}

/-! ### What a script makes -/

section

variable (hp : b.world.MakesString v p) (hv : ∀ id, v ≠ .symbol id)
  (hlook : ¬ b.LooksOut (Proc.toStr v))

include hp hv hlook

/-- **A script makes what the conversion makes** by itself. -/
theorem ComesTo.makesString {y : Except Value Str} (h : b.ComesTo (Proc.toStr v) n y b') :
    ∃ b₁, SameEnd y b' b₁ ∧ b.ComesTo p (n + 11) (y.map .string) b₁ := by
  obtain ⟨f, below, base, before, after, hf, hsteps, habove⟩ := hp.exists_callsAbove
  obtain ⟨k, hk, b₁, hb₁, hrun⟩ := runFor_inside textReply base
    ((Proc.Calls.toStr v).top b.world) (looksOutFor_eq_false hlook n) habove.showsUp h.2
  refine ⟨b₁, hb₁, h.1, runFor_of_le (n := after + k + before) ?_ (by omega)⟩
  rw [habove.calls, run_call_string hf hv]
  exact (hrun after).trans (habove.givesOn y b₁.world b₁)

/-- Nothing else is come to. -/
theorem ComesTo.of_makesString {r : Except Value Value} (h : b.ComesTo p n r b₁) :
    ∃ y b', b.ComesTo (Proc.toStr v) n y b' ∧ SameEnd y b' b₁ ∧ r = y.map .string := by
  obtain ⟨f, below, base, before, after, hf, hsteps, habove⟩ := hp.exists_callsAbove
  rcases hrun : runFor n (.top (Proc.toStr v b.world)) b with ⟨_ | y, b'⟩
  · -- if the conversion is cut off, so is the call
    have hnone := runFor_inside_of_none textReply base ((Proc.Calls.toStr v).top b.world)
      (looksOutFor_eq_false hlook n) habove.showsUp (congrArg Prod.fst hrun)
    have hsome := (h.mono (Nat.le_add_right n before)).2
    rw [habove.calls, run_call_string hf hv] at hsome
    cases hnone.symm.trans (congrArg Prod.fst hsome)
  · have hy : b.ComesTo (Proc.toStr v) n y b' := ⟨h.1, hrun⟩
    obtain ⟨b₂, hb₂, hcall⟩ := hy.makesString hp hv hlook
    obtain ⟨rfl, rfl⟩ := h.unique hcall
    exact ⟨y, b', hy, hb₂, rfl⟩

end

/-- Of a symbol it gives the description. -/
theorem comesTo_makesString_symbol {id : Nat} (hb : b.isHalted = false)
    (hp : b.world.MakesString (.symbol id) p) :
    b.ComesTo p 11 (.ok (.string (b.world.symbolText id))) b := by
  obtain ⟨f, below, base, before, after, hf, hsteps, habove⟩ := hp.exists_callsAbove
  refine ⟨hb, runFor_of_le (n := after + before) ?_ (by omega)⟩
  rw [habove.calls, run_call_string_symbol id hf]
  exact habove.givesOn _ _ b

end Bridge

end ScriptBridge
