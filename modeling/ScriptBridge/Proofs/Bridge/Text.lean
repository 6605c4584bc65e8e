import ScriptBridge.Proofs.Bridge.Bytecode
import ScriptBridge.Proofs.Bridge.Display
import ScriptBridge.Proofs.Bridge.Drain
import ScriptBridge.Proofs.Script.Coercion

/-!
# Texts of values

The host gets a text of a value by the conversion that a script runs by `String(x)`.

* `Bridge.GetsTextOf` : the host gets the text of **what a procedure of a script comes to**, or what
  that throws.
* `Bridge.texts_agree` : **that is so for `String(x)`**, and for each other call of that function,
  where `x` is any value but a symbol.  A symbol has a text for scripts, and none for the host.
* `BridgeM.exec_formatValue_of_plainText?` : other primitive values are shown with their text.

Code that the conversion calls may ask for what is below the conversion (`Bridge.LooksOut`).  It
finds `String` where a script runs the conversion, and nothing where the host does: an error that it
makes there has a place in one run and none in the other, and scripts can read that.  So nothing is
said about such code.

Traces stand for those of the engine only as far as they are empty or not (`Proc.stackText`).  A
`toString` that returns the trace of an error it has made does not count as code that looks out: its
own call is in the trace in both runs.  But the engine's trace has a line for `String` in one of
them only, and nothing is said here about what scripts read off such lines.
-/

namespace ScriptBridge

open Script

/-- What the host gets for a string: its text, unless half of a pair stands in it by itself. -/
def hostText (s : Str) : Except BridgeError String :=
  s.toString?.mapError fun offset => .engine (.loneSurrogate offset)

theorem hostText_eq_ok {s : Str} {t : String} : hostText s = .ok t ↔ s.toString? = .ok t := by
  rw [hostText]
  cases s.toString? with
  | ok t' => exact ⟨fun h => congrArg _ (Except.ok.inj h), fun h => congrArg _ (Except.ok.inj h)⟩
  | error offset => exact ⟨by rintro ⟨⟩, by rintro ⟨⟩⟩

variable {b b' b₁ b₂ : Bridge} {h : Handle} {v : Value} {n m : Nat}

namespace BridgeM

open Bridge

/-- The host attempts the conversion, and is told what that came to. -/
theorem exec_getString (hv : b.live h = some v) : exec (getString h) b =
    exec (perform (Proc.attempt (Proc.toStr v) >>= told hostText)) b := by
  have hcross (w : World) : (Exchange.coerceText v).run w = (Proc.toStr v >>= fun s =>
      pure (s.toString?.mapError EngineFault.loneSurrogate)) w := by
    rw [run_coerceText, Proc.run_bind]
    refine congrArg (Outcome.bind _) (funext fun s => funext fun w => ?_)
    rw [Exchange.textOf]
    cases s.toString? <;> rfl
  have hhost (s : Str) : (s.toString?.mapError EngineFault.loneSurrogate).mapError .engine =
      hostText s := by
    rw [hostText]
    cases s.toString? <;> rfl
  rw [getString, exec_bind, exec_value_of_live hv]
  simp only [exec_evaluate hcross, hhost]

/-- **What the host gets comes of the conversion**, unless the engine is cut off. -/
theorem comesTo_of_exec_getString {g : Except BridgeError String} (hv : b.live h = some v)
    (hg : exec (getString h) b = (g, b₂)) : g = .error (.engine .exhausted) ∨
      (∃ n s, b.ComesTo (Proc.toStr v) n (.ok s) b₂ ∧ g = hostText s) ∨
      ∃ n m e b' d, b.ComesTo (Proc.toStr v) n (.error e) b' ∧
        b'.ComesTo (Exchange.describe e) m (.ok d) b₂ ∧ g = .error (.ofException d) := by
  rw [exec_getString hv] at hg
  refine (comesTo_of_exec_perform hg).imp_right ?_
  rintro ⟨x, hx, rfl⟩
  obtain ⟨y, b', hy, htold⟩ := hx.of_attempt_bind
  cases y with
  | ok s =>
    obtain ⟨rfl, rfl⟩ := htold.unique (.pure hy.isHalted (hostText s))
    exact .inl ⟨_, s, hy, rfl⟩
  | error e =>
    obtain ⟨d, b₁, hd, hend⟩ | ⟨e', -, he'⟩ := htold.of_bind
    · obtain ⟨rfl, rfl⟩ := hend.unique (.pure hd.isHalted _)
      exact .inr ⟨_, _, e, b', d, hy, hd, rfl⟩
    · -- describing a value throws nothing
      obtain ⟨d, hd⟩ := he'.ok_of_only (Exchange.only_describe e)
      cases hd

end BridgeM

/-! ### Values without a method -/

namespace Script

variable {w : World} {s : Str}

theorem run_toStr_symbol (id : Nat) :
    Proc.toStr (.symbol id) w = Proc.throwType "cannot convert symbol to string" w := rfl

end Script

namespace Bridge

theorem comesTo_toStr_of_plainText? {s : Str} (hb : b.isHalted = false)
    (hs : v.plainText? = some s) : b.ComesTo (Proc.toStr v) 1 (.ok s) b :=
  .of_ofExcept (w := b.world) hb (run_toStr_of_plainText? hs)

theorem comesTo_throwType {α : Type} (hb : b.isHalted = false) (message : String) :
    let error := newError (Intrinsic.errorProto .typeError) (cutMessage message) false
    b.ComesTo (Proc.throwType message : Proc α) 2 (.error (.object b.world.objects.size))
      { b with world := b.world.push error } := ⟨hb, rfl⟩

end Bridge

/-! ### Showing them -/

namespace BridgeM

open Bridge

theorem exec_formatValue_of_text {text : String} (hg : exec (glance h) b = (.ok (.text text), b')) :
    exec (formatValue h) b = (.ok text, b') := by
  refine exec_formatValue ?_
  rw [render_eq, renderWith, returning_eq, hg]
  rfl

theorem exec_formatValue_of_error {e : BridgeError} (hg : exec (glance h) b = (.error e, b')) :
    exec (formatValue h) b = (.error e, b') := by
  refine exec_formatValue ?_
  rw [render_eq, renderWith, returning_eq, hg]
  rfl

theorem infix_paint (style : Style) (before inner after : String) :
    inner.toList <:+: (style.paint (before ++ inner ++ after)).toList := by
  simp only [Style.paint, String.toList_append]
  exact (List.infix_append _ _ _).trans (List.infix_append _ _ _)

/-- **A primitive value that is no symbol is shown with its text in it**, if that is well formed. -/
theorem exec_formatValue_of_plainText? {s : Str} {t : String} (hb : b.isHalted = false)
    (hv : b.live h = some v) (hs : v.plainText? = some s) (ht : s.toString? = .ok t) :
    ∃ text, exec (formatValue h) b = (.ok text, b) ∧ t.toList <:+: text.toList := by
  have htext : exec (getString h) b = (.ok t, b) := by
    rw [exec_getString hv, exec_told_of_ok (comesTo_toStr_of_plainText? hb hs) (by decide)]
    rw [hostText_eq_ok.2 ht]
  have hkind {k : ValueKind} (hk : Exchange.kindOf v b.world = .done k b.world) :
      exec (valueKind h) b = (.ok k, b) := exec_valueKind hb hv hk
  have hpainted (style : Style) (before inner after : String)
      (hg : exec (glance h) b = (.ok (.text (style.paint inner)), b))
      (hinner : inner = before ++ t ++ after) :
      ∃ text, exec (formatValue h) b = (.ok text, b) ∧ t.toList <:+: text.toList :=
    ⟨_, exec_formatValue_of_text hg, hinner ▸ infix_paint style before t after⟩
  have hword {word : String} (hw : s = Str.ofString word) : word = t := by
    rw [hw, Str.toString?_ofString] at ht
    exact Except.ok.inj ht
  cases v with
  | undefined =>
    have hshown : exec (glance h) b =
        (.ok (.text (Style.dimmed.paint (Style.blue.paint "undefined"))), b) := by
      rw [glance, exec_bind, hkind rfl]
      rfl
    refine hpainted .dimmed (Style.sequence Style.blue.on) _ (Style.sequence Style.blue.off)
      hshown ?_
    rw [← hword (Option.some.inj hs).symm]
    rfl
  | null =>
    have hshown : exec (glance h) b = (.ok (.text (Style.blue.paint "null")), b) := by
      rw [glance, exec_bind, hkind rfl]
      rfl
    refine hpainted .blue "" _ "" hshown ?_
    rw [← hword (Option.some.inj hs).symm]
    rfl
  | bool _ | int _ | float _ =>
    refine hpainted .yellow "" t "" ?_ (by simp)
    simp only [glance, exec_bind, hkind rfl, htext, exec_pure]
  | string s' =>
    refine hpainted .green "'" _ "'" ?_ rfl
    simp only [glance, exec_bind, hkind rfl, htext, exec_pure]
  | bigint n =>
    refine hpainted .yellow "" (t ++ "n") "n" ?_ (by simp)
    simp only [glance, exec_bind, hkind rfl, htext, exec_pure]
  | symbol id => cases hs
  | object r => cases hs

/-- A symbol has no text for the host, -/
theorem ne_ok_of_exec_getString {id : Nat} {g : Except BridgeError String}
    (hv : b.live h = some (.symbol id)) (hg : exec (getString h) b = (g, b')) (t : String) :
    g ≠ .ok t := by
  rintro rfl
  obtain ⟨⟨⟩⟩ | ⟨n, s, hs, -⟩ | ⟨n, m, e, b₁, d, -, -, ⟨⟩⟩ := comesTo_of_exec_getString hv hg
  -- the conversion throws an error
  have herror := comesTo_throwType (α := Str) hs.1 "cannot convert symbol to string"
  cases (hs.unique (herror.congr (run_toStr_symbol id).symm)).1

/-- and showing it fails in the same way. -/
theorem exec_formatValue_symbol {id : Nat} (hb : b.isHalted = false)
    (hv : b.live h = some (.symbol id)) : exec (formatValue h) b = exec (getString h) b := by
  rcases hg : exec (getString h) b with ⟨e | t, b'⟩
  · refine exec_formatValue_of_error ?_
    simp only [glance, exec_bind, exec_valueKind hb hv rfl, hg]
  · exact absurd rfl (ne_ok_of_exec_getString hv hg t)

end BridgeM

namespace Bridge

/-! ### What the host gets is what scripts get -/

/-- The host gets the text that a procedure of a script comes to, or what the procedure throws. -/
structure GetsTextOf (b : Bridge) (h : Handle) (p : Proc Value) : Prop where
  /-- What the procedure returns is a string, and the host gets the text of that, -/
  returned : ∀ n u b₁, b.ComesTo p n (.ok u) b₁ → n ≤ stepLimit →
    ∃ s, u = .string s ∧ exec (BridgeM.getString h) b = (hostText s, b₁)
  /-- or else the host gets what the same error is described as. -/
  threw : ∀ n e b₁, b.ComesTo p n (.error e) b₁ → ∃ b', SameError e b' b₁ ∧
    ∀ m d b₂, b'.ComesTo (Exchange.describe e) m (.ok d) b₂ → n + m ≤ stepLimit →
      exec (BridgeM.getString h) b = (.error (.ofException d), b₂)
  /-- Unless the engine is cut off, the host gets nothing else, -/
  only : ∀ g b₂, exec (BridgeM.getString h) b = (g, b₂) → g = .error (.engine .exhausted) ∨
    (∃ n s, b.ComesTo p n (.ok (.string s)) b₂ ∧ g = hostText s) ∨
    ∃ n m e b₁ b' d, b.ComesTo p n (.error e) b₁ ∧ SameError e b' b₁ ∧
      b'.ComesTo (Exchange.describe e) m (.ok d) b₂ ∧ g = .error (.ofException d)
  /-- and a text exactly if the procedure returns a string with that text. -/
  text_iff : (exec (BridgeM.getString h) b).1 ≠ .error (.engine .exhausted) → ∀ t b₂,
    exec (BridgeM.getString h) b = (.ok t, b₂) ↔
      ∃ n s, b.ComesTo p n (.ok (.string s)) b₂ ∧ s.toString? = .ok t

/-- A symbol has a text for scripts, and none for the host. -/
structure RefusesSymbol (b : Bridge) (h : Handle) (id : Nat) (p : Proc Value) : Prop where
  /-- A script gets the description, -/
  described : b.ComesTo p 11 (.ok (.string (b.world.symbolText id))) b
  /-- and the host gets what a new type error is described as: -/
  refused : let message := "cannot convert symbol to string"
    let error := newError (Intrinsic.errorProto .typeError) message false
    let b' := { b with world := b.world.push error }
    ∀ m d b₂, b'.ComesTo (Exchange.describe (.object b.world.objects.size)) m (.ok d) b₂ →
      m + 2 ≤ stepLimit → exec (BridgeM.getString h) b = (.error (.ofException d), b₂)
  /-- it never gets a text, -/
  untold : ∀ t b₂, exec (BridgeM.getString h) b ≠ (.ok t, b₂)
  /-- and showing the symbol fails in the same way. -/
  unshown : exec (BridgeM.formatValue h) b = exec (BridgeM.getString h) b

/-- How the text that the host gets of a value agrees with the one that a script gets. -/
structure TextsAgree (b : Bridge) (h : Handle) (v : Value) (p : Proc Value) : Prop where
  /-- They are the same for any value but a symbol, unless code that is called looks out, -/
  same : (∀ id, v ≠ .symbol id) → ¬ b.LooksOut (Proc.toStr v) → b.GetsTextOf h p
  /-- and a primitive value calls nothing. -/
  quiet : ∀ s, v.plainText? = some s → ¬ b.LooksOut (Proc.toStr v)
  /-- So it can be shown if its text is well formed, -/
  shown : ∀ s t, b.isHalted = false → v.plainText? = some s → s.toString? = .ok t →
    ∃ text, exec (BridgeM.formatValue h) b = (.ok text, b) ∧ t.toList <:+: text.toList
  /-- but not if it is a symbol. -/
  symbol : ∀ id, b.isHalted = false → v = .symbol id → b.RefusesSymbol h id p

variable {p : Proc Value}

section

variable (hv : b.live h = some v) (hp : b.world.MakesString v p)
  (hsymbol : ∀ id, v ≠ .symbol id) (hlook : ¬ b.LooksOut (Proc.toStr v))

include hv hp hsymbol hlook

/-- What the host gets, a script makes too. -/
theorem makes_of_exec_getString {g : Except BridgeError String}
    (hg : exec (BridgeM.getString h) b = (g, b₂)) : g = .error (.engine .exhausted) ∨
      (∃ n s, b.ComesTo p n (.ok (.string s)) b₂ ∧ g = hostText s) ∨
      ∃ n m e b₁ b' d, b.ComesTo p n (.error e) b₁ ∧
        SameError e b' b₁ ∧ b'.ComesTo (Exchange.describe e) m (.ok d) b₂ ∧
        g = .error (.ofException d) := by
  refine (BridgeM.comesTo_of_exec_getString hv hg).imp_right ?_
  rintro (⟨n, s, hs, rfl⟩ | ⟨n, m, e, b', d, he, hd, rfl⟩)
  · obtain ⟨b₁, rfl, hcall⟩ := hs.makesString hp hsymbol hlook
    exact .inl ⟨_, s, hcall, rfl⟩
  · obtain ⟨b₁, hsame, hcall⟩ := he.makesString hp hsymbol hlook
    exact .inr ⟨_, m, e, b₁, b', d, hcall, hsame, hd, rfl⟩

theorem getsTextOf_of_makesString : b.GetsTextOf h p where
  returned n u b₁ hu hn := by
    obtain ⟨y, b', hy, hsame, hend⟩ := hu.of_makesString hp hsymbol hlook
    cases y with
    | error e => cases hend
    | ok s =>
      obtain rfl : b' = b₁ := hsame
      obtain rfl := Except.ok.inj hend
      refine ⟨s, rfl, ?_⟩
      rw [BridgeM.exec_getString hv]
      exact BridgeM.exec_told_of_ok hy hn
  threw n e b₁ he := by
    obtain ⟨y, b', hy, hsame, hend⟩ := he.of_makesString hp hsymbol hlook
    cases y with
    | ok s => cases hend
    | error e' =>
      obtain rfl := Except.error.inj hend
      refine ⟨b', hsame, fun m d b₂ hd hn => ?_⟩
      rw [BridgeM.exec_getString hv]
      exact BridgeM.exec_told_of_error hy hd (Nat.le_succ_of_le hn)
  only g b₂ := makes_of_exec_getString hv hp hsymbol hlook
  text_iff hcut t b₂ := by
    rcases hg : exec (BridgeM.getString h) b with ⟨g, b'⟩
    rw [hg] at hcut
    have honly := (makes_of_exec_getString hv hp hsymbol hlook hg).resolve_left hcut
    constructor
    · rintro ⟨⟩
      obtain ⟨n, s, hs, ht⟩ | ⟨n, m, e, b₁, b', d, -, -, -, ⟨⟩⟩ := honly
      exact ⟨n, s, hs, hostText_eq_ok.1 ht.symm⟩
    · rintro ⟨n, s, hs, ht⟩
      -- the procedure has one end, so that the host got this one
      obtain ⟨n', s', hs', rfl⟩ | ⟨n', m, e, b₁, b'', d, he, -⟩ := honly
      · obtain ⟨⟨⟩, rfl⟩ := hs.unique hs'
        rw [hostText_eq_ok.2 ht]
      · cases (hs.unique he).1

end

/-- **The host gets the text of a value that a script gets by `String(x)`**, but for symbols. -/
theorem texts_agree (hv : b.live h = some v) (hp : b.world.MakesString v p) :
    b.TextsAgree h v p where
  same := getsTextOf_of_makesString hv hp
  quiet s hs := by
    rintro ⟨n, hn⟩
    rw [run_toStr_of_plainText? hs] at hn
    cases n <;> cases hn
  shown s t hb hs ht := BridgeM.exec_formatValue_of_plainText? hb hv hs ht
  symbol := by
    rintro id hb rfl
    exact {
      described := comesTo_makesString_symbol hb hp
      refused := fun m d b₂ hd hm => by
        have herror := comesTo_throwType (α := Str) hb "cannot convert symbol to string"
        rw [BridgeM.exec_getString hv]
        exact BridgeM.exec_told_of_error (herror.congr (run_toStr_symbol id).symm) hd (by omega)
      untold := fun t b₂ hg => BridgeM.ne_ok_of_exec_getString hv hg t rfl
      unshown := BridgeM.exec_formatValue_symbol hb hv }

/-- The host makes variables of an object with a method for its text and of a symbol. -/
def makesTexts : List Operation :=
  [.globalObject, .getProperty (.make 1 1 0) "Reflect",
    .newString "x", .eval "(\x7b toString() \x7b return 'hi' \x7d \x7d)",
    .callMethod (.make 1 1 1) "set" [.make 1 1 0, .make 1 1 2, .make 1 1 3],
    .newString "y", .getProperty (.make 1 1 0) "Symbol", .getProperty (.make 1 1 6) "iterator",
    .callMethod (.make 1 1 1) "set" [.make 1 1 0, .make 1 1 5, .make 1 1 7]]

/-- The object that a handle names, if a variable holds it too. -/
def heldObject? (b : Bridge) (h : Handle) (x : String) : Option Ref :=
  match b.live h, b.world.globalValue? x with
  | some (.object r), some (.object q) => if r = q then some r else none
  | _, _ => none

/-- The symbol that a handle names, if a variable holds it too. -/
def heldSymbol? (b : Bridge) (h : Handle) (x : String) : Option Nat :=
  match b.live h, b.world.globalValue? x with
  | some (.symbol id), some (.symbol id') => if id = id' then some id else none
  | _, _ => none

theorem heldObject?_eq_some {r : Ref} (hr : b.heldObject? h x = some r) :
    b.live h = some (.object r) ∧ b.world.globalValue? x = some (.object r) := by
  unfold heldObject? at hr
  split at hr
  · rename_i q r' hv hx
    split_ifs at hr with hsame
    obtain rfl := Option.some.inj hr
    exact ⟨hv, hsame ▸ hx⟩
  · cases hr

theorem heldSymbol?_eq_some {id : Nat} (hid : b.heldSymbol? h x = some id) :
    b.live h = some (.symbol id) ∧ b.world.globalValue? x = some (.symbol id) := by
  unfold heldSymbol? at hid
  split at hid
  · rename_i i j hv hx
    split_ifs at hid with hsame
    obtain rfl := Option.some.inj hid
    exact ⟨hv, hsame ▸ hx⟩
  · cases hid

/-- The scope around all scripts. -/
def outermost : Env := ⟨Intrinsic.globalScope, "<evalsource>", false, 0⟩

set_option maxRecDepth 100000 in
/-- Two handles are live then, for the values of the variables, and `String` is what it was.  The
conversion of the object has come to its end after nine steps, and nothing looked out. -/
theorem after_makesTexts : (create {} {}).toOption.map (fun r =>
    let b := r.1.after makesTexts
    let run := Running.top (Proc.toStr ((b.live (.make 1 1 3)).getD .undefined) b.world)
    let text := (runFor 9 run b).1.bind Except.toOption
    ((b.isHalted, (b.world.globalValue? "String").any b.world.isStringFunction),
      (b.heldObject? (.make 1 1 3) "x", b.heldSymbol? (.make 1 1 7) "y"),
      (text.bind fun s => s.toString?.toOption), looksOutFor 9 run b)) =
    some ((false, true), (some 375, some 0), some "hi", false) := by
  decide +kernel

/-- It holds of a bridge with an object that has a method for its text, where nothing looks out, and
with a symbol. -/
theorem texts_agree_hi : ∃ events b r id, Run {} events b ∧
    events.map (·.operation) = makesTexts ∧ b.isHalted = false ∧
    (b.live (.make 1 1 3) = some (.object r) ∧
      b.world.MakesString (.object r) (Proc.eval (.stringOf "x") outermost) ∧
      ¬ b.LooksOut (Proc.toStr (.object r)) ∧
      b.TextsAgree (.make 1 1 3) (.object r) (Proc.eval (.stringOf "x") outermost) ∧
      (exec (BridgeM.getString (.make 1 1 3)) b).1 = .ok "hi") ∧
    b.live (.make 1 1 7) = some (.symbol id) ∧
      b.RefusesSymbol (.make 1 1 7) id (Proc.eval (.stringOf "y") outermost) := by
  have hreport := after_makesTexts
  obtain ⟨b₀, tags, hcreate⟩ := exists_create
  have run : Run {} [] b₀ := .create hcreate
  obtain ⟨events, hops, run'⟩ := run.after makesTexts
  rw [hcreate] at hreport
  replace hreport := Option.some.inj hreport
  simp only [Prod.mk.injEq] at hreport
  generalize b₀.after makesTexts = b at hreport run'
  obtain ⟨⟨hb, hstring⟩, ⟨hobject, hsymbol⟩, htext, hlook⟩ := hreport
  obtain ⟨hv, hx⟩ := heldObject?_eq_some hobject
  obtain ⟨hu, hy⟩ := heldSymbol?_eq_some hsymbol
  rw [hv, Option.getD_some] at htext hlook
  have hmakes {x : String} {v : Value} (hx : b.world.globalValue? x = some v) :
      b.world.MakesString v (Proc.eval (.stringOf x) outermost) := by
    cases hg : b.world.globalValue? "String" with
    | none =>
      rw [hg] at hstring
      cases hstring
    | some g =>
      rw [hg] at hstring
      exact .expression (seesString_of_globalValue? rfl hg hstring hx)
  rcases hrun : runFor 9 (.top (Proc.toStr (.object 375) b.world)) b with ⟨_ | e | s, b'⟩
  · rw [hrun] at htext
    cases htext
  · rw [hrun] at htext
    cases htext
  rw [hrun] at htext
  replace htext : s.toString?.toOption = some "hi" := htext
  have hs : b.ComesTo (Proc.toStr (.object 375)) 9 (.ok s) b' := ⟨hb, hrun⟩
  refine ⟨events, b, 375, 0, run', hops, hb, ⟨hv, hmakes hx, hs.not_looksOut hlook,
    texts_agree hv (hmakes hx), ?_⟩, hu, (texts_agree hu (hmakes hy)).symbol 0 hb rfl⟩
  rw [BridgeM.exec_getString hv, BridgeM.exec_told_of_ok hs (by decide)]
  refine hostText_eq_ok.2 ?_
  cases ht : s.toString? with
  | ok t =>
    rw [ht] at htext
    exact congrArg Except.ok (Option.some.inj htext)
  | error offset =>
    rw [ht] at htext
    cases htext

end Bridge

end ScriptBridge
