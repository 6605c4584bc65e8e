import ScriptBridge.Proofs.Bridge.Look

/-!
# Showing values

A promise is shown around what it was settled with, so that showing a value opens settled promises,
one in another, with a handle for what is in each of them.  This need not end: a promise can be
rejected with itself.  What is innermost is shown by its text, and scripts that the making of the
text runs need not end either.

* `BridgeM.render_eq_some_iff` : showing a value returns if some depth is enough.
* `BridgeM.isSome_renderWithin_iff` : a depth is enough if no more promises can be opened.
* `BridgeM.keepsLive_renderWithin` : **the handles are as they were before**, whatever showing a
  value comes to.
* `Bridge.RendersIn` : showing a value by scripts that take **as long as they like**, and
  `Bridge.renderWithin_eq_iff` : this is what showing it comes to unless the engine is cut off.
* `Bridge.renders_unless_circular` : **showing a value returns unless its promises go round**, or
  the text of what is innermost does not come to an end.

The engine cuts scripts off, so that `render` returns an error where a script goes on for too long.
Nothing is made of that here: that showing a value returns is said of `RendersIn`, where no limit is
set.  A handle has an index of thirty-two bits, so that a handle for what is in a promise is one of
its own as long as fewer than `2 ^ 32` are live.
-/

namespace ScriptBridge

open Script

variable {b b' : Bridge} {h : Handle} {v u : Value}

namespace BridgeM

open Bridge

/-! ### Showing to a depth -/

/-- Shows a value, and what is in a settled promise by other means. -/
def renderWith (inner : Handle → Bridge → Option (Except BridgeError String × Bridge)) (h : Handle)
    (b : Bridge) : Option (Except BridgeError String × Bridge) := do
  match ← returning (glance h) b with
  | (.ok (.text text), b) => return (.ok text, b)
  | (.ok (.settled status result), b) =>
    let (shown, b) ← inner result b
    returning (enclose status result shown) b
  | (.error e, b) => return (.error e, b)

/-- Shows a value around so many promises at most, one in another. -/
def renderWithin : Nat → Handle → Bridge → Option (Except BridgeError String × Bridge)
  | 0 => renderWith fun _ _ => none
  | depth + 1 => renderWith (renderWithin depth)

theorem render_eq (h : Handle) (b : Bridge) : render h b = renderWith render h b := render.eq_1 h b

theorem returning_eq {α : Type} (q : BridgeM α) (b : Bridge) : returning q b = some (exec q b) :=
  rfl

theorem renderWith_of_settled {status : PromiseStatus} {k : Handle}
    (hglance : exec (glance h) b = (.ok (.settled status k), b'))
    (inner : Handle → Bridge → Option (Except BridgeError String × Bridge)) :
    renderWith inner h b = (inner k b').map fun x => exec (enclose status k x.1) x.2 := by
  rw [renderWith, returning_eq, hglance]
  exact (Option.map_eq_bind ..).symm

theorem renderWith_of_opens? (hu : b.opens? h = some u) : ∃ status, ∀ inner,
    renderWith inner h b = (inner (b.handles.insert u).1 (b.holding u)).map fun x =>
      exec (enclose status (b.handles.insert u).1 x.1) x.2 := by
  obtain ⟨status, hglance⟩ := exec_glance_of_opens? hu
  exact ⟨status, renderWith_of_settled hglance⟩

theorem renderWith_of_text (hopen : b.opens? h = none) : ∃ r b',
    (∀ inner, renderWith inner h b = some (r, b')) ∧ b'.handles = b.handles := by
  obtain ⟨r, b', hglance, hsame⟩ := exec_glance_text hopen
  refine ⟨r, b', fun inner => ?_, hsame⟩
  rw [renderWith, returning_eq, hglance]
  cases r <;> rfl

theorem renderWith_of_closed (hb : b.isHalted = false) (hv : b.live h = some v)
    (hclosed : b.world.settledWith? v = none)
    (inner : Handle → Bridge → Option (Except BridgeError String × Bridge)) :
    renderWith inner h b = some (exec (evaluate (spelling v)) b) := by
  rw [renderWith, returning_eq, exec_glance_of_closed hb hv hclosed]
  rcases exec (evaluate (spelling v)) b with ⟨e | text, b'⟩ <;> rfl

variable {x : Except BridgeError String × Bridge} {n : Nat}

/-- Whatever is shown is shown by better means as well. -/
theorem renderWith_mono {f g : Handle → Bridge → Option (Except BridgeError String × Bridge)}
    (hfg : ∀ h b x, f h b = some x → g h b = some x) (hx : renderWith f h b = some x) :
    renderWith g h b = some x := by
  cases hu : b.opens? h with
  | none =>
    obtain ⟨r, b', hrender, -⟩ := renderWith_of_text hu
    rwa [hrender, ← hrender f]
  | some u =>
    obtain ⟨status, hrender⟩ := renderWith_of_opens? hu
    rw [hrender] at hx ⊢
    obtain ⟨y, hy, rfl⟩ := Option.map_eq_some_iff.1 hx
    rw [hfg _ _ y hy, Option.map_some]

/-- **Showing a value returns if there is a depth that is enough.** -/
theorem render_eq_some_iff : render h b = some x ↔ ∃ n, renderWithin n h b = some x := by
  constructor
  · -- induction on the fixpoint: one level of promises takes one more of depth
    refine render.partial_correctness (fun h b x => ∃ n, renderWithin n h b = some x) ?_ h b x
    intro inner ih h b x hx
    have hx : renderWith inner h b = some x := hx
    cases hu : b.opens? h with
    | none =>
      obtain ⟨r, b', hrender, -⟩ := renderWith_of_text hu
      exact ⟨0, by rw [renderWithin, hrender, ← hrender inner, hx]⟩
    | some u =>
      obtain ⟨status, hrender⟩ := renderWith_of_opens? hu
      rw [hrender] at hx
      obtain ⟨y, hy, rfl⟩ := Option.map_eq_some_iff.1 hx
      obtain ⟨n, hn⟩ := ih _ _ y hy
      exact ⟨n + 1, by rw [renderWithin, hrender, hn, Option.map_some]⟩
  · rintro ⟨n, hn⟩
    induction n generalizing h b x with
    | zero =>
      rw [render_eq]
      exact renderWith_mono (by rintro _ _ _ ⟨⟩) hn
    | succ n ih =>
      rw [render_eq]
      exact renderWith_mono (fun _ _ _ => ih) hn

/-- Showing a value that returns is all that `formatValue` does. -/
theorem exec_formatValue (hx : render h b = some x) : exec (formatValue h) b = x := by
  change (render h b).getD _ = x
  rw [hx, Option.getD_some]

theorem exec_release {t : HandleTable Value} {k : Handle} (ht : b.handles.release? k = some t) :
    exec (release k) b = (.ok (), { b with handles := t }) := by
  rw [release, exec_bind, exec_get]
  simp only [ht]
  rfl

theorem exec_enclose {t : HandleTable Value} {k : Handle} (ht : b.handles.release? k = some t)
    (status : PromiseStatus) (r : Except BridgeError String) :
    exec (enclose status k r) b = (r.map (promiseText status), { b with handles := t }) := by
  rw [enclose, exec_bind, exec_release ht]
  cases r <;> rfl

end BridgeM

/-! ### Handles come and go -/

namespace Bridge

/-- The same handles are live, each for the same value, and they are counted right. -/
structure KeepsLive (b b' : Bridge) : Prop where
  live : b'.live = b.live
  size : b'.handles.size = b.handles.size
  counted : b'.handles.Counted

theorem KeepsLive.of_handles_eq (hc : b.handles.Counted) (h : b'.handles = b.handles) :
    KeepsLive b b' :=
  ⟨live_of_eq h, by rw [h], h ▸ hc⟩

theorem KeepsLive.trans {b₁ : Bridge} (h : KeepsLive b b₁) (h' : KeepsLive b₁ b') :
    KeepsLive b b' :=
  ⟨h'.live.trans h.live, h'.size.trans h.size, h'.counted⟩

/-- There is an index for each of so many more handles. -/
def HasRoomFor (b : Bridge) (n : Nat) : Prop := ∀ m < n, b.handles.size + m < 2 ^ 32

theorem HasRoomFor.holding (hc : b.handles.Counted) (hroom : b.HasRoomFor (n + 1)) (u : Value) :
    (b.holding u).HasRoomFor n := by
  have hsize : (b.holding u).handles.size = b.handles.size + 1 := hc.size_insert
  intro m hm
  have hnext := hroom (m + 1) (Nat.succ_lt_succ hm)
  omega

/-- What is held is live; nothing else is new. -/
theorem live_holding (hc : b.handles.Counted) (hsize : b.handles.size < 2 ^ 32) (u : Value) :
    b.live (b.handles.insert u).1 = none ∧
      (b.holding u).live = Function.update b.live (b.handles.insert u).1 (some u) :=
  live_insert hc hsize rfl

/-- **What was held is let go of again**, and all is as it was before. -/
theorem KeepsLive.release {b₁ : Bridge} (h : KeepsLive (b.holding u) b₁) (hc : b.handles.Counted)
    (hsize : b.handles.size < 2 ^ 32) : ∃ t, b₁.handles.release? (b.handles.insert u).1 = some t ∧
      KeepsLive b { b₁ with handles := t } := by
  obtain ⟨hfresh, hheld⟩ := live_holding hc hsize u
  -- it is live still, so that letting go of it does not fail
  have hlive : b₁.live (b.handles.insert u).1 = some u := by
    rw [h.live, hheld, Function.update_self]
  have hreleased : (b₁.handles.release? (b.handles.insert u).1).isSome := by
    rw [HandleTable.release?_isSome]
    exact HandleTable.contains_iff.2 ⟨u, hlive⟩
  obtain ⟨t, ht⟩ := Option.isSome_iff_exists.1 hreleased
  have hgone : Bridge.live { b₁ with handles := t } = _ := (live_release? ht).2
  refine ⟨t, ht, ?_, ?_, h.counted.release? ht⟩
  · rw [hgone, h.live, hheld, Function.update_idem, ← hfresh, Function.update_eq_self]
  · have hone : (b.holding u).handles.size = b.handles.size + 1 := hc.size_insert
    have hless : t.size + 1 = b₁.handles.size := (h.counted.size_release? ht).1
    have hsame := h.size
    change t.size = _
    omega

end Bridge

namespace BridgeM

open Bridge

variable {inner : Handle → Bridge → Option (Except BridgeError String × Bridge)}
  {r : Except BridgeError String}

/-- The handles are kept if showing what is in a promise keeps them. -/
theorem keepsLive_renderWith (hc : b.handles.Counted)
    (hinner : ∀ u r b₁, inner (b.handles.insert u).1 (b.holding u) = some (r, b₁) →
      b.handles.size < 2 ^ 32 ∧ KeepsLive (b.holding u) b₁)
    (hx : renderWith inner h b = some (r, b')) : KeepsLive b b' := by
  cases hu : b.opens? h with
  | none =>
    obtain ⟨r', b₁, hrender, hsame⟩ := renderWith_of_text hu
    rw [hrender] at hx
    cases hx
    exact .of_handles_eq hc hsame
  | some u =>
    obtain ⟨status, hrender⟩ := renderWith_of_opens? hu
    rw [hrender] at hx
    obtain ⟨⟨shown, b₁⟩, hshown, hx⟩ := Option.map_eq_some_iff.1 hx
    obtain ⟨hsize, hkeeps⟩ := hinner u shown b₁ hshown
    obtain ⟨t, ht, hclosed⟩ := hkeeps.release hc hsize
    rw [exec_enclose ht] at hx
    cases hx
    exact hclosed

/-- **Showing a value keeps the live handles**, whatever it comes to, as long as there is an index
for each handle that is made for it. -/
theorem keepsLive_renderWithin (hc : b.handles.Counted) (hroom : b.HasRoomFor n)
    (hx : renderWithin n h b = some (r, b')) : KeepsLive b b' := by
  induction n generalizing h b r b' with
  | zero => exact keepsLive_renderWith hc (by rintro _ _ _ ⟨⟩) hx
  | succ n ih =>
    -- one index is for the handle of what is in the promise, the others are for what is in that
    refine keepsLive_renderWith hc (fun u r b₁ hinner => ⟨hroom 0 n.succ_pos, ?_⟩) hx
    exact ih hc.insert (hroom.holding hc u) hinner

/-- A value is shown if what is in it is. -/
theorem isSome_renderWith_iff (hb : b.isHalted = false) (hv : b.live h = some v) :
    (renderWith inner h b).isSome ↔ ∀ u, b.world.settledWith? v = some u →
      (inner (b.handles.insert u).1 (b.holding u)).isSome := by
  cases hu : b.world.settledWith? v with
  | none =>
    obtain ⟨r, b', hrender, -⟩ := renderWith_of_text ((opens?_of_live hb hv).trans hu)
    simp [hrender]
  | some u =>
    obtain ⟨status, hrender⟩ := renderWith_of_opens? ((opens?_of_live hb hv).trans hu)
    simp [hrender]

/-- **A value is shown if no more of its promises can be opened than it is shown around.** -/
theorem isSome_renderWithin_iff (hb : b.isHalted = false) (hc : b.handles.Counted)
    (hv : b.live h = some v) (hroom : b.HasRoomFor n) :
    (renderWithin n h b).isSome ↔ b.world.opened? (n + 1) v = none := by
  induction n generalizing h b v with
  | zero =>
    rw [renderWithin, isSome_renderWith_iff hb hv, World.opened?, Option.bind_eq_none_iff]
    simp [World.opened?]
  | succ n ih =>
    rw [renderWithin, isSome_renderWith_iff hb hv, World.opened?, Option.bind_eq_none_iff]
    refine forall₂_congr fun u hu => ?_
    have hheld : (b.holding u).live (b.handles.insert u).1 = some u := by
      rw [(live_holding hc (hroom 0 n.succ_pos) u).2, Function.update_self]
    exact ih (b := b.holding u) hb hc.insert hheld (hroom.holding hc u)

end BridgeM

/-! ### What showing a value comes to -/

namespace Bridge

open BridgeM

variable {c : BridgeConfig} {events : List Event}

/-- Showing a value returns, with an index for each handle that is made for it. -/
def Shows (b : Bridge) (h : Handle) (r : Except BridgeError String) (b' : Bridge) : Prop :=
  ∃ n, b.HasRoomFor n ∧ renderWithin n h b = some (r, b')

theorem Shows.exec_formatValue {r : Except BridgeError String} (hs : b.Shows h r b') :
    exec (formatValue h) b = (r, b') := by
  obtain ⟨n, -, hn⟩ := hs
  exact BridgeM.exec_formatValue (render_eq_some_iff.2 ⟨n, hn⟩)

theorem Shows.keepsLive {r : Except BridgeError String} (hs : b.Shows h r b')
    (hc : b.handles.Counted) : KeepsLive b b' := by
  obtain ⟨n, hroom, hn⟩ := hs
  exact keepsLive_renderWithin hc hroom hn

/-! ### Showing with no limit -/

/-- Showing a value around so many promises at most, by scripts of no more than so many steps: what
this comes to, and the bridge then. -/
inductive RendersIn (limit : Nat) :
    Nat → Bridge → Handle → Except BridgeError String → Bridge → Prop
  | text {depth : Nat} {b b' : Bridge} {h : Handle} {v : Value} {r : Except BridgeError String}
    (hv : b.live h = some v) (hclosed : b.world.settledWith? v = none)
    (htext : b.SpellsIn limit v r b') : RendersIn limit depth b h r b'
  | around {depth : Nat} {b b₁ : Bridge} {h : Handle} {u : Value} {status : PromiseStatus}
    {r : Except BridgeError String} (hu : b.opens? h = some u)
    (hglance : exec (glance h) b = (.ok (.settled status (b.handles.insert u).1), b.holding u))
    (hinner : RendersIn limit depth (b.holding u) (b.handles.insert u).1 r b₁) :
    RendersIn limit (depth + 1) b h (exec (enclose status (b.handles.insert u).1 r) b₁).1
      (exec (enclose status (b.handles.insert u).1 r) b₁).2

/-- Showing a value comes to an end, however long that takes. -/
def Renders (b : Bridge) (h : Handle) (r : Except BridgeError String) (b' : Bridge) : Prop :=
  ∃ limit depth, b.RendersIn limit depth h r b'

variable {limit limit' depth depth' : Nat} {b₁ : Bridge} {r r' : Except BridgeError String}

/-- **It comes to one end**, whatever the limit and the depth. -/
theorem RendersIn.unique (hr : b.RendersIn limit depth h r b')
    (hr' : b.RendersIn limit' depth' h r' b₁) : r = r' ∧ b' = b₁ := by
  induction hr generalizing depth' r' b₁ with
  | text hv hclosed htext =>
    cases hr' with
    | text hv' hclosed' htext' =>
      cases hv.symm.trans hv'
      obtain ⟨⟨⟩, hsame⟩ := ComesTo.unique htext htext'
      exact ⟨rfl, hsame⟩
    | around hu => cases hclosed.symm.trans (settledWith?_of_opens? hu hv)
  | around hu hglance hinner ih =>
    cases hr' with
    | text hv hclosed => cases hclosed.symm.trans (settledWith?_of_opens? hu hv)
    | around hu' hglance' hinner' =>
      cases hu.symm.trans hu'
      cases hglance.symm.trans hglance'
      obtain ⟨rfl, rfl⟩ := ih hinner'
      exact ⟨rfl, rfl⟩

/-- A handle for what is in a promise is live. -/
theorem live_held (hc : b.handles.Counted) (hroom : b.HasRoomFor (depth + 1)) (u : Value) :
    (b.holding u).live (b.handles.insert u).1 = some u := by
  rw [(live_holding hc (hroom 0 depth.succ_pos) u).2, Function.update_self]

/-- **Showing a value comes to an end exactly if the text of what is innermost does**, and no more
promises are opened than the depth allows. -/
theorem exists_rendersIn_iff (hb : b.isHalted = false) (hc : b.handles.Counted)
    (hv : b.live h = some v) (hroom : b.HasRoomFor depth) :
    (∃ limit r b', b.RendersIn limit depth h r b') ↔
      ∃ u, b.world.Innermost depth v u ∧ b.Spells u := by
  constructor
  · rintro ⟨limit, r, b', hr⟩
    induction hr generalizing v with
    | text hv' hclosed htext =>
      cases hv.symm.trans hv'
      exact ⟨_, .closed hclosed, limit, _, _, htext⟩
    | @around depth b b₁ h u status r hu hglance hinner ih =>
      obtain ⟨x, hx, hspells⟩ :=
        ih hb hc.insert (live_held hc hroom u) (hroom.holding hc u)
      exact ⟨x, .opened (settledWith?_of_opens? hu hv) hx, spells_holding_iff.1 hspells⟩
  · rintro ⟨u, hu, hspells⟩
    -- on the promises that are opened, with one more handle for each
    generalize hw : b.world = w at hu
    induction hu generalizing b h with
    | closed hclosed =>
      obtain ⟨limit, r, b', htext⟩ := hspells
      exact ⟨limit, r, b', .text hv (hw ▸ hclosed) htext⟩
    | @opened n v x u hopen hx ih =>
      have hopens : b.opens? h = some x := (opens?_of_live hb hv).trans (hw ▸ hopen)
      obtain ⟨status, hglance⟩ := exec_glance_of_opens? hopens
      obtain ⟨limit, r, b', hinner⟩ := ih (b := b.holding x) hb hc.insert (live_held hc hroom x)
        (hroom.holding hc x) (spells_holding_iff.2 hspells) hw
      exact ⟨limit, _, _, .around hopens hglance hinner⟩

theorem isHalted_enclose (status : PromiseStatus) (k : Handle) :
    (exec (enclose status k r) b).2.isHalted = b.isHalted := by
  have hreleased : (exec (release k) b).2.isHalted = b.isHalted := by
    rw [release, exec_bind, exec_get]
    simp only
    cases b.handles.release? k <;> rfl
  rw [enclose, exec_bind]
  rcases hexec : exec (release k) b with ⟨e | _, b₁⟩
  · rw [hexec] at hreleased
    exact hreleased
  · rw [hexec] at hreleased
    cases r <;> exact hreleased

theorem renderWith_eq_iff_of_closed (hb : b.isHalted = false) (hv : b.live h = some v)
    (hclosed : b.world.settledWith? v = none)
    (inner : Handle → Bridge → Option (Except BridgeError String × Bridge)) :
    renderWith inner h b = some (r, b') ∧ b'.isHalted = false ↔
      b.RendersIn stepLimit depth h r b' := by
  rw [renderWith_of_closed hb hv hclosed, Option.some.injEq, ← spellsIn_stepLimit_iff]
  constructor
  · exact RendersIn.text hv hclosed
  · intro hr
    cases hr with
    | text hv' hclosed' htext =>
      cases hv.symm.trans hv'
      exact htext
    | around hu => cases hclosed.symm.trans (settledWith?_of_opens? hu hv)

/-- **This is what showing a value comes to**, as long as the engine is not cut off. -/
theorem renderWithin_eq_iff (hb : b.isHalted = false) (hc : b.handles.Counted)
    (hv : b.live h = some v) (hroom : b.HasRoomFor depth) :
    renderWithin depth h b = some (r, b') ∧ b'.isHalted = false ↔
      b.RendersIn stepLimit depth h r b' := by
  induction depth generalizing b h v r b' with
  | zero =>
    cases hopen : b.world.settledWith? v with
    | none => exact renderWith_eq_iff_of_closed hb hv hopen _
    | some u =>
      have hu : b.opens? h = some u := (opens?_of_live hb hv).trans hopen
      obtain ⟨status, hrender⟩ := renderWith_of_opens? hu
      constructor
      · rintro ⟨hsome, -⟩
        rw [renderWithin, hrender] at hsome
        cases hsome
      · intro hr
        cases hr with
        | text hv' hclosed =>
          cases hv.symm.trans hv'
          cases hopen.symm.trans hclosed
  | succ depth ih =>
    cases hopen : b.world.settledWith? v with
    | none => exact renderWith_eq_iff_of_closed hb hv hopen _
    | some u =>
      have hu : b.opens? h = some u := (opens?_of_live hb hv).trans hopen
      have hinner (r : Except BridgeError String) (b' : Bridge) :
          renderWithin depth (b.handles.insert u).1 (b.holding u) = some (r, b') ∧
            b'.isHalted = false ↔
              (b.holding u).RendersIn stepLimit depth (b.handles.insert u).1 r b' :=
        ih hb hc.insert (live_held hc hroom u) (hroom.holding hc u)
      constructor
      · obtain ⟨status, hglance⟩ := exec_glance_of_opens? hu
        rintro ⟨hsome, hb'⟩
        rw [renderWithin, renderWith_of_settled hglance] at hsome
        obtain ⟨⟨r₁, b₁⟩, hx, henclosed⟩ := Option.map_eq_some_iff.1 hsome
        -- letting go of the handle neither cuts the engine off nor starts it again
        have hb₁ : b₁.isHalted = false := by
          rw [← isHalted_enclose (r := r₁) status (b.handles.insert u).1, henclosed]
          exact hb'
        have hr := RendersIn.around hu hglance ((hinner r₁ b₁).1 ⟨hx, hb₁⟩)
        rwa [henclosed] at hr
      · intro hr
        cases hr with
        | text hv' hclosed =>
          cases hv.symm.trans hv'
          cases hopen.symm.trans hclosed
        | around hu' hglance hr =>
          cases hu.symm.trans hu'
          obtain ⟨hx, hb₁⟩ := (hinner _ _).2 hr
          rw [renderWithin, renderWith_of_settled hglance, hx]
          exact ⟨rfl, (isHalted_enclose _ _).trans hb₁⟩

/-- When showing a value returns. -/
structure RendersUnlessCircular (b : Bridge) : Prop where
  /-- What it comes to is what it comes to at a depth that is enough, -/
  bounded : ∀ h x, render h b = some x ↔ ∃ n, renderWithin n h b = some x
  /-- and that is what the host gets. -/
  formatted : ∀ h x, render h b = some x → exec (formatValue h) b = x
  /-- A handle that names nothing, and any handle of an engine that was cut off, is refused at
  once. -/
  refused : ∀ h, b.isHalted = true ∨ b.live h = none → ∃ e, render h b = some (.error e, b)
  /-- As long as the engine is not cut off, showing a value is showing it with no limit, -/
  unlimited : ∀ h v n r b', b.isHalted = false → b.live h = some v → b.HasRoomFor n →
    (renderWithin n h b = some (r, b') ∧ b'.isHalted = false ↔ b.RendersIn stepLimit n h r b')
  /-- which comes to one end: that is the same for any limit and depth that are enough. -/
  single : ∀ h limit limit' n n' r r' b₁ b₂, b.RendersIn limit n h r b₁ →
    b.RendersIn limit' n' h r' b₂ → r = r' ∧ b₁ = b₂
  /-- A depth is enough if no more promises are opened, one in another, and the text of what is
  innermost comes to an end, -/
  enough : ∀ h v n, b.isHalted = false → b.live h = some v → b.HasRoomFor n →
    ((∃ limit r b', b.RendersIn limit n h r b') ↔
      ∃ u, b.world.Innermost n v u ∧ b.Spells u)
  /-- so that a value is shown if opening promises does not come back to one of them, and the
  scripts that the text runs come to an end; -/
  shown : ∀ h v, b.isHalted = false → b.live h = some v → ¬ b.world.Circular v →
    b.HasRoomFor b.world.objects.size → (∀ n u, b.world.Innermost n v u → b.Spells u) →
    ∃ r b', b.Renders h r b'
  /-- they do of all that is no symbol, no array and no object, -/
  quiet : ∀ u k, b.isHalted = false → Exchange.kindOf u b.world = .done k b.world →
    k ≠ .symbol ∧ k ≠ .array ∧ k ≠ .object → b.Spells u
  /-- and of plain data. -/
  data : ∀ p, b.isHalted = false → b.world.IsPlain (.object p) →
    b.world.Within (Exchange.maxDepth + 1) (.object p) → b.Spells (.object p)
  /-- If opening promises does come back to one of them, no depth is enough, whatever the limit. -/
  circular : ∀ h v n, b.isHalted = false → b.live h = some v → b.world.Circular v →
    b.HasRoomFor n → renderWithin n h b = none ∧ ∀ limit r b', ¬ b.RendersIn limit n h r b'

/-- **Showing a value returns, whatever it is, unless its promises go round**, or scripts that the
showing runs do not end. -/
theorem renders_unless_circular (run : Run c events b) : b.RendersUnlessCircular := by
  have hc : b.handles.Counted := run.counts.counted
  have hrefused (h : Handle) (hrefused : b.isHalted = true ∨ b.live h = none) :
      ∃ e, render h b = some (.error e, b) := by
    obtain ⟨e, he⟩ := exec_glance_refused hrefused
    exact ⟨e, by rw [render_eq, renderWith, returning_eq, he]; rfl⟩
  refine ⟨fun h x => render_eq_some_iff, fun h x => exec_formatValue, hrefused,
    fun h v n r b' hb hv hroom => renderWithin_eq_iff hb hc hv hroom,
    fun _ _ _ _ _ _ _ _ _ => RendersIn.unique,
    fun h v n hb hv hroom => exists_rendersIn_iff hb hc hv hroom,
    fun h v hb hv hends hroom hspells => ?_, fun u k => spells_of_kind, fun p => spells_of_isPlain,
    fun h v n hb hv hcircular hroom => ⟨?_, fun limit r b' hr => ?_⟩⟩
  · have hopened := not_not.1 (mt World.circular_iff.2 hends)
    obtain ⟨u, hu⟩ := World.exists_innermost_iff.2 hopened
    obtain ⟨limit, r, b', hr⟩ := (exists_rendersIn_iff hb hc hv hroom).2 ⟨u, hu, hspells _ u hu⟩
    exact ⟨r, b', limit, _, hr⟩
  · rw [← Option.not_isSome_iff_eq_none, isSome_renderWithin_iff hb hc hv hroom]
    exact hcircular.opened?_ne_none (n + 1)
  · obtain ⟨u, hu, -⟩ := (exists_rendersIn_iff hb hc hv hroom).1 ⟨limit, r, b', hr⟩
    exact hcircular.opened?_ne_none (n + 1) (World.exists_innermost_iff.1 ⟨u, hu⟩)

/-- The host makes a promise with the functions that settle it, and rejects it with itself, and
another one that is rejected with the constructor of promises. -/
def rejections : List Operation :=
  [.globalObject, .getProperty (.make 1 1 0) "Promise",
    .callMethod (.make 1 1 1) "withResolvers" [],
    .getProperty (.make 1 1 2) "promise", .callMethod (.make 1 1 2) "reject" [.make 1 1 3],
    .callMethod (.make 1 1 1) "reject" [.make 1 1 1]]

set_option maxRecDepth 100000 in
/-- The engine runs then, and six handles are live; the first promise holds itself, and the other
one holds a function. -/
theorem after_rejections : (create {} {}).toOption.map (fun r =>
    let b := r.1.after rejections
    let first := b.live (.make 1 1 3)
    let second := b.live (.make 1 1 5)
    let held := (second.bind b.world.settledWith?).bind Value.ref?
    (b.isHalted, b.handles.size, first.bind Value.ref?,
      (first.bind b.world.settledWith?).bind Value.ref?, second.isSome,
      held.any fun p => (b.world.objects.getD p default).isCallable)) =
    some (false, 6, some 375, some 375, true, true) := by
  decide +kernel

/-- It holds of a bridge with two such promises: no depth is enough to show the first, and the
second one is shown. -/
theorem renders_unless_circular_rejections : ∃ events b h k p q, Run {} events b ∧
    events.map (·.operation) = rejections ∧ b.isHalted = false ∧ b.live h = some p ∧
    b.world.settledWith? p = some p ∧ b.live k = some q ∧ b.RendersUnlessCircular ∧
    (∀ n ≤ 2 ^ 31, renderWithin n h b = none) ∧
    ∃ limit r b', b.RendersIn limit 1 k r b' := by
  have hreport := after_rejections
  obtain ⟨b₀, tags, hcreate⟩ := exists_create
  have run : Run {} [] b₀ := .create hcreate
  obtain ⟨events, hops, run'⟩ := run.after rejections
  rw [hcreate] at hreport
  dsimp only [Except.toOption, Option.map] at hreport
  generalize b₀.after rejections = b at hreport run'
  simp only [Option.some.injEq, Prod.mk.injEq, Option.bind_eq_some_iff, Option.isSome_iff_exists,
    Option.any_eq_true] at hreport
  obtain ⟨hb, hsize, ⟨p, hp, hplace⟩, ⟨u, ⟨p', hp', hu⟩, hsame⟩, ⟨q, hq⟩,
    ⟨f, ⟨x, ⟨q', hq', hx⟩, hf⟩, hcallable⟩⟩ := hreport
  obtain rfl : p = p' := Option.some.inj (hp.symm.trans hp')
  obtain rfl : q = q' := Option.some.inj (hq.symm.trans hq')
  obtain rfl : u = p := by
    cases u <;> cases p <;> simp_all [Value.ref?]
  obtain rfl : x = .object f := by
    cases x <;> cases hf
    rfl
  have hrenders := renders_unless_circular run'
  have hroom (n : Nat) (hn : n ≤ 2 ^ 31) : b.HasRoomFor n := fun m hm => by omega
  have hcircular : b.world.Circular u := .of_settledWith? hu
  have hplain : b.world.IsPlain (.object f) := World.isPlain_of_callable hcallable
  have hwithin : b.world.Within (Exchange.maxDepth + 1) (.object f) :=
    World.within_of_no_parts fun r hr => by
      cases hr
      exact World.partKeys_of_callable hcallable
  have hclosed : b.world.settledWith? (.object f) = none := by
    rw [World.settledWith?, Option.bind_eq_none_iff]
    intro s hs
    rw [Object.isCallable, World.getD_of_promise? hs] at hcallable
    cases hcallable
  have hinnermost : b.world.Innermost 1 q (.object f) := .opened hx (.closed hclosed)
  exact ⟨events, b, _, _, u, q, run', hops, hb, hp, hu, hq, hrenders,
    fun n hn => (hrenders.circular _ u n hb hp hcircular (hroom n hn)).1,
    (hrenders.enough _ q 1 hb hq (hroom 1 (by omega))).2
      ⟨.object f, hinnermost, hrenders.data f hb hplain hwithin⟩⟩

end Bridge

end ScriptBridge
