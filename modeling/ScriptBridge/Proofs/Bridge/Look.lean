import Mathlib.Data.Finset.Card
import ScriptBridge.Bridge.Display
import ScriptBridge.Proofs.Bridge.Conservation
import ScriptBridge.Proofs.Bridge.Drain
import ScriptBridge.Proofs.Bridge.Jobs
import ScriptBridge.Proofs.Exchange.Outgoing
import ScriptBridge.Proofs.Script.Description

/-!
# A look at a value

To show a value, the host looks at it.  A settled promise is opened, with a handle for what is in
it.  The text of any other value is made by the engine, and that may run scripts: the JSON form of
an object reads its properties.

* `World.circular_iff` : promises that can be opened more often than there are objects **go round**.
* `World.exists_innermost_iff` : if not, one of them is the last, or holds **what is no settled
  promise**.
* `BridgeM.exec_glance_of_opens?`, `BridgeM.exec_glance_of_closed` : a look opens a settled promise,
  or **makes the text**.
* `Bridge.Spells` : making the text of a value **comes to an end**, however long that takes.
* `Bridge.spells_of_kind`, `Bridge.spells_of_isPlain` : it does where no script can run.
-/

namespace ScriptBridge

open Script

/-! ### Promises in promises -/

namespace Script

/-- What a settled promise holds. -/
def PromiseState.result? : PromiseState → Option Value
  | .pending .. => none
  | .fulfilled v | .rejected v => some v

namespace World

variable {w : World} {v u : Value} {m n : Nat}

/-- What a settled promise holds; no other value can be opened. -/
def settledWith? (w : World) : Value → Option Value
  | .object p => (w.promise? p).bind PromiseState.result?
  | _ => none

/-- What is come to when promises are opened, one in another, so many times. -/
def opened? (w : World) : Nat → Value → Option Value
  | 0, v => some v
  | n + 1, v => (w.settledWith? v).bind (w.opened? n)

/-- Opening promises comes back to where it was before. -/
def Circular (w : World) (v : Value) : Prop :=
  ∃ m n u, m < n ∧ w.opened? m v = some u ∧ w.opened? n v = some u

/-- What is come to when no more than so many promises are opened, one in another, and what there is
then is no settled promise. -/
inductive Innermost (w : World) : Nat → Value → Value → Prop
  | closed {n : Nat} {v : Value} (hv : w.settledWith? v = none) : Innermost w n v v
  | opened {n : Nat} {v x u : Value} (hv : w.settledWith? v = some x) (hx : Innermost w n x u) :
    Innermost w (n + 1) v u

theorem settledWith?_eq_some (h : w.settledWith? v = some u) :
    ∃ p, v = .object p ∧ p < w.objects.size := by
  cases v with
  | object p =>
    obtain ⟨s, hs, -⟩ := Option.bind_eq_some_iff.1 h
    exact ⟨p, rfl, lt_of_kind? (promise?_eq_some_iff.1 hs)⟩
  | _ => cases h

theorem opened?_add (m n : Nat) (v : Value) :
    w.opened? (m + n) v = (w.opened? m v).bind (w.opened? n) := by
  induction m generalizing v with
  | zero => rw [Nat.zero_add, opened?, Option.bind_some]
  | succ m ih => rw [Nat.succ_add, opened?, opened?, Option.bind_assoc, funext ih]

theorem opened?_succ (n : Nat) (v : Value) :
    w.opened? (n + 1) v = (w.opened? n v).bind w.settledWith? := by
  rw [opened?_add]
  exact congrArg _ (funext fun u => Option.bind_fun_some _)

/-- What can be opened so many times can be opened fewer times. -/
theorem opened?_ne_none_of_le (hmn : m ≤ n) (h : w.opened? n v ≠ none) : w.opened? m v ≠ none := by
  obtain ⟨k, rfl⟩ := Nat.exists_eq_add_of_le hmn
  intro hm
  rw [opened?_add, hm] at h
  exact h rfl

/-- A promise that holds itself. -/
theorem Circular.of_settledWith? (h : w.settledWith? v = some v) : w.Circular v :=
  ⟨0, 1, v, Nat.one_pos, rfl, by rw [opened?, h]; rfl⟩

/-- Going round takes no end. -/
theorem Circular.opened?_ne_none (h : w.Circular v) (n : Nat) : w.opened? n v ≠ none := by
  obtain ⟨i, j, u, hij, hi, hj⟩ := h
  obtain ⟨d, rfl⟩ := Nat.exists_eq_add_of_le hij.le
  have hd : 0 < d := Nat.lt_add_right_iff_pos.1 hij
  have hround : w.opened? d u = some u := by
    rwa [opened?_add, hi, Option.bind_some] at hj
  -- it is come to again after every further round
  have hrounds (k : Nat) : w.opened? (i + k * d) v = some u := by
    induction k with
    | zero => rwa [Nat.zero_mul]
    | succ k ih => rw [Nat.succ_mul, ← Nat.add_assoc, opened?_add, ih, Option.bind_some, hround]
  refine opened?_ne_none_of_le (n := i + n * d) ?_ (by rw [hrounds]; exact Option.some_ne_none u)
  exact Nat.le_trans (Nat.le_mul_of_pos_right n hd) (Nat.le_add_left _ _)

/-- **Promises that can be opened more often than there are objects go round.** -/
theorem circular_of_opened? (h : w.opened? (w.objects.size + 1) v ≠ none) : w.Circular v := by
  have hpromise (n : Nat) (hn : n ∈ Finset.range (w.objects.size + 1)) :
      ∃ p < w.objects.size, w.opened? n v = some (.object p) := by
    have hnext := opened?_ne_none_of_le (Finset.mem_range.1 hn) h
    obtain ⟨u, hu⟩ := Option.ne_none_iff_exists'.1 hnext
    rw [opened?_succ] at hu
    obtain ⟨x, hx, hu⟩ := Option.bind_eq_some_iff.1 hu
    obtain ⟨p, rfl, hp⟩ := settledWith?_eq_some hu
    exact ⟨p, hp, hx⟩
  choose! place hplace hopened using hpromise
  -- there are fewer places than promises come to, so that one of them is come to twice
  obtain ⟨i, hi, j, hj, hij, hsame⟩ :=
    Finset.exists_ne_map_eq_of_card_lt_of_maps_to (s := Finset.range (w.objects.size + 1))
      (t := Finset.range w.objects.size) (by simp)
      fun n hn => Finset.mem_range.2 (hplace n hn)
  have hsame : w.opened? i v = w.opened? j v := by rw [hopened i hi, hopened j hj, hsame]
  obtain hlt | hlt := Nat.lt_or_gt_of_ne hij
  · exact ⟨i, j, _, hlt, hopened i hi, hsame ▸ hopened i hi⟩
  · exact ⟨j, i, _, hlt, hopened j hj, hsame ▸ hopened j hj⟩

/-- What goes round can be opened without an end, and nothing else can. -/
theorem circular_iff : w.Circular v ↔ w.opened? (w.objects.size + 1) v ≠ none :=
  ⟨fun h => h.opened?_ne_none _, circular_of_opened?⟩

/-- Something is innermost if no more promises can be opened. -/
theorem exists_innermost_iff : (∃ u, w.Innermost n v u) ↔ w.opened? (n + 1) v = none := by
  induction n generalizing v with
  | zero =>
    rw [opened?, Option.bind_eq_none_iff]
    constructor
    · rintro ⟨u, ⟨hv⟩⟩ x hx
      cases hv.symm.trans hx
    · intro h
      refine ⟨v, .closed (Option.eq_none_iff_forall_not_mem.2 fun x hx => ?_)⟩
      cases h x hx
  | succ n ih =>
    rw [opened?, Option.bind_eq_none_iff]
    constructor
    · rintro ⟨u, hv | ⟨hv, hx⟩⟩ y hy
      · cases hv.symm.trans hy
      · cases hv.symm.trans hy
        exact ih.1 ⟨u, hx⟩
    · intro h
      cases hv : w.settledWith? v with
      | none => exact ⟨v, .closed hv⟩
      | some x =>
        obtain ⟨u, hu⟩ := ih.2 (h x hv)
        exact ⟨u, .opened hv hu⟩

end World

end Script

variable {b b' : Bridge} {h : Handle} {v u : Value} {p : Ref} {s : PromiseState}

/-! ### A look at a value -/

/-- What is in the settled promise that a handle names; an engine that was cut off opens nothing. -/
def Bridge.opens? (b : Bridge) (h : Handle) : Option Value :=
  if b.isHalted then none else (b.live h).bind b.world.settledWith?

/-- The bridge with a handle for one more value. -/
def Bridge.holding (b : Bridge) (u : Value) : Bridge := { b with handles := (b.handles.insert u).2 }

theorem Bridge.opens?_of_live (hb : b.isHalted = false) (hv : b.live h = some v) :
    b.opens? h = b.world.settledWith? v := by
  rw [opens?, hb, hv]
  rfl

theorem Bridge.opens?_eq_some (hu : b.opens? h = some u) :
    b.isHalted = false ∧ ∃ v, b.live h = some v ∧ b.world.settledWith? v = some u := by
  unfold opens? at hu
  split at hu
  · cases hu
  · rename_i hb
    exact ⟨Bool.eq_false_iff.2 hb, Option.bind_eq_some_iff.1 hu⟩

theorem Bridge.settledWith?_of_opens? (hu : b.opens? h = some u) (hv : b.live h = some v) :
    b.world.settledWith? v = some u := by
  obtain ⟨-, v', hv', hopen⟩ := opens?_eq_some hu
  obtain rfl : v = v' := Option.some.inj (hv.symm.trans hv')
  exact hopen

namespace Script

theorem World.getD_of_promise? {w : World} (hs : w.promise? p = some s) :
    (w.objects.getD p default).kind = .promise s := by
  obtain ⟨o, ho, hkind⟩ := Option.map_eq_some_iff.1 (promise?_eq_some_iff.1 hs)
  rwa [Array.getD_eq_getD_getElem?, ho]

theorem World.promise?_of_getD {w : World} (hs : (w.objects.getD p default).kind = .promise s) :
    w.promise? p = some s := by
  rw [promise?_eq_some_iff, kind?]
  rw [Array.getD_eq_getD_getElem?] at hs
  cases ho : w.objects[p]? with
  | none =>
    rw [ho] at hs
    cases hs
  | some o =>
    rw [ho] at hs
    exact congrArg some hs

/-- The kinds that objects have. -/
theorem kind_of_object {w : World} {r : Ref} {k : ValueKind}
    (hk : Exchange.kindOf (.object r) w = .done k w) :
    k = .array ∨ k = .promise ∨ k = .function ∨ k = .object := by
  simp only [Exchange.kindOf, Proc.run_bind, run_object, Outcome.bind] at hk
  replace hk := (Outcome.done.inj hk).1
  split at hk
  · exact .inl hk.symm
  · exact .inr (.inl hk.symm)
  · split_ifs at hk
    · exact .inr (.inr (.inl hk.symm))
    · exact .inr (.inr (.inr hk.symm))

/-- A primitive value that is no symbol has its text at once. -/
theorem run_toStr_of_plainText? {text : Str} {w : World} (htext : v.plainText? = some text) :
    Proc.toStr v w = .done text w := by
  have hprimitive : Proc.toPrimitive v .string w = .done v w := by
    cases v with
    | object r => cases htext
    | _ => rfl
  simp only [Proc.toStr, Proc.run_bind, hprimitive, Outcome.bind, Proc.primitiveText, htext]
  rfl

theorem kindOf_eq_promise_iff {w : World} : Exchange.kindOf v w = .done .promise w ↔
    ∃ p s, v = .object p ∧ w.promise? p = some s := by
  constructor
  · intro hk
    cases v with
    | object p =>
      simp only [Exchange.kindOf, Proc.run_bind, run_object, Outcome.bind] at hk
      replace hk := (Outcome.done.inj hk).1
      split at hk
      · cases hk
      · rename_i s hs
        exact ⟨p, s, rfl, World.promise?_of_getD hs⟩
      · split_ifs at hk
    | _ => cases (Outcome.done.inj hk).1
  · rintro ⟨p, s, rfl, hs⟩
    have hkind := World.getD_of_promise? hs
    simp only [Exchange.kindOf, Proc.run_bind, run_object, Outcome.bind, hkind]
    rfl

end Script

namespace BridgeM

open Bridge

theorem exec_value_of_live (hv : b.live h = some v) : exec (value h) b = (.ok v, b) := by
  refine exec_value ?_
  have hget : b.handles.get? h = some v := hv
  rw [HandleTable.get, hget]

theorem exec_value_of_not_live (hv : b.live h = none) :
    exec (value h) b = (.error (.invalidHandle h), b) := by
  have hget : b.handles.get h = .error (.invalidHandle h) := by
    have hget : b.handles.get? h = none := hv
    rw [HandleTable.get, hget]
  rw [value, exec_bind, exec_get]
  simp only [exec_ofExcept, hget]

/-- Evaluating a procedure that has only read. -/
theorem exec_evaluate_ofProc_of_done {α : Type} {q : Proc α} {a : α} (hb : b.isHalted = false)
    (hq : q b.world = .done a b.world) : exec (evaluate (.ofProc q)) b = (.ok a, b) := by
  refine exec_evaluate_of_done hb ?_
  change (q b.world).bind _ = _
  rw [hq]
  rfl

theorem exec_valueKind {k : ValueKind} (hb : b.isHalted = false) (hv : b.live h = some v)
    (hk : Exchange.kindOf v b.world = .done k b.world) : exec (valueKind h) b = (.ok k, b) := by
  rw [valueKind, exec_bind, exec_value_of_live hv]
  exact exec_evaluate_ofProc_of_done hb hk

theorem exec_settlement (hb : b.isHalted = false) (hv : b.live h = some (.object p))
    (hs : b.world.promise? p = some s) : exec (settlement h) b = (.ok s, b) := by
  have hread : Proc.promiseState? (.object p) b.world = .done (some s) b.world := by
    rw [run_promiseState?, hs]
  rw [settlement, exec_bind, exec_value_of_live hv]
  simp only [exec_bind, exec_evaluate_ofProc_of_done hb hread, exec_pure]

theorem exec_promiseStatus (hb : b.isHalted = false) (hv : b.live h = some (.object p))
    (hs : b.world.promise? p = some s) : ∃ status, exec (promiseStatus h) b = (.ok status, b) ∧
      (status = .pending ↔ s.result? = none) := by
  rw [promiseStatus, exec_bind, exec_settlement hb hv hs]
  cases s with
  | pending => exact ⟨.pending, rfl, fun _ => rfl, fun _ => rfl⟩
  | fulfilled v => exact ⟨.fulfilled, rfl, by rintro ⟨⟩, by rintro ⟨⟩⟩
  | rejected v => exact ⟨.rejected, rfl, by rintro ⟨⟩, by rintro ⟨⟩⟩

/-- What cannot be looked at changes nothing. -/
theorem exec_glance_refused (hrefused : b.isHalted = true ∨ b.live h = none) :
    ∃ e, exec (glance h) b = (.error e, b) := by
  have hkind : ∃ e, exec (valueKind h) b = (.error e, b) := by
    rw [valueKind, exec_bind]
    cases hv : b.live h with
    | none => exact ⟨_, by rw [exec_value_of_not_live hv]⟩
    | some v =>
      have hb : b.isHalted = true := hrefused.resolve_right (by simp [hv])
      refine ⟨.engine .exhausted, ?_⟩
      simp only [exec_value_of_live hv, evaluate, exec_perform, hb, ↓reduceIte]
  obtain ⟨e, hkind⟩ := hkind
  exact ⟨e, by rw [glance, exec_bind, hkind]⟩

/-- **A look at a settled promise** makes a handle for what is in it. -/
theorem exec_glance_of_opens? (hu : b.opens? h = some u) : ∃ status,
    exec (glance h) b = (.ok (.settled status (b.handles.insert u).1), b.holding u) := by
  obtain ⟨hb, v, hv, hopen⟩ := Bridge.opens?_eq_some hu
  obtain ⟨p, rfl, -⟩ := World.settledWith?_eq_some hopen
  obtain ⟨s, hs, hresult⟩ := Option.bind_eq_some_iff.1 hopen
  have hkind := exec_valueKind hb hv (kindOf_eq_promise_iff.2 ⟨p, s, rfl, hs⟩)
  obtain ⟨status, hstatus, hsettled⟩ := exec_promiseStatus hb hv hs
  have hkept : exec (promiseResult h) b = (.ok (b.handles.insert u).1, b.holding u) := by
    rw [promiseResult, exec_bind, exec_settlement hb hv hs]
    cases s with
    | pending => cases hresult
    | fulfilled v | rejected v => cases hresult; rfl
  refine ⟨status, ?_⟩
  simp only [glance, exec_bind, hkind, hstatus]
  -- a promise that holds something is not pending
  cases status with
  | pending => cases hresult.symm.trans (hsettled.1 rfl)
  | fulfilled | rejected => simp only [exec_bind, hkept, exec_pure]

/-! ### The text of a value -/

/-- The text that shows a value of a kind.  A promise is not settled. -/
def spellingOf (v : Value) : ValueKind → Crossing String
  | .undefined => pure (Style.dimmed.paint (Style.blue.paint "undefined"))
  | .null => pure (Style.blue.paint "null")
  | .boolean | .number => Style.yellow.paint <$> Exchange.coerceText v
  | .bigint => (fun text => Style.yellow.paint (text ++ "n")) <$> Exchange.coerceText v
  | .string => (fun text => Style.green.paint ("'" ++ text ++ "'")) <$> Exchange.coerceText v
  | .symbol => Style.magenta.paint <$> Exchange.coerceText v
  | .function => pure (Style.magenta.paint "[Function]")
  | .array | .object => (fun j => Style.cyan.paint j.compact) <$> Exchange.toJson v
  | .promise => pure pendingText

/-- The text that shows a value. -/
def spelling (v : Value) : Crossing String := do
  spellingOf v (← Crossing.ofProc (Exchange.kindOf v))

theorem run_spelling {k : ValueKind} {w : World} (hk : Exchange.kindOf v w = .done k w) :
    (spelling v).run w = (spellingOf v k).run w := by
  change ((Exchange.kindOf v w).bind _).bind _ = _
  rw [hk]
  rfl

/-- What the host is told of a crossing: the value, why there is none, or how what was thrown is
described. -/
def report {α : Type} (c : Crossing α) : Proc (Except BridgeError α) :=
  Proc.attempt c.run >>= told fun r => r.mapError .engine

theorem exec_evaluate_eq {α : Type} (c : Crossing α) (b : Bridge) :
    exec (evaluate c) b = exec (perform (report c)) b :=
  exec_evaluate (fun w => (Outcome.bind_done (c.run w)).symm) b

/-- Crossings that begin the same take the same run. -/
theorem exec_evaluate_congr {α : Type} {c d : Crossing α} (h : c.run b.world = d.run b.world) :
    exec (evaluate c) b = exec (evaluate d) b := by
  rw [exec_evaluate_eq, exec_evaluate_eq]
  refine exec_perform_congr ?_
  rw [report, report, Proc.run_attempt_bind, Proc.run_attempt_bind, h]

/-- **Any other look makes the text**, and no handle. -/
theorem exec_glance_of_closed (hb : b.isHalted = false) (hv : b.live h = some v)
    (hclosed : b.world.settledWith? v = none) : exec (glance h) b =
      ((exec (evaluate (spelling v)) b).1.map .text, (exec (evaluate (spelling v)) b).2) := by
  obtain ⟨k, hk⟩ := Proc.Reads.kindOf v b.world
  rw [exec_evaluate_congr (run_spelling hk), glance, exec_bind, exec_valueKind hb hv hk]
  have hplain (text : String) : exec (evaluate (pure text)) b = (.ok text, b) :=
    exec_evaluate_of_done hb rfl
  have htext (f : String → String) : exec (do return Glance.text (f (← getString h))) b =
      ((exec (evaluate (f <$> Exchange.coerceText v)) b).1.map .text,
        (exec (evaluate (f <$> Exchange.coerceText v)) b).2) := by
    have hget : exec (getString h) b = exec (evaluate (Exchange.coerceText v)) b := by
      rw [getString, exec_bind, exec_value_of_live hv]
    rw [exec_evaluate_map, exec_bind, hget]
    rcases exec (evaluate (Exchange.coerceText v)) b with ⟨e | text, b'⟩ <;> rfl
  have hjson (f : Json → String) : exec (do return Glance.text (f (← toJson h))) b =
      ((exec (evaluate (f <$> Exchange.toJson v)) b).1.map .text,
        (exec (evaluate (f <$> Exchange.toJson v)) b).2) := by
    have hconvert : exec (toJson h) b = exec (evaluate (Exchange.toJson v)) b := by
      rw [toJson, exec_bind, exec_value_of_live hv]
    rw [exec_evaluate_map, exec_bind, hconvert]
    rcases exec (evaluate (Exchange.toJson v)) b with ⟨e | j, b'⟩ <;> rfl
  cases k with
  | undefined | null | function =>
    simp only [spellingOf, hplain]
    rfl
  | boolean | number | bigint | string | symbol => exact htext _
  | array | object => exact hjson _
  | promise =>
    -- it holds nothing, so it is pending, and its result is not asked for
    obtain ⟨p, s, rfl, hs⟩ := kindOf_eq_promise_iff.1 hk
    obtain ⟨status, hstatus, hpending⟩ := exec_promiseStatus hb hv hs
    rw [World.settledWith?, hs] at hclosed
    obtain rfl := hpending.2 hclosed
    simp only [exec_bind, hstatus, spellingOf, hplain]
    rfl

/-- A look that opens nothing yields a text or fails, and leaves the handles alone. -/
theorem exec_glance_text (hopen : b.opens? h = none) : ∃ r : Except BridgeError String, ∃ b',
    exec (glance h) b = (r.map .text, b') ∧ b'.handles = b.handles := by
  by_cases hrefused : b.isHalted = true ∨ b.live h = none
  · obtain ⟨e, he⟩ := exec_glance_refused hrefused
    exact ⟨.error e, b, he, rfl⟩
  · rw [not_or, Bool.not_eq_true] at hrefused
    obtain ⟨hb, hlive⟩ := hrefused
    obtain ⟨v, hv⟩ := Option.ne_none_iff_exists'.1 hlive
    refine ⟨_, _, exec_glance_of_closed hb hv ((opens?_of_live hb hv).symm.trans hopen), ?_⟩
    exact inner_sameHandles.perform _ b

end BridgeM

/-! ### Texts that come to an end -/

namespace Bridge

/-- What throws nothing comes to a value. -/
theorem ComesTo.ok_of_only {α : Type} {n : Nat} {q : Proc α} {P : α → Prop} {x : Except Value α}
    (hx : b.ComesTo q n x b') (hq : q.Only P False) : ∃ a, x = .ok a := by
  obtain hnone | ⟨a, ha, -⟩ | ⟨e, -, hfalse⟩ :=
    runFor_only (r := .top (q b.world)) (hq b.world) n b
  · rw [hx.2] at hnone
    cases hnone
  · rw [hx.2] at ha
    exact ⟨a, Option.some.inj ha⟩
  · exact hfalse.elim

open BridgeM

/-- Making the text of a value comes to an end, by no more than so many steps: what the host is told
then. -/
def SpellsIn (limit : Nat) (b : Bridge) (v : Value) (r : Except BridgeError String)
    (b' : Bridge) : Prop := b.ComesTo (report (spelling v)) limit (.ok r) b'

/-- Making the text of a value comes to an end, however long that takes. -/
def Spells (b : Bridge) (v : Value) : Prop := ∃ limit r b', b.SpellsIn limit v r b'

/-- Which handles there are does not matter. -/
theorem SpellsIn.withHandles {limit : Nat} {r : Except BridgeError String}
    (h : b.SpellsIn limit v r b') (t : HandleTable Value) :
    SpellsIn limit { b with handles := t } v r { b' with handles := t } :=
  ComesTo.withHandles h t

theorem spells_holding_iff : (b.holding u).Spells v ↔ b.Spells v := by
  constructor
  · rintro ⟨limit, r, b', h⟩
    exact ⟨limit, r, _, h.withHandles b.handles⟩
  · rintro ⟨limit, r, b', h⟩
    exact ⟨limit, r, _, h.withHandles _⟩

/-- The host is told of whatever comes to an end. -/
theorem only_report {α : Type} (c : Crossing α) : (report c).Only (fun _ => True) False := by
  refine (Proc.Only.attempt (Proc.Only.any _)).bind fun x _ => ?_
  cases x with
  | ok a => exact .pure trivial
  | error e => exact (Exchange.only_describe e).bind fun _ _ => .pure trivial

/-- **What the host gets of the text in time**, and all that it gets of an engine that was not cut
off. -/
theorem spellsIn_stepLimit_iff {r : Except BridgeError String} :
    b.SpellsIn stepLimit v r b' ↔
      exec (evaluate (spelling v)) b = (r, b') ∧ b'.isHalted = false := by
  rw [exec_evaluate_eq, exec_perform_eq_iff]
  constructor
  · exact fun h => ⟨.ok r, h, rfl⟩
  · rintro ⟨x, hx, rfl⟩
    obtain ⟨r, rfl⟩ := ComesTo.ok_of_only hx (only_report _)
    exact hx

/-- A text that is made without running anything. -/
theorem spells_of_done {k : ValueKind} {x : Except EngineFault String} (hb : b.isHalted = false)
    (hk : Exchange.kindOf v b.world = .done k b.world)
    (hx : (spellingOf v k).run b.world = .done x b.world) : b.Spells v := by
  have hrun : b.ComesTo (spelling v).run 1 (.ok x) b :=
    .of_ofExcept (w := b.world) hb ((run_spelling hk).trans hx)
  exact ⟨1, _, b, hrun.attempt_bind (.pure hb _) (Nat.le_refl _)⟩

theorem run_map_of_done {α β : Type} {c : Crossing α} {x : Except EngineFault α} {w : World}
    (f : α → β) (hx : c.run w = .done x w) : (f <$> c).run w = .done (x.map f) w := by
  change (c.run w).bind _ = _
  rw [hx]
  cases x <;> rfl

/-- A value that is no object and no symbol has a text, or half of a pair stands in that. -/
theorem spells_of_plainText? {text : Str} (hb : b.isHalted = false)
    (htext : v.plainText? = some text) : b.Spells v := by
  have hcross : ∃ x, (Exchange.coerceText v).run b.world = .done x b.world := by
    rw [run_coerceText, run_toStr_of_plainText? htext, Outcome.bind, Exchange.textOf]
    split
    · exact ⟨_, rfl⟩
    · exact ⟨_, rfl⟩
  obtain ⟨x, hx⟩ := hcross
  cases v with
  | undefined | null => exact spells_of_done hb rfl rfl
  | bool _ | int _ | float _ | string _ | bigint _ =>
    exact spells_of_done hb rfl (run_map_of_done _ hx)
  | symbol _ | object _ => cases htext

/-- **Only symbols, arrays and objects can run scripts.** -/
theorem spells_of_kind {k : ValueKind} (hb : b.isHalted = false)
    (hk : Exchange.kindOf v b.world = .done k b.world)
    (hquiet : k ≠ .symbol ∧ k ≠ .array ∧ k ≠ .object) : b.Spells v := by
  cases v with
  | undefined | null | bool _ | int _ | float _ | string _ | bigint _ =>
    exact spells_of_plainText? hb rfl
  | symbol id =>
    cases hk
    exact absurd rfl hquiet.1
  | object r =>
    obtain rfl | rfl | rfl | rfl := kind_of_object hk
    · exact absurd rfl hquiet.2.1
    · exact spells_of_done hb hk rfl
    · exact spells_of_done hb hk rfl
    · exact absurd rfl hquiet.2.2

/-- **Plain data does not run scripts either**, if it is not nested too deeply. -/
theorem spells_of_isPlain {r : Ref} (hb : b.isHalted = false) (hv : b.world.IsPlain (.object r))
    (hwithin : b.world.Within (Exchange.maxDepth + 1) (.object r)) : b.Spells (.object r) := by
  obtain ⟨k, hk⟩ := Proc.Reads.kindOf (.object r) b.world
  obtain ⟨j, hj, -⟩ := (Exchange.converts hv).unfolds hwithin
  obtain rfl | rfl | rfl | rfl := kind_of_object hk
  · exact spells_of_done hb hk (run_map_of_done _ hj)
  · exact spells_of_done hb hk rfl
  · exact spells_of_done hb hk rfl
  · exact spells_of_done hb hk (run_map_of_done _ hj)

end Bridge

end ScriptBridge
