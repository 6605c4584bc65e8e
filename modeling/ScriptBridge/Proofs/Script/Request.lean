import ScriptBridge.Script.Eval.Call

/-!
# What procedures ask for

A procedure asks for one thing after the other, and what it asks for may depend on the replies.
`Outcome.Comes o qs e` says that there are replies with which `o` asks for `qs` and then comes to
`e`; the replies are arbitrary, but the host never throws.

* `Proc.HostFree` : a procedure that never asks the host for anything, though what it calls may.
* `Exchange.hostFree_toJson` : making the JSON form of a value is one of them.
* `Proc.comes_startHostCall` : a function call that starts an async call **asks the host for it
  once, as the last thing, if it returns, and never if it throws**.
-/

namespace ScriptBridge.Script

variable {α β : Type}

/-- Whether the host is asked. -/
def Request.IsHost (q : Request) : Prop := ∃ h, q = .host h

/-- With some replies the outcome asks for these requests, in order, and then comes to this end. -/
inductive Outcome.Comes : Outcome α → List Request → Except Value α → Prop
  | done (a : α) (w : World) : Comes (.done a w) [] (.ok a)
  | thrown (v : Value) (w : World) : Comes (.thrown v w) [] (.error v)
  | ask {q : Request} {w : World} {k : Except Value Reply → World → Outcome α} {qs : List Request}
      {e : Except Value α} (r : Except Value Reply) (w' : World)
      (hr : q.IsHost → ∃ a, r = .ok a) (h : Comes (k r w') qs e) : Comes (.ask q w k) (q :: qs) e

/-- The outcome never asks the host. -/
def Outcome.HostFree : Outcome α → Prop
  | .done .. | .thrown .. => True
  | .ask q _ k => ¬ q.IsHost ∧ ∀ r w, (k r w).HostFree

namespace Outcome

theorem HostFree.bind {o : Outcome α} {f : α → World → Outcome β} (h : o.HostFree)
    (hf : ∀ a w, (f a w).HostFree) : (o.bind f).HostFree := by
  induction o with
  | done a w => exact hf a w
  | thrown v w => trivial
  | ask q w k ih => exact ⟨h.1, fun r w' => ih r w' (h.2 r w')⟩

theorem HostFree.comes {o : Outcome α} (h : o.HostFree) {qs : List Request} {e : Except Value α}
    (hc : o.Comes qs e) : ∀ q ∈ qs, ¬ q.IsHost := by
  induction hc with
  | done => exact List.forall_mem_nil _
  | thrown => exact List.forall_mem_nil _
  | ask r w' _ _ ih => exact List.forall_mem_cons.2 ⟨h.1, ih (h.2 r w')⟩

/-- Going on: either the first part throws, or the second follows it. -/
theorem Comes.of_bind {o : Outcome α} {f : α → World → Outcome β} {qs : List Request}
    {e : Except Value β} (h : (o.bind f).Comes qs e) :
    (∃ v, o.Comes qs (.error v) ∧ e = .error v) ∨
      ∃ qs₁ qs₂ a w, qs = qs₁ ++ qs₂ ∧ o.Comes qs₁ (.ok a) ∧ (f a w).Comes qs₂ e := by
  induction o generalizing qs with
  | done a w => exact .inr ⟨[], qs, a, w, rfl, .done a w, h⟩
  | thrown v w =>
    cases h
    exact .inl ⟨v, .thrown v w, rfl⟩
  | ask q w k ih =>
    cases h with
    | ask r w' hr h =>
      obtain ⟨v, hv, rfl⟩ | ⟨qs₁, qs₂, a, w'', rfl, ho, hf⟩ := ih r w' h
      · exact .inl ⟨v, .ask r w' hr hv, rfl⟩
      · exact .inr ⟨q :: qs₁, qs₂, a, w'', rfl, .ask r w' hr ho, hf⟩

end Outcome

namespace Proc

/-- The procedure never asks the host. -/
def HostFree (p : Proc α) : Prop := ∀ w, (p w).HostFree

namespace HostFree

variable {p : Proc α} {f : α → Proc β}

theorem pure (a : α) : HostFree (Pure.pure a : Proc α) := fun _ => trivial

theorem throwValue (v : Value) : HostFree (throwValue v : Proc α) := fun _ => trivial

theorem world : HostFree world := fun _ => trivial

theorem bind (hp : HostFree p) (hf : ∀ a, HostFree (f a)) : HostFree (p >>= f) :=
  fun w => (hp w).bind fun a => hf a

theorem ask {q : Request} (hq : ¬ q.IsHost) : HostFree (ask q) := by
  refine fun w => ⟨hq, fun r w' => ?_⟩
  cases r <;> trivial

theorem object (r : Ref) : HostFree (object r) := world.bind fun _ => pure _

theorem call (f this : Value) (args : List Value) : HostFree (call f this args) :=
  (ask fun ⟨_, h⟩ => nomatch h).bind fun _ => pure _

theorem isTraced : HostFree isTraced := by
  refine (ask fun ⟨_, h⟩ => nomatch h).bind fun r => ?_
  split
  all_goals exact pure _

theorem throwNew (type : ErrorType) (message : String) :
    HostFree (throwNew type message : Proc α) := by
  refine bind (bind ?_ fun r => pure _) fun v => throwValue v
  exact isTraced.bind fun _ => fun w => trivial

theorem throwType (message : String) : HostFree (throwType message : Proc α) := throwNew _ _

theorem readHolding (h : Holding) (receiver : Value) : HostFree (readHolding h receiver) := by
  unfold Proc.readHolding
  split
  · exact pure _
  · exact pure _
  · exact call _ _ _
  · exact throwNew _ _
  · exact pure _

theorem getOf (r : Ref) (k : Key) : HostFree (getOf r k) := by
  refine bind (world.bind fun w => pure _) fun found => ?_
  split
  · exact readHolding _ _
  · exact pure _

theorem enumerableKeys (r : Ref) : HostFree (enumerableKeys r) := by
  refine world.bind fun w => ?_
  dsimp only
  split
  · exact throwNew _ _
  · exact pure _

end HostFree

end Proc

namespace Crossing

/-- The crossing never asks the host. -/
def HostFree (p : Crossing α) : Prop := Proc.HostFree p.run

namespace HostFree

variable {p : Crossing α} {f : α → Crossing β}

theorem pure (a : α) : HostFree (Pure.pure a : Crossing α) := fun _ => trivial

theorem fault (e : EngineFault) : HostFree (fault e : Crossing α) := fun _ => trivial

theorem ofProc {p : Proc α} (hp : p.HostFree) : HostFree (ofProc p) := hp.bind fun _ => .pure _

theorem bind (hp : HostFree p) (hf : ∀ a, HostFree (f a)) : HostFree (p >>= f) := by
  refine Proc.HostFree.bind hp fun r => ?_
  cases r with
  | ok a => exact hf a
  | error e => exact .pure _

theorem mapM {f : α → Crossing β} (hf : ∀ a, HostFree (f a)) (l : List α) :
    HostFree (l.mapM f) := by
  have hloop (l : List α) (made : List β) : HostFree (List.mapM.loop f l made) := by
    induction l generalizing made with
    | nil => exact pure _
    | cons a l ih => exact (hf a).bind fun b => ih (b :: made)
  exact hloop l []

/-- It is still so for a script, to which a fault is thrown. -/
theorem orThrow (hp : HostFree p) : p.orThrow.HostFree := by
  refine Proc.HostFree.bind hp fun r => ?_
  split
  · exact .pure _
  · exact .throwType _

end HostFree

end Crossing

namespace Exchange

open Crossing (HostFree)

theorem hostFree_textOf (s : Str) : HostFree (textOf s) := by
  unfold textOf
  split
  · exact .pure _
  · exact .fault _

theorem hostFree_toJsonIn (room : Nat) (v : Value) : HostFree (toJsonIn room v) := by
  induction room generalizing v with
  | zero => exact .ofProc (.throwNew _ _)
  | succ room ih =>
    cases v with
    | string s => exact (hostFree_textOf s).bind fun _ => .pure _
    | object r =>
      refine (HostFree.ofProc (.object r)).bind fun o => ?_
      split
      · exact .pure _
      · split
        · have hitem (i : Nat) := (HostFree.ofProc (.getOf r (.index i))).bind fun v => ih v
          exact (HostFree.mapM hitem _).bind fun _ => .pure _
        · refine (HostFree.ofProc ((Proc.HostFree.enumerableKeys r).bind fun _ => .pure _)).bind
            fun keys => ?_
          refine (HostFree.mapM (fun k => ?_) _).bind fun _ => .pure _
          refine (hostFree_textOf _).bind fun name => ?_
          exact (HostFree.ofProc (.getOf r k)).bind fun v => (ih v).bind fun _ => .pure _
    | _ => exact .pure _

/-- **Making the JSON form of a value never asks the host**, whatever the getters do that it
calls. -/
theorem hostFree_toJson (v : Value) : HostFree (toJson v) := hostFree_toJsonIn _ v

end Exchange

namespace Proc

/-- What a script gives with an async call. -/
def payloadOf : List Value → Proc Json
  | [] => pure .null
  | v :: _ => (Exchange.toJson v).orThrow

theorem hostFree_payloadOf (args : List Value) : (payloadOf args).HostFree := by
  cases args with
  | nil => exact .pure _
  | cons v _ => exact (Exchange.hostFree_toJson v).orThrow

theorem startHostCall_eq (args : List Value) : startHostCall args = do
    return valueOf (← ask (.host (.startAsync (← payloadOf args)))) := by
  cases args <;> rfl

/-- **Starting an async call asks the host for it once, as the last thing, or throws and never asks
the host.** -/
theorem comes_startHostCall {args : List Value} {w : World} {qs : List Request}
    {e : Except Value Value} (h : (startHostCall args w).Comes qs e) :
    (∃ v, e = .error v ∧ ∀ q ∈ qs, ¬ q.IsHost) ∨
      ∃ qs' payload r, (payloadOf args w).Comes qs' (.ok payload) ∧ (∀ q ∈ qs', ¬ q.IsHost) ∧
        qs = qs' ++ [.host (.startAsync payload)] ∧ e = .ok (valueOf r) := by
  rw [startHostCall_eq] at h
  have hfree := hostFree_payloadOf args w
  obtain ⟨v, hv, rfl⟩ | ⟨qs₁, qs₂, payload, w', rfl, hpayload, hask⟩ := Outcome.Comes.of_bind h
  · exact .inl ⟨v, rfl, hfree.comes hv⟩
  · right
    cases hask with
    | ask r w'' hr hend =>
      obtain ⟨a, rfl⟩ := hr ⟨_, rfl⟩
      cases hend
      exact ⟨qs₁, payload, a, hpayload, hfree.comes hpayload, rfl, rfl⟩

end Proc

end ScriptBridge.Script
