import Mathlib.Order.Defs.Unbundled
import Mathlib.Tactic.SplitIfs

/-!
# Programs with failures and state

The operations of a bridge, and those on the table of modules, are programs that change a state and
may fail; a failure keeps the changes before it.  This file is the logic that all proofs about them
use.

* `Ends p s Q` : run from `s`, the program `p` comes to an outcome and a state of which `Q` holds.
  `Ends.bind` follows a program step by step.
* `Succeeds p` : no run of `p` fails.
* `Keeps R p` : every run of `p` relates the states before and after it by `R`.  For a **preorder**
  `R` all ways of putting programs together keep what the parts keep.
-/

namespace ScriptBridge

variable {ε σ α β : Type} {p : ExceptT ε (StateM σ) α} {f : α → ExceptT ε (StateM σ) β}

/-- What a program comes to, and the state after it. -/
def exec (p : ExceptT ε (StateM σ) α) (s : σ) : Except ε α × σ := p.run.run s

/-! ### What each way of making a program comes to -/

@[simp] theorem exec_pure (a : α) (s : σ) :
    exec (pure a : ExceptT ε (StateM σ) α) s = (.ok a, s) := rfl

@[simp] theorem exec_throw (e : ε) (s : σ) :
    exec (throw e : ExceptT ε (StateM σ) α) s = (.error e, s) := rfl

@[simp] theorem exec_get (s : σ) : exec (get : ExceptT ε (StateM σ) σ) s = (.ok s, s) := rfl

@[simp] theorem exec_set (s' s : σ) :
    exec (set s' : ExceptT ε (StateM σ) PUnit) s = (.ok ⟨⟩, s') := rfl

@[simp] theorem exec_modify (g : σ → σ) (s : σ) :
    exec (modify g : ExceptT ε (StateM σ) PUnit) s = (.ok ⟨⟩, g s) := rfl

@[simp] theorem exec_modifyGet (g : σ → α × σ) (s : σ) :
    exec (modifyGet g : ExceptT ε (StateM σ) α) s = (.ok (g s).1, (g s).2) := rfl

@[simp] theorem exec_ofExcept (r : Except ε α) (s : σ) :
    exec (MonadExcept.ofExcept r : ExceptT ε (StateM σ) α) s = (r, s) := by
  cases r <;> rfl

theorem exec_bind (p : ExceptT ε (StateM σ) α) (f : α → ExceptT ε (StateM σ) β) (s : σ) :
    exec (p >>= f) s =
      match exec p s with
      | (.ok a, s') => exec (f a) s'
      | (.error e, s') => (.error e, s') := by
  change (ExceptT.bindCont f (exec p s).1).run (exec p s).2 = _
  rcases exec p s with ⟨⟨e⟩ | a, s'⟩ <;> rfl

theorem exec_map (g : α → β) (p : ExceptT ε (StateM σ) α) (s : σ) :
    exec (g <$> p) s = ((exec p s).1.map g, (exec p s).2) := by
  rw [map_eq_pure_bind, exec_bind]
  rcases exec p s with ⟨⟨e⟩ | a, s'⟩ <;> rfl

theorem exec_discard (p : ExceptT ε (StateM σ) α) (s : σ) :
    exec (discard p) s = ((exec p s).1.map fun _ => ⟨⟩, (exec p s).2) := exec_map _ p s

theorem exec_tryCatch (p : ExceptT ε (StateM σ) α) (h : ε → ExceptT ε (StateM σ) α) (s : σ) :
    exec (tryCatch p h) s =
      match exec p s with
      | (.ok a, s') => (.ok a, s')
      | (.error e, s') => exec (h e) s' := by
  change (match (exec p s).1 with
    | .ok a => (pure (Except.ok a) : StateM σ (Except ε α))
    | .error e => h e).run (exec p s).2 = _
  rcases exec p s with ⟨⟨e⟩ | a, s'⟩ <;> rfl

/-! ### Following one run -/

/-- The program comes to an outcome and a state of which `Q` holds. -/
def Ends (p : ExceptT ε (StateM σ) α) (s : σ) (Q : Except ε α → σ → Prop) : Prop :=
  Q (exec p s).1 (exec p s).2

namespace Ends

variable {s : σ} {P Q : Except ε α → σ → Prop}

theorem pure {a : α} (h : Q (.ok a) s) : Ends (Pure.pure a) s Q := h

theorem throw {e : ε} (h : Q (.error e) s) : Ends (MonadExcept.throw e) s Q := h

theorem mono (h : Ends p s P) (hPQ : ∀ r s', P r s' → Q r s') : Ends p s Q := hPQ _ _ h

theorem imp {c : Prop} (h : c → Ends p s P) : Ends p s fun r s' => c → P r s' := h

theorem and (hP : Ends p s P) (hQ : Ends p s Q) : Ends p s fun r s' => P r s' ∧ Q r s' := ⟨hP, hQ⟩

theorem bind {P : Except ε α → σ → Prop} {Q : Except ε β → σ → Prop} (h : Ends p s P)
    (hok : ∀ a s', P (.ok a) s' → Ends (f a) s' Q)
    (herr : ∀ e s', P (.error e) s' → Q (.error e) s') : Ends (p >>= f) s Q := by
  unfold Ends at h ⊢
  rw [exec_bind]
  rcases hp : exec p s with ⟨⟨e⟩ | a, s'⟩
  · rw [hp] at h
    exact herr e s' h
  · rw [hp] at h
    exact hok a s' h

/-- Only the last part of the program matters, and its failures. -/
theorem bind_any {Q : Except ε β → σ → Prop} (hf : ∀ a s', Ends (f a) s' Q)
    (herr : ∀ e s', Q (.error e) s') : Ends (p >>= f) s Q :=
  Ends.bind (P := fun _ _ => True) trivial (fun a s' _ => hf a s') fun e s' _ => herr e s'

theorem map {g : α → β} {Q : Except ε β → σ → Prop} (h : Ends p s fun r s' => Q (r.map g) s') :
    Ends (g <$> p) s Q := by
  rwa [Ends, exec_map]

theorem get_bind {f : σ → ExceptT ε (StateM σ) β} {Q : Except ε β → σ → Prop}
    (h : Ends (f s) s Q) : Ends (get >>= f) s Q := by
  rwa [Ends, exec_bind, exec_get]

theorem modify_bind {g : σ → σ} {f : PUnit → ExceptT ε (StateM σ) β} {Q : Except ε β → σ → Prop}
    (h : Ends (f ⟨⟩) (g s) Q) : Ends (modify g >>= f) s Q := by
  rwa [Ends, exec_bind, exec_modify]

theorem ofExcept_bind {r : Except ε α} {f : α → ExceptT ε (StateM σ) β}
    {Q : Except ε β → σ → Prop} (hok : ∀ a, r = .ok a → Ends (f a) s Q)
    (herr : ∀ e, r = .error e → Q (.error e) s) : Ends (MonadExcept.ofExcept r >>= f) s Q := by
  unfold Ends
  rw [exec_bind, exec_ofExcept]
  cases r with
  | ok a => exact hok a rfl
  | error e => exact herr e rfl

theorem tryCatch {h : ε → ExceptT ε (StateM σ) α} (hp : Ends p s P)
    (hok : ∀ a s', P (.ok a) s' → Q (.ok a) s')
    (herr : ∀ e s', P (.error e) s' → Ends (h e) s' Q) : Ends (tryCatch p h) s Q := by
  unfold Ends at hp ⊢
  rw [exec_tryCatch]
  rcases hr : exec p s with ⟨⟨e⟩ | a, s'⟩
  · rw [hr] at hp
    exact herr e s' hp
  · rw [hr] at hp
    exact hok a s' hp

end Ends

/-! ### Programs that never fail -/

/-- No run of the program fails. -/
def Succeeds (p : ExceptT ε (StateM σ) α) : Prop := ∀ s, Ends p s fun r _ => ∃ a, r = .ok a

namespace Succeeds

theorem pure (a : α) : Succeeds (Pure.pure a : ExceptT ε (StateM σ) α) := fun _ => ⟨a, rfl⟩

theorem get : Succeeds (MonadState.get : ExceptT ε (StateM σ) σ) := fun s => ⟨s, rfl⟩

theorem modify (g : σ → σ) : Succeeds (modify g : ExceptT ε (StateM σ) PUnit) :=
  fun _ => ⟨⟨⟩, rfl⟩

theorem bind (hp : Succeeds p) (hf : ∀ a, Succeeds (f a)) : Succeeds (p >>= f) := by
  intro s
  refine (hp s).bind (fun a s' _ => hf a s') ?_
  rintro e _ ⟨_, ⟨⟩⟩

theorem map {g : α → β} (hp : Succeeds p) : Succeeds (g <$> p) := by
  intro s
  obtain ⟨a, ha⟩ := hp s
  exact ⟨g a, by rw [exec_map, ha]; rfl⟩

theorem discard (hp : Succeeds p) : Succeeds (Functor.discard p) := hp.map

theorem tryCatch {h : ε → ExceptT ε (StateM σ) α} (hh : ∀ e, Succeeds (h e)) :
    Succeeds (tryCatch p h) := fun _ =>
  Ends.tryCatch (P := fun _ _ => True) trivial (fun a _ _ => ⟨a, rfl⟩) fun e s' _ => hh e s'

end Succeeds

/-! ### What every run keeps -/

variable {R : σ → σ → Prop}

/-- Every run of the program relates the states before and after it. -/
def Keeps (R : σ → σ → Prop) (p : ExceptT ε (StateM σ) α) : Prop := ∀ s, R s (exec p s).2

namespace Keeps

theorem ends (h : Keeps R p) (s : σ) : Ends p s fun _ s' => R s s' := h s

theorem of_ends (h : ∀ s, Ends p s fun _ s' => R s s') : Keeps R p := h

theorem modifyGet {g : σ → α × σ} (h : ∀ s, R s (g s).2) :
    Keeps R (modifyGet g : ExceptT ε (StateM σ) α) := h

theorem modify {g : σ → σ} (h : ∀ s, R s (g s)) :
    Keeps R (modify g : ExceptT ε (StateM σ) PUnit) := h

theorem map {g : α → β} (hp : Keeps R p) : Keeps R (g <$> p) := by
  intro s
  rw [exec_map]
  exact hp s

theorem discard (hp : Keeps R p) : Keeps R (Functor.discard p) := hp.map

theorem ite {c : Prop} [Decidable c] {q : ExceptT ε (StateM σ) α} (hp : Keeps R p)
    (hq : Keeps R q) : Keeps R (if c then p else q) := by
  split_ifs
  · exact hp
  · exact hq

variable [IsPreorder σ R]

theorem pure (a : α) : Keeps R (Pure.pure a : ExceptT ε (StateM σ) α) := fun s => refl_of R s

theorem throw (e : ε) : Keeps R (MonadExcept.throw e : ExceptT ε (StateM σ) α) :=
  fun s => refl_of R s

theorem get : Keeps R (MonadState.get : ExceptT ε (StateM σ) σ) := fun s => refl_of R s

theorem ofExcept (r : Except ε α) : Keeps R (MonadExcept.ofExcept r : ExceptT ε (StateM σ) α) := by
  intro s
  rw [exec_ofExcept]
  exact refl_of R s

theorem bind (hp : Keeps R p) (hf : ∀ a, Keeps R (f a)) : Keeps R (p >>= f) :=
  of_ends fun s => Ends.bind (hp.ends s)
    (fun a s' h => ((hf a).ends s').mono fun _ _ h' => trans_of R h h') fun _ _ h => h

theorem tryCatch {h : ε → ExceptT ε (StateM σ) α} (hp : Keeps R p) (hh : ∀ e, Keeps R (h e)) :
    Keeps R (MonadExcept.tryCatch p h) :=
  of_ends fun s => Ends.tryCatch (hp.ends s) (fun _ _ h' => h')
    fun e s' h' => ((hh e).ends s').mono fun _ _ h'' => trans_of R h' h''

theorem mapM {g : α → ExceptT ε (StateM σ) β} (hg : ∀ a, Keeps R (g a)) (l : List α) :
    Keeps R (l.mapM g) := by
  induction l with
  | nil => exact pure _
  | cons a l ih =>
    rw [List.mapM_cons]
    exact (hg a).bind fun _ => ih.bind fun _ => pure _

end Keeps

end ScriptBridge
