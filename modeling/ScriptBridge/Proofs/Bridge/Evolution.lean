import ScriptBridge.Proofs.Bridge.Frame
import ScriptBridge.Proofs.Script.Evolution

/-!
# Runs of the engine on a bridge

Procedures carry the proof that they lead to worlds that have evolved.  Here that is used for the
runs of the engine on a bridge, which go on with suspended code and serve what scripts ask of the
host:  a relation that allows worlds to evolve, and requests to be served, **is kept by every run**
(`Evolving.perform`), as long as the code that waits is tame.
-/

namespace ScriptBridge

open Script

namespace Bridge

variable {R : Bridge → Bridge → Prop}

/-- The relation allows worlds to evolve and requests to be served. -/
structure Evolving (R : Bridge → Bridge → Prop) : Prop where
  /-- It says something only of bridges on which what waits is tame. -/
  of_tame : ∀ {b b' : Bridge}, (b.suspended.IsTame → R b b') → R b b'
  evolve : ∀ (b : Bridge) w s, b.world.Evolves w → (b.suspended.IsTame → s.IsTame) →
    R b { b with world := w, suspended := s }
  serve : ∀ (b : Bridge) w h,
    R { b with world := w } { (b.serve w h).2.2 with world := (b.serve w h).2.1 }
  halt : ∀ (b : Bridge) v, R b { b with isHalted := v }

theorem evolves_world {α : Type} {r : Running α} {w : World} (h : r.Evolves w) :
    w.Evolves r.world := by
  have houtcome {β : Type} {o : Outcome β} (ho : o.Evolves w) : w.Evolves o.world := by
    cases o with
    | done a w' => exact ho
    | thrown v w' => exact ho
    | ask q w' k => exact ho.1
  cases r with
  | top o => exact houtcome h
  | inner o stack base => exact houtcome h.1

namespace Evolving

variable [IsPreorder Bridge R] (F : Evolving R)

include F

theorem runFor {α : Type} (fuel : Nat) {r : Running α} {w : World} (hr : r.Evolves w)
    (b : Bridge) : R { b with world := w } (Bridge.runFor fuel r b).2 := by
  induction fuel generalizing r w b with
  | zero => exact F.evolve { b with world := w } _ b.suspended (evolves_world hr) id
  | succ fuel ih =>
    refine F.of_tame fun hb => ?_
    have hstep := hr.step hb
    rw [Bridge.runFor]
    cases hp : r.step b.suspended with
    | done a w' =>
      rw [hp] at hstep
      exact F.evolve { b with world := w } w' b.suspended hstep id
    | thrown v w' =>
      rw [hp] at hstep
      exact F.evolve { b with world := w } w' b.suspended hstep id
    | running r s =>
      rw [hp] at hstep
      have hmove := F.evolve { b with world := w } w s (.refl w) fun _ => hstep.2
      exact trans_of R hmove (ih hstep.1 { b with suspended := s })
    | asking h w' k =>
      rw [hp] at hstep
      have hmove := F.evolve { b with world := w } w' b.suspended hstep.1 id
      have hrun := ih (hstep.2 (b.serve w' h).1 (b.serve w' h).2.1) (b.serve w' h).2.2
      exact trans_of R (trans_of R hmove (F.serve b w' h)) hrun

/-- **Every run of the engine keeps the relation.** -/
theorem perform {α : Type} (p : Proc (Except BridgeError α)) : Keeps R (BridgeM.perform p) := by
  intro b
  rw [BridgeM.exec_perform]
  split_ifs with hb
  · exact refl_of R b
  · have hrun : R b (Bridge.runFor stepLimit (.top (p b.world)) { b with world := default }).2 :=
      F.runFor stepLimit (r := .top (p b.world)) (p.evolves b.world) { b with world := default }
    exact trans_of R hrun (F.halt _ _)

end Evolving

end Bridge

end ScriptBridge
