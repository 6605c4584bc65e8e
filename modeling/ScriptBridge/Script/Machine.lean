import ScriptBridge.Script.Eval.Program

/-!
# The machine

The machine runs procedures and answers their requests.  What waits for a reply is a stack of
frames.  Code that waits for a promise takes its part of the stack with it, and puts it back when
it goes on.  `Running.step` is one step; what the host is asked for comes out of it.
-/

namespace ScriptBridge.Script

/-- Code that waits for a reply. -/
structure Frame where
  mark : Request.Mark
  resume : Except Value Reply → World → Outcome Final

/-- The procedure that waits below all frames. -/
structure Base (α : Type) where
  mark : Request.Mark
  resume : Except Value Reply → World → Outcome α

/-- The code that waits for promises, by its numbers: the innermost frame first. -/
abbrev Suspended := List (Nat × List Frame)

/-- A procedure that runs. -/
inductive Running (α : Type) : Type
  /-- The procedure itself. -/
  | top (o : Outcome α)
  /-- Something it asked for, below which the procedure waits. -/
  | inner (o : Outcome Final) (stack : List Frame) (base : Base α)

/-- What a step comes to. -/
inductive Progress (α : Type) : Type
  | done (a : α) (w : World)
  | thrown (v : Value) (w : World)
  | running (r : Running α) (s : Suspended)
  /-- The host is asked for something. -/
  | asking (h : HostCall) (w : World) (k : Reply → World → Running α)

namespace Running

variable {α : Type}

/-- Gives a reply to what waits for it. -/
def deliver (r : Except Value Reply) (w : World) (stack : List Frame)
    (base : Base α) : Running α :=
  match stack with
  | [] => .top (base.resume r w)
  | f :: rest => .inner (f.resume r w) rest base

/-- Adds a reaction to a promise that goes on with waiting code. -/
def awaitIn (v : Value) (id : Nat) (w : World) : World :=
  match v with
  | .object p => w.addReactions p ⟨none, .resume id⟩ ⟨none, .resume id⟩
  | _ => w

/-- Puts the code above the innermost async frame aside, and lets that one go on with a reply. -/
def suspend (r : Reply) (w : World) (stack : List Frame)
    (base : Base α) (s : Suspended) : Running α × Suspended :=
  let above := stack.takeWhile fun f => f.mark ≠ .async
  let below := stack.dropWhile fun f => f.mark ≠ .async
  (deliver (.ok r) { w with nextWait := w.nextWait + 1 } below base, (w.nextWait, above) :: s)

/-- Puts suspended code back on the stack. -/
def revive (id : Nat) (r : Except Value Reply) (w : World) (stack : List Frame)
    (base : Base α) (s : Suspended) : Running α × Suspended :=
  match s.lookup id with
  | some segment => (deliver r w (segment ++ stack) base, s.filter fun e => e.1 != id)
  | none => (deliver (.ok .nothing) w stack base, s)

/-- Answers a request of the innermost frame, or of the procedure if there is no frame. -/
def answer (q : Request) (w : World) (stack : List Frame)
    (base : Base α) (s : Suspended) : Progress α :=
  match q with
  | .traced =>
    let traced := base.mark ≠ .plain || stack.any fun f => f.mark ≠ .plain
    .running (deliver (.ok (.flag traced)) w stack base) s
  | .host h => .asking h w fun r w => deliver (.ok r) w stack base
  | .await v =>
    let (r, s) := suspend .nothing (awaitIn v w.nextWait w) stack base s
    .running r s
  | .pause r =>
    let (r, s) := suspend r w stack base s
    .running r s
  | .resume id rejected v =>
    let reply := if rejected then .error v else .ok (.value v)
    let (r, s) := revive id reply w stack base s
    .running r s
  | q => .running (.inner (q.run w) stack base) s

/-- One step. -/
def step (s : Suspended) : Running α → Progress α
  | .top (.done a w) => .done a w
  | .top (.thrown v w) => .thrown v w
  | .top (.ask q w k) => answer q w [] ⟨q.mark w, k⟩ s
  | .inner (.done (.reply r) w) stack base => .running (deliver (.ok r) w stack base) s
  | .inner (.done (.tail q) w) stack base => .running (.inner (q.run w) stack base) s
  | .inner (.thrown v w) stack base => .running (deliver (.error v) w stack base) s
  | .inner (.ask q w k) stack base => answer q w (⟨q.mark w, k⟩ :: stack) base s

end Running

end ScriptBridge.Script
