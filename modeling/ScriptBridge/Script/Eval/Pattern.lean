import ScriptBridge.Script.Eval.Expression

/-!
# Patterns

Taking a value apart: the parts are declared or assigned to.
-/

namespace ScriptBridge.Script

namespace Proc

/-- The state of an iteration that a pattern goes through. -/
structure Walk where
  iterator : Value
  next : Value
  /-- Whether the iteration came to its end, or failed by itself. -/
  isOver : Bool := false

/-- The next value of an iteration: `undefined` when it is over. -/
def Walk.step (walk : Walk) : Proc (Value × Walk) := do
  if walk.isOver then return (.undefined, walk)
  match ← iterate walk.iterator walk.next with
  | some v => return (v, walk)
  | none => return (.undefined, { walk with isOver := true })

/-- Runs something in the middle of an iteration, which is ended early if that fails. -/
def Walk.guard (walk : Walk) {α : Type} (p : Proc α) : Proc α :=
  onThrow p fun e => do
    unless walk.isOver do abandonIterator walk.iterator e
    throwValue e

/-- Where a part of a pattern goes, if that is found out before the part is read: the target of an
assignment that is more than a name. -/
def partPlace? (mode : BindMode) (env : Env) (p : Pattern) : Proc (Option Place) := do
  let target? : Option Expr := match p with
    | .target e | .withDefault (.target e) _ => some e
    | _ => none
  match mode, target? with
  | .create, _ | _, none => return none
  | .assign, some (.ident _) => return none
  | .assign, some e => return some (← evalPlace env e)

/-- The value that a part of a pattern gets: its own, or a default. -/
def orDefault (v : Value) (env : Env) : Pattern → Proc Value
  | .withDefault p e =>
    match v with
    | .undefined =>
      match p with
      | .target t => evalAssigned t e env
      | _ => eval e env
    | v => pure v
  | _ => pure v

/-- Binds a part of a pattern whose place was found. -/
def bindPart (p : Pattern) (place : Option Place) (v : Value) (mode : BindMode) (env : Env) :
    Proc Unit := do
  match place with
  | some place => writePlace env (← orDefault v env p) place
  | none => bindPattern p v mode env

/-- Binds the items of an array pattern. -/
def bindItems (mode : BindMode) (env : Env) : List (Option Pattern) → Walk → Proc Walk
  | [], walk => pure walk
  | none :: rest, walk => do
    let (_, walk) ← walk.step
    bindItems mode env rest walk
  | some p :: rest, walk => do
    let place ← walk.guard (partPlace? mode env p)
    let (v, walk) ← walk.step
    walk.guard (bindPart p place v mode env)
    bindItems mode env rest walk

/-- Binds the rest of an array pattern. -/
def bindRest (mode : BindMode) (env : Env) (p : Pattern) (walk : Walk) : Proc Unit := do
  let place ← walk.guard (partPlace? mode env p)
  let values ← if walk.isOver then pure [] else do
    match ← ask (.collect walk.iterator walk.next []) with
    | .values vs => pure vs
    | _ => pure []
  bindPart p place (← arrayOf values) mode env

/-- Binds the fields of an object pattern; the result is the keys that were read. -/
def bindFields (r : Ref) (mode : BindMode) (env : Env) :
    List (PropName × Pattern) → List Key → Proc (List Key)
  | [], keys => pure keys
  | (key, p) :: rest, keys => do
    let k ← evalKey env key
    let place ← partPlace? mode env p
    bindPart p place (← getOf r k) mode env
    bindFields r mode env rest (keys ++ [k])

/-- Binds a pattern to a value. -/
def bindOne (v : Value) (mode : BindMode) (env : Env) : Pattern → Proc Unit
  | .target (.ident name) =>
    match mode with
    | .create => initializeVar name v env
    | .assign => assignVar name v env
  | .target e => do writePlace env v (← evalPlace env e)
  | .withDefault p e => do bindPattern p (← orDefault v env (.withDefault p e)) mode env
  | .array items rest => do
    let (iterator, next) ← iteratorOf v
    let walk ← bindItems mode env items { iterator, next }
    match rest with
    | none => unless walk.isOver do closeIterator iterator
    | some p => bindRest mode env p walk
  | .object fields rest => do
    let r ← toObject v
    let keys ← bindFields r mode env fields []
    if let some p := rest then
      let place ← partPlace? mode env p
      let copy ← allocPlain
      copyProperties copy (.object r) keys
      bindPart p place (.object copy) mode env

end Proc

end ScriptBridge.Script
