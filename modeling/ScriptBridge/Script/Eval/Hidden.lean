import ScriptBridge.Script.Eval.Variable

/-!
# Private members

A private member is known inside of its class only.  A field is a property under a key that no
value holds; methods and accessors are kept once, with the class, and the objects that have them
bear its mark.  A name stands for the member of the innermost class that declares it.
-/

namespace ScriptBridge.Script

/-- The private member of a name; `fuel` bounds the chain of scopes. -/
def World.hiddenMember? (w : World) (name : String) : Nat → ScopeRef → Option HiddenMember
  | 0, _ => none
  | fuel + 1, s =>
    let scope := w.scopes.getD s default
    match scope.hidden.lookup name with
    | some m => some m
    | none => scope.parent.bind (hiddenMember? w name fuel)

namespace Proc

/-- The private member of a name.  The parser makes sure that there is one. -/
def hiddenMember (name : String) (env : Env) : Proc HiddenMember := do
  let w ← world
  match w.hiddenMember? name (w.scopes.size + 1) env.scope with
  | some m => return m
  | none => throwNew .syntaxError s!"undefined private field '{Key.shown name}'"

/-- Marks an object as one that has the private methods of a class. -/
def addBrand (r : Ref) (brand : Nat) : Proc Unit := do
  if ((← object r).find? (.hidden brand)).isSome then
    throwType "private method is already present"
  modifyObject r fun o => o.put (.hidden brand) (.fixed .undefined)

/-- Gives an object a private field. -/
def addHidden (r : Ref) (id : Nat) (v : Value) : Proc Unit := do
  let k := Key.hidden id
  if ((← object r).find? k).isSome then
    throwType s!"private class field '{k.label (← world)}' already exists"
  modifyObject r fun o => o.put k (.plain v)

/-- The object that a private member is looked for in. -/
def hiddenBase (base : Value) : Proc Ref := do
  match base with
  | .object r => return r
  | _ => throwType "not an object"

/-- Refuses an object without the mark of a class. -/
def checkBrand (base : Value) (brand : Nat) : Proc Unit := do
  let r ← hiddenBase base
  unless ((← object r).find? (.hidden brand)).isSome do throwType "invalid brand on object"

/-- Fails because an object does not have a private field. -/
def noField {α : Type} (id : Nat) : Proc α := do
  throwType s!"private class field '{(Key.hidden id).label (← world)}' does not exist"

/-- Fails because a private member cannot be used that way. -/
def hiddenReadOnly {α : Type} (name : String) : Proc α :=
  throwType s!"'{Key.shown name}' is read-only"

/-- The value of a private member of an object. -/
def getHidden (base : Value) (name : String) (env : Env) : Proc Value := do
  match ← hiddenMember name env with
  | .field id =>
    match ((← object (← hiddenBase base)).find? (.hidden id)).map Property.holding with
    | some (.data v) => return v
    | _ => noField id
  | .method brand f =>
    checkBrand base brand
    return f
  | .accessor brand (some getter) _ =>
    checkBrand base brand
    call getter base []
  | .accessor _ none _ => hiddenReadOnly name

/-- Assigns to a private member of an object. -/
def setHidden (base : Value) (name : String) (v : Value) (env : Env) : Proc Unit := do
  match ← hiddenMember name env with
  | .field id =>
    let r ← hiddenBase base
    if ((← object r).find? (.hidden id)).isNone then noField id
    modifyObject r fun o => o.put (.hidden id) (.plain v)
  | .accessor brand _ (some setter) =>
    checkBrand base brand
    discard (call setter base [v])
  | .method .. | .accessor _ _ none => hiddenReadOnly name

/-- Whether an object has a private member. -/
def hasHidden (base : Value) (name : String) (env : Env) : Proc Bool := do
  match base with
  | .object r =>
    let id := match ← hiddenMember name env with
      | .field id => id
      | .method brand _ => brand
      | .accessor brand _ _ => brand
    return ((← object r).find? (.hidden id)).isSome
  | _ => throwType "invalid 'in' operand"

end Proc

end ScriptBridge.Script
