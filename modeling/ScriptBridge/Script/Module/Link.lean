import ScriptBridge.Script.Eval.Closure
import ScriptBridge.Script.Module.Table

/-!
# Namespaces and the variables of modules

Once modules are linked, the names that they import are bound to what other modules export, and
namespaces show what a module exports.
-/

namespace ScriptBridge.Script

namespace Proc

/-- Throws the error for a module that cannot be had. -/
def throwFault {α : Type} (f : ModuleFault) : Proc α := throwNew f.type f.message

/-- Asks for modules by their numbers. -/
def askModules (c : ModuleCall) : Proc (List Nat) := do
  match ← ask (.host (.modules c)) with
  | .found (.ok ids) => return ids
  | .found (.error f) => throwFault f
  | _ => return []

/-! ### Namespaces -/

/-- The namespaces of modules that are exported as a whole are made on the way; `fuel` bounds how
deep they lie in each other. -/
def namespaceFrom (t : ModuleTable) : Nat → Nat → Proc Value
  | 0, _ => pure .undefined
  | fuel + 1, id => do
    match (← moduleState id).namespaceObject with
    | some r => return .object r
    | none =>
      let r ← alloc {
        kind := .namespace id [], proto := none, extensible := false
        props := #[(.symbol Symbols.toStringTag, .fixed (.ofString "Module"))] }
      modifyModule id fun m => { m with namespaceObject := some r }
      let mut found : List (Str × ScopeRef × String) := []
      for name in t.shownNames id do
        match t.exportOf id name with
        | .variable target n => found := found ++ [(name, (← moduleState target).scope, n)]
        | .whole target =>
          let v ← namespaceFrom t fuel target
          let scope ← allocScope {
            vars := [{ name := "*namespace*", value := some v }], parent := none }
          found := found ++ [(name, scope, "*namespace*")]
        | _ => pure ()
      setKind r (.namespace id found)
      return .object r

/-- The namespace of a module. -/
def namespaceOf (t : ModuleTable) (id : Nat) : Proc Value :=
  namespaceFrom t (t.records.size + 1) id

/-! ### Variables -/

/-- The variable that an import makes. -/
def importBinding (t : ModuleTable) (id : Nat) (i : ImportEntry) : Proc Binding := do
  let whole (target : Nat) : Proc Binding := do
    return { name := i.name, value := some (← namespaceOf t target), isConst := true }
  let target := (t.request? id i.source).getD id
  match i.imported with
  | .all => whole target
  | .named n =>
    match t.exportOf target n with
    | .variable m name => return { name := i.name, value := none, isConst := true,
                                   link := some ((← moduleState m).scope, name) }
    | .whole m => whole m
    | _ => return { name := i.name, value := none, isConst := true }

/-- Where the body of a module runs. -/
def moduleEnv (m : ModuleRecord) (s : ModuleState) : Env := ⟨s.scope, m.name, true, s.programNumber⟩

/-- Makes the scope of a module. -/
def makeModuleScope (id : Nat) : Proc Unit := do
  let scope ← allocScope {
    parent := some Intrinsic.globalScope
    activation := some { this := some .undefined, func := none, newTarget := .undefined,
                         home := none, args := [] }
    holdsVars := true }
  let programNumber ← newProgram
  modifyModule id fun s => { s with scope, programNumber }

/-- Makes the variables of a module. -/
def makeModuleVars (t : ModuleTable) (id : Nat) : Proc Unit := do
  let m := t.record id
  let s ← moduleState id
  let imports ← m.program.imports.mapM (importBinding t id)
  declare s.scope imports
  declare s.scope (m.program.vars.map fun name => { name, value := some .undefined })
  declare s.scope (lexicalBindings (lexicalNames m.program.body))
  declare s.scope [{ name := Parser.defaultName, value := none }]
  hoistFunctions (moduleEnv m s) m.program.body

/-- Makes the scopes and the variables of modules that were linked. -/
def instantiate (order : List Nat) : Proc Unit := do
  let t ← moduleTable
  for id in order do
    makeModuleScope id
  for id in order do
    makeModuleVars t id

end Proc

end ScriptBridge.Script
