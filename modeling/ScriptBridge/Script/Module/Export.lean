import ScriptBridge.Script.Heap

/-!
# Exports

What a name that a module exports stands for: a variable of some module, or the namespace of one.
Exports are followed through the modules that pass them on; `Linkage` is what comes of that, and
`namespaceFault?` is why a namespace cannot be made of it.
-/

namespace ScriptBridge.Script

/-- What an exported name stands for. -/
inductive Linkage
  | variable (module : Nat) (name : String)
  | whole (module : Nat)
  | missing
  | circular
  | ambiguous
deriving DecidableEq

namespace ModuleTable

/-- The module of a number. -/
def record (t : ModuleTable) (id : Nat) : ModuleRecord := t.records.getD id default

/-- The module that another asks for at a place. -/
def request? (t : ModuleTable) (id place : Nat) : Option Nat :=
  ((t.record id).requested.getD [])[place]?

/-- What one of several modules that are passed on as a whole has under a name. -/
def merge : Linkage → Linkage → Linkage
  | .missing, b => b
  | .circular, b => b
  | a, .missing => a
  | a, .circular => a
  | a, b => if a = b then a else .ambiguous

/-- What a module exports under a name.  `seen` are the names that are being looked for, and `fuel`
bounds their number. -/
def linkage (t : ModuleTable) : Nat → List (Nat × Str) → Nat → Str → Linkage
  | 0, _, _, _ => .circular
  | fuel + 1, seen, id, name =>
    if seen.contains (id, name) then .circular
    else
      let m := t.record id
      let seen := (id, name) :: seen
      let follow (place : Nat) : ImportName → Linkage
        | .named n =>
          match t.request? id place with
          | some target => linkage t fuel seen target n
          | none => .missing
        | .all => ((t.request? id place).map Linkage.whole).getD .missing
      let direct := m.program.exports.findSome? fun e =>
        match e with
        | .own exported name' => if exported == name then
            match m.program.imports.find? fun i => i.name == name' with
            | some i => some (follow i.source i.imported)
            | none => some (.variable id name')
          else none
        | .passed exported place imported =>
          if exported == name then some (follow place imported) else none
        | .star _ => none
      match direct with
      | some l => l
      | none =>
        if name == Str.ofString "default" then .missing
        else
          let found := m.program.exports.map fun e =>
            match e with
            | .star place => match t.request? id place with
              | some target => linkage t fuel seen target name
              | none => .missing
            | _ => .missing
          found.foldl merge .missing

/-- A bound on the number of names that a search for an export comes past. -/
def linkageFuel (t : ModuleTable) : Nat :=
  let entries :=
    t.records.foldl (fun n m => n + m.program.exports.length + m.program.imports.length) 1
  entries * (t.records.size + 1) + 1

/-- What a module exports under a name. -/
def exportOf (t : ModuleTable) (id : Nat) (name : Str) : Linkage :=
  t.linkage t.linkageFuel [] id name

/-- The names that a module exports; `seen` are the modules whose names are being listed. -/
def exportNames (t : ModuleTable) : Nat → List Nat → Nat → List Str
  | 0, _, _ => []
  | fuel + 1, seen, id =>
    if seen.contains id then []
    else
      (t.record id).program.exports.foldl (fun names e =>
        let more := match e with
          | .own exported _ => [exported]
          | .passed exported _ _ => [exported]
          | .star place =>
            match t.request? id place with
            | some target =>
              (exportNames t fuel (id :: seen) target).filter fun n => n != Str.ofString "default"
            | none => []
        names ++ more.filter fun n => !names.contains n) []

/-- The names that the namespace of a module shows, in their order. -/
def shownNames (t : ModuleTable) (id : Nat) : List Str :=
  (t.exportNames (t.records.size + 1) [] id).mergeSort fun a b => !b.less a

/-- Why an export cannot be had. -/
def exportFault (l : Linkage) (name : Str) (module : String) : ModuleFault :=
  let shown := name.toStringLossy
  ⟨.syntaxError, match l with
    | .circular => s!"circular reference when looking for export '{shown}' in module '{module}'"
    | .ambiguous => s!"export '{shown}' in module '{module}' is ambiguous"
    | _ => s!"Could not find export '{shown}' in module '{module}'"⟩

/-- Looks for what keeps the namespace of a module, and those that it shows, from being made.
`seen` are the modules that were looked at, and `fuel` bounds how deep they lie in each other. -/
def namespaceFaultFrom (t : ModuleTable) :
    Nat → List Nat × Option ModuleFault → Nat → List Nat × Option ModuleFault
  | 0, found, _ => found
  | fuel + 1, (seen, fault), id =>
    if fault.isSome || seen.contains id then (seen, fault)
    else
      (t.shownNames id).foldl (fun found name =>
        match found.2, t.exportOf id name with
        | some _, _ | none, .variable .. | none, .ambiguous => found
        | none, .whole target => namespaceFaultFrom t fuel found target
        | none, l => (found.1, some (exportFault l name (t.record id).name))) (id :: seen, none)

/-- Why the namespace of a module cannot be made, if it cannot. -/
def namespaceFault? (t : ModuleTable) (id : Nat) : Option ModuleFault :=
  (t.namespaceFaultFrom (t.records.size + 1) ([], none) id).2

end ModuleTable

end ScriptBridge.Script
