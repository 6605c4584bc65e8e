import ScriptBridge.Script.Module.Table
import ScriptBridge.Script.Value
import ScriptBridge.Unit

/-!
# The modules of a bridge

What a bridge knows of modules: the table that it shares with the engine, the namespaces of those
that were loaded, and the promises of those that it ran.  A module is *declared* when one of these,
or an import, has brought it in.  `checkLinkable` finds a missing import before the engine sees a
module.
-/

namespace ScriptBridge

open Script

/-- The modules of one bridge. -/
structure ModuleRegistry where
  /-- The modules of the engine, and the payloads that imports can be served from. -/
  table : ModuleTable := {}
  /-- The namespaces of loaded modules. -/
  namespaces : List (String × Value) := []
  /-- The promises for the modules that the bridge ran. -/
  evaluations : List (String × Value) := []
deriving Inhabited

/-- The failure of a module. -/
def moduleError (name : String) (stage : ModuleStage) (reason : String) : BridgeError :=
  .module name stage reason

/-- Puts a name into a list of names in their order, each once. -/
def insertName (name : String) : List String → List String
  | [] => [name]
  | n :: rest =>
    if name < n then name :: n :: rest else if name = n then n :: rest
    else n :: insertName name rest

/-- The names that the static imports of a module resolve to, in order.  Fails if the payload is
not that of a module with the name, or if something that it asks for has no text. -/
def staticImports (name : String) (payload : List UInt8) : Except BridgeError (List String) :=
  match readModule payload with
  | .error f => .error (moduleError name .nameExtraction f.text)
  | .ok (recordName, program) =>
    if recordName ≠ name then
      .error (moduleError name .nameExtraction s!"module record is named '{recordName}'")
    else
      match program.specifiers with
      | .error f => .error (moduleError name .resolution f.text)
      | .ok specifiers =>
        let names := specifiers.map (ModuleName.resolve name)
        .ok ((names.filter (· ≠ name)).foldl (fun acc n => insertName n acc) [])

namespace ModuleRegistry

/-- Keeps a payload under a name. -/
def keep (r : ModuleRegistry) (name : String) (payload : List UInt8) : ModuleRegistry :=
  { r with table := r.table.keep name payload }

/-- Whether a module of that name was brought in. -/
def isDeclared (r : ModuleRegistry) (name : String) : Bool :=
  (r.namespaces.lookup name).isSome || (r.evaluations.lookup name).isSome
    || r.table.imported.contains name

/-- The names of the modules that were loaded, in order. -/
def names (r : ModuleRegistry) : List String :=
  (r.namespaces.map (·.1) ++ r.evaluations.map (·.1) ++ r.table.imported).foldl
    (fun acc n => insertName n acc) []

/-- What `importer` asks for and has yet to be checked: the payloads, the last one first, behind
those in `work`. -/
def checkImports (r : ModuleRegistry) (name importer : String) :
    List String → List String → List (String × List UInt8) →
    Except BridgeError (List String × List (String × List UInt8))
  | [], seen, work => .ok (seen, work)
  | i :: rest, seen, work =>
    if r.isDeclared i || seen.contains i then checkImports r name importer rest seen work
    else
      match r.table.store.lookup i with
      | none => .error (moduleError name .resolution
          s!"'{importer}' imports '{i}', which is neither loaded nor registered")
      | some payload => checkImports r name importer rest (i :: seen) ((i, payload) :: work)

/-- Checks the modules in `work`, and what they ask for; each stored module is checked at most
once, so `fuel` need not be larger than their number. -/
def checkAll (r : ModuleRegistry) (name : String) :
    Nat → List String → List (String × List UInt8) → Except BridgeError Unit
  | _, _, [] => .ok ()
  | 0, _, _ :: _ => .ok ()
  | fuel + 1, seen, (importer, payload) :: work => do
    let imports ← staticImports importer payload
    let (seen, work) ← r.checkImports name importer imports seen work
    checkAll r name fuel seen work

/-- Checks that a module and all that it imports can be linked: what it imports is declared, or is
stored and can be linked itself. -/
def checkLinkable (r : ModuleRegistry) (name : String) (payload : List UInt8) :
    Except BridgeError Unit :=
  r.checkAll name (r.table.store.length + 1) [name] [(name, payload)]

end ModuleRegistry

end ScriptBridge
