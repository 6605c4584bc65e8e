import ScriptBridge.Error
import ScriptBridge.Module.Name
import ScriptBridge.Script.Module.Export
import ScriptBridge.Script.Parser.Statement
import ScriptBridge.Script.Payload
import ScriptBridge.Script.Proc

/-!
# The table of modules

Modules are found by name: among those that the engine knows, and else in the store, which has
payloads.  What a module asks for is found when it is resolved; linking checks that all that is
imported is exported; and the body of a linked module is started once.  No script runs meanwhile,
so all this is a program on the table alone, in `Loading`.
-/

namespace ScriptBridge.Script

/-- A program on the table of modules.  A failure keeps the changes before it. -/
abbrev Loading := ExceptT ModuleFault (StateM ModuleTable)

/-- The module that a payload holds: its name and its program. -/
def readModule (payload : List UInt8) : Except ModuleFault (String × Program) :=
  match Payload.decode? payload with
  | none => .error ⟨.syntaxError, "invalid bytecode version"⟩
  | some p =>
    if p.kind = .script then .error ⟨.typeError, "bytecode is not a module"⟩
    else
      match parse true p.source with
      | .error f => .error ⟨.syntaxError, f.message⟩
      | .ok program => .ok (p.name, program)

/-- The text of a specifier, which stops at a NUL. -/
def specifierText (s : Str) : Except ModuleFault String :=
  match s.beforeNul.toString? with
  | .ok t => .ok t
  | .error offset => .error ⟨.typeError, (EngineFault.loneSurrogate offset).message⟩

/-- The texts of what a module asks for, in order.  The first specifier without a text is the
fault. -/
def Program.specifiers (p : Program) : Except ModuleFault (List String) :=
  p.requests.mapM specifierText

namespace ModuleRecord

/-- Gives a module up, unless it is linked. -/
def abandon (m : ModuleRecord) (f : ModuleFault) : ModuleRecord :=
  if m.isLinked then m else { m with fault := m.fault.or (some f) }

/-- Gives a module up and frees its name, unless it is linked. -/
def drop (m : ModuleRecord) (f : ModuleFault) : ModuleRecord :=
  if m.isLinked then m else { m.abandon f with isDropped := true }

end ModuleRecord

namespace ModuleTable

/-- The first module of a name. -/
def named? (t : ModuleTable) (name : String) : Option Nat :=
  t.records.findIdx? fun m => !m.isDropped && m.name == name

/-- Changes a module. -/
def modifyRecord (t : ModuleTable) (id : Nat) (f : ModuleRecord → ModuleRecord) : ModuleTable :=
  { t with records := t.records.modify id f }

/-- Keeps a payload under a name. -/
def keep (t : ModuleTable) (name : String) (payload : List UInt8) : ModuleTable :=
  { t with store := (name, payload) :: t.store.filter fun e => e.1 ≠ name }

/-- Whether the body of a module may start now, and the table after it did. -/
def start (t : ModuleTable) (id : Nat) : Bool × ModuleTable :=
  if (t.record id).isLinked && !t.started.contains id then
    (true, { t with started := id :: t.started })
  else (false, t)

/-- The modules that are not linked yet, those that are asked for before those that ask; `fuel`
bounds how long a chain of them is. -/
def linkOrder (t : ModuleTable) : Nat → List Nat × List Nat → Nat → List Nat × List Nat
  | 0, acc, _ => acc
  | fuel + 1, (seen, order), id =>
    let m := t.record id
    if seen.contains id || m.isLinked then (seen, order)
    else
      let (seen, order) := (m.requested.getD []).foldl (linkOrder t fuel) (id :: seen, order)
      (seen, order ++ [id])

/-- Why a module cannot import what it asks for, if it cannot. -/
def importFault? (t : ModuleTable) (id : Nat) (i : ImportEntry) : Option ModuleFault :=
  match t.request? id i.source with
  | none => some ⟨.syntaxError, s!"module '{(t.record id).name}' is incomplete"⟩
  | some target =>
    match i.imported with
    | .all => t.namespaceFault? target
    | .named n =>
      match t.exportOf target n with
      | .variable .. => none
      | .whole whole => t.namespaceFault? whole
      | l => some (exportFault l n (t.record target).name)

/-- Why a module cannot pass on what it exports, if it cannot. -/
def passFault? (t : ModuleTable) (id : Nat) : ExportEntry → Option ModuleFault
  | .passed exported _ (.named _) =>
    match t.exportOf id exported with
    | .variable .. | .whole _ => none
    | l => some (exportFault l exported (t.record id).name)
  | _ => none

/-- Why a module cannot be linked, if it cannot. -/
def linkFault? (t : ModuleTable) (id : Nat) : Option ModuleFault :=
  let m := t.record id
  m.fault.or <| (m.program.exports.findSome? (t.passFault? id)).or <|
    m.program.imports.findSome? (t.importFault? id)

end ModuleTable

namespace Loading

/-- Adds a module. -/
def add (name : String) (program : Program) : Loading Nat :=
  modifyGet fun t => (t.records.size, { t with records := t.records.push { name, program } })

/-- Reads a payload as a module, and adds it. -/
def read (payload : List UInt8) : Loading Nat := do
  let (name, program) ← MonadExcept.ofExcept (readModule payload)
  add name program

/-- The module of a name, which the store may have. -/
def find (name : String) : Loading Nat := do
  let t ← get
  match t.named? name, t.store.lookup name with
  | some id, _ => return id
  | none, some payload =>
    let id ← read payload
    modify fun t => { t with imported := name :: t.imported }
    return id
  | none, none =>
    throw ⟨.referenceError,
      s!"Error loading module '{name}': no module registered under this name"⟩

/-- Finds a module that another asks for. -/
def request (id : Nat) (s : Str) : Loading Nat := do
  let base := ((← get).record id).name
  let target ← find (ModuleName.resolve base (← MonadExcept.ofExcept (specifierText s)))
  modify fun t => t.modifyRecord id fun m =>
    { m with requested := some (m.requested.getD [] ++ [target]) }
  return target

/-- Finds what a module asks for, and goes on with each that is found. -/
def requestAll (below : Nat → Loading Unit) (id : Nat) : List Str → Loading Unit
  | [] => return ()
  | s :: rest => do
    below (← request id s)
    requestAll below id rest

/-- Finds the modules that a module asks for, and those that they ask for; `fuel` bounds how long a
chain of them is. -/
def resolveFrom : Nat → Nat → Loading Unit
  | 0, _ => throw ⟨.internalError, "stack overflow"⟩
  | fuel + 1, id => do
    let m := (← get).record id
    if m.requested.isNone then
      modify fun t => t.modifyRecord id fun m => { m with requested := some [] }
      requestAll (resolveFrom fuel) id m.program.requests

/-- Finds all that a module asks for.  If something is missing, the modules that were never asked
to find their imports are dropped. -/
def resolve (id : Nat) : Loading Unit := do
  let t ← get
  tryCatch (resolveFrom (t.records.size + t.store.length + 1) id) fun f => do
    modify fun t => { t with records := t.records.map fun m =>
      if m.requested.isNone then m.drop f else m }
    throw f

/-- Links a module and those that it asks for: those that were not linked before. -/
def link (id : Nat) : Loading (List Nat) := do
  let t ← get
  let (_, order) := t.linkOrder (t.records.size + 1) ([], []) id
  match order.findSome? t.linkFault? with
  | some f => throw f
  | none =>
    modify fun t => order.foldl (fun t m => t.modifyRecord m fun r => { r with isLinked := true }) t
    return order

/-- Gives a module up if a program on it fails. -/
def orAbandon {α : Type} (p : Loading α) (id : Nat) : Loading α :=
  tryCatch p fun f => do
    modify fun t => t.modifyRecord id (·.abandon f)
    throw f

/-- Gives a module up and frees its name if a program on it fails. -/
def orDrop {α : Type} (p : Loading α) (id : Nat) : Loading α :=
  tryCatch p fun f => do
    modify fun t => t.modifyRecord id (·.drop f)
    throw f

end Loading

namespace ModuleTable

/-- What a program on the table comes to, as a reply. -/
def found (t : ModuleTable) (p : Loading (List Nat)) : Reply × ModuleTable :=
  let (r, t) := (p.run).run t
  (.found r, t)

/-- Answers what is asked of the table. -/
def serve (t : ModuleTable) : ModuleCall → Reply × ModuleTable
  | .table => (.table t, t)
  | .find name => t.found do return [← Loading.find name]
  | .resolve id => t.found do
    Loading.resolve id
    return []
  | .link id => t.found (Loading.link id)
  | .start id =>
    let (allowed, t) := t.start id
    (.flag allowed, t)

end ModuleTable

end ScriptBridge.Script
