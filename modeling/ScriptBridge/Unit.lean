import ScriptBridge.Script.Module.Table
import ScriptBridge.Script.Property

/-!
# Compiled units

A unit is a source text that was checked and is ready to run.  Module units are known by their
canonical names.  `CompiledUnit.serialize` and `CompiledUnit.deserialize` carry units as blobs.
-/

namespace ScriptBridge

open Script

/-- A unit that was compiled and has not run. -/
structure CompiledUnit where
  /-- The name of the file; of a module, the name it is known by. -/
  name : String
  kind : UnitKind
  payload : List UInt8
deriving DecidableEq, Repr

/-- Refuses names and texts that the engine cannot take: they end at a NUL. -/
def checkSource (filename source : String) : Except BridgeError Unit := do
  if 65535 < filename.utf8ByteSize then throw (.invalidArgument .longFilename)
  if filename.toList.contains '\x00' then throw (.invalidArgument .nulInFilename)
  if source.toList.contains '\x00' then throw (.compile filename "source contains a NUL byte")

/-- The text of the exception for a source text that is no program. -/
def syntaxMessage (f : SyntaxFault) : String := s!"SyntaxError: {cutMessage f.message}"

/-- The text of the exception for a module that cannot be had. -/
def Script.ModuleFault.text (f : ModuleFault) : String :=
  s!"{f.type.name}: {cutMessage f.message}"

namespace CompiledUnit

/-- Compiles a source text without running it.  What a module asks for is not looked up, but each
specifier in it has to have a text. -/
def compile (filename source : String) (kind : UnitKind) : Except BridgeError CompiledUnit := do
  let name := match kind with
    | .script => filename
    | .module => ModuleName.canonical filename
  checkSource name source
  match parse (kind = .module) source with
  | .error f => throw (.compile filename (syntaxMessage f))
  | .ok program =>
    match kind, program.specifiers with
    | .module, .error f => throw (.compile filename f.text)
    | _, _ => return ⟨name, kind, Payload.encode ⟨kind, name, source⟩⟩

/-- The blob of a unit. -/
def serialize (u : CompiledUnit) : List UInt8 := Envelope.encode u.kind u.name u.payload

/-- The unit in a blob. -/
def deserialize (blob : List UInt8) : Except BridgeError CompiledUnit :=
  match Envelope.decode blob with
  | .ok (header, payload) => .ok ⟨header.name, header.kind, payload⟩
  | .error f => .error (.deserialize f)

/-- What a blob says of its unit. -/
def inspect (blob : List UInt8) : Except BridgeError UnitHeader :=
  match Envelope.decode blob with
  | .ok (header, _) => .ok header
  | .error f => .error (.deserialize f)

end CompiledUnit

end ScriptBridge
