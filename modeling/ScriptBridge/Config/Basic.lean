import ScriptBridge.Config.Toml
import ScriptBridge.Error
import ScriptBridge.Text.Letters

/-!
# Configuration

A bridge is configured by four settings.  They come from a TOML document, where missing keys keep
their defaults and unknown keys are passed over, and from environment variables, which are applied
in a fixed order and keep the settings made before one fails.
-/

namespace ScriptBridge

/-- Where `print` writes. -/
inductive PrintTarget
  /-- Standard output, one line a call. -/
  | stdout
  /-- The log. -/
  | log
  /-- A buffer that the host empties. -/
  | buffer
  /-- Nowhere. -/
  | discard
deriving DecidableEq, Repr

namespace PrintTarget

/-- The word for a target. -/
def text : PrintTarget → String
  | stdout => "stdout"
  | log => "log"
  | buffer => "buffer"
  | discard => "discard"

/-- The target with exactly this word. -/
def ofText? (s : String) : Option PrintTarget :=
  [stdout, log, buffer, discard].find? fun t => t.text == s

/-- The target that a person means: blanks around the word and the case of ASCII letters do not
matter, and `none` stands for `discard`. -/
def read (s : String) : Except BridgeError PrintTarget :=
  let word := Text.lowerAscii (Text.trim s)
  match if word = "none" then some discard else ofText? word with
  | some t => .ok t
  | none => .error (.invalidArgument (.unknownPrintTarget word))

end PrintTarget

/-- The settings of a bridge. -/
structure BridgeConfig where
  /-- The global name of the object that holds the host functions. -/
  hostNamespace : String := "env"
  /-- The name of the entry point for async calls on that object. -/
  asyncEntry : String := "callHostAsync"
  /-- The file name of sources that come without one. -/
  defaultFilename : String := "<evalsource>"
  /-- Where `print` writes. -/
  print : PrintTarget := .stdout
deriving DecidableEq, Repr

namespace BridgeConfig

/-- Refuses names that cannot be installed. -/
def validate (c : BridgeConfig) : Except BridgeError Unit :=
  if c.hostNamespace.isEmpty then .error (.invalidArgument .emptyNamespace)
  else if c.asyncEntry.isEmpty then .error (.invalidArgument .emptyAsyncEntry)
  else if c.hostNamespace = c.asyncEntry then .error (.invalidArgument .clashingNames)
  else .ok ()

/-- The print target that a value of a document names: a text, or a table whose first key is the
word and whose value under it is empty. -/
def printOfToml : Toml → Except ConfigFault PrintTarget
  | .text s => word s
  | .table form entries =>
    match entries with
    | [] => .error .badVariant
    | (key, inner) :: more =>
      if form = .closed ∧ more ≠ [] then .error .badVariant
      else do
        let target ← word key
        match inner with
        | .list [] | .rows [] | .table _ [] => .ok target
        | _ => .error .badVariant
  | _ => .error .badVariant
where
  word (s : String) : Except ConfigFault PrintTarget :=
    match PrintTarget.ofText? s with
    | some t => .ok t
    | none => .error (.unknownVariant s)

/-- The text that a value of a document is. -/
def textOfToml : Toml → Except ConfigFault String
  | .text s => .ok s
  | v => .error (.wrongType v.describe)

/-- The settings with one entry of a document applied. -/
def applyEntry (c : BridgeConfig) (entry : String × Toml) : Except ConfigFault BridgeConfig :=
  match entry.1 with
  | "namespace" => (textOfToml entry.2).map fun s => { c with hostNamespace := s }
  | "async_entry" => (textOfToml entry.2).map fun s => { c with asyncEntry := s }
  | "default_filename" => (textOfToml entry.2).map fun s => { c with defaultFilename := s }
  | "print" => (printOfToml entry.2).map fun t => { c with print := t }
  | _ => .ok c

/-- The settings of the document that was found at `path`. -/
def ofDocument (path text : String) : Except BridgeError BridgeConfig := do
  let entries ←
    match Toml.read text with
    | some entries => .ok entries
    | none => .error (.config path .malformed)
  let config ←
    match entries.foldlM applyEntry {} with
    | .ok c => .ok c
    | .error fault => .error (.config path fault)
  config.validate
  return config

/-- The settings of a document that comes from no file. -/
def ofToml (text : String) : Except BridgeError BridgeConfig := ofDocument "<inline>" text

/-- Applies the settings of an environment: the settings afterwards, and the error if one was
refused. -/
def applyEnv (c : BridgeConfig) (var : String → Option String) :
    BridgeConfig × Except BridgeError Unit :=
  let c := { c with hostNamespace := (var "QJSBRIDGE_NAMESPACE").getD c.hostNamespace }
  let c := { c with asyncEntry := (var "QJSBRIDGE_ASYNC_ENTRY").getD c.asyncEntry }
  let c := { c with defaultFilename := (var "QJSBRIDGE_DEFAULT_FILENAME").getD c.defaultFilename }
  match var "QJSBRIDGE_PRINT" with
  | none => (c, c.validate)
  | some s =>
    match PrintTarget.read s with
    | .error e => (c, .error e)
    | .ok t =>
      let c := { c with print := t }
      (c, c.validate)

/-- The defaults with the settings of an environment. -/
def ofEnv (var : String → Option String) : Except BridgeError BridgeConfig :=
  let (c, outcome) := applyEnv {} var
  outcome.map fun _ => c

end BridgeConfig

end ScriptBridge
