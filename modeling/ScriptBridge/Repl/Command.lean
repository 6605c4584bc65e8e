import ScriptBridge.Text.Hex
import ScriptBridge.Text.Letters

/-!
# Commands of the interactive session

A line that starts with a dot is a command: a name, in any case, and perhaps an argument behind a
blank.  `CallArgs.read` takes the argument of the commands that settle a call apart into the id of
the call and the rest; it reads back what `callIdText` writes.
-/

namespace ScriptBridge

/-- How the id of an async call is shown. -/
def callIdText (id : Nat) : String := s!"call-{id}"

/-- The commands. -/
inductive ReplCommand
  | help | exit | load | pending | resolve | reject | modules
deriving DecidableEq, Repr

namespace ReplCommand

/-- The command that a name in small letters stands for. -/
def ofName? : String → Option ReplCommand
  | "help" | "h" | "?" => some help
  | "exit" | "quit" | "q" => some exit
  | "load" | "l" => some load
  | "pending" | "p" => some pending
  | "resolve" => some resolve
  | "reject" => some reject
  | "modules" | "m" => some modules
  | _ => none

/-- The command that a line gives, and its argument.  No letter beyond ASCII has a small form that
occurs in a name, so the names need only ASCII case mapping. -/
def read (line : String) : Option (ReplCommand × Option String) := do
  let rest ← Text.dropStart? "." (Text.trim line)
  let (name, arg) :=
    match Text.splitBlank rest with
    | some (name, arg) => (name, if (Text.trim arg).isEmpty then none else some (Text.trim arg))
    | none => (rest, none)
  let command ← ofName? (Text.lowerAscii name)
  pure (command, arg)

/-- How each command is used, and what it does. -/
def all : List (String × String) := [
  (".help", "Show this help message"),
  (".exit", "Exit the REPL"),
  (".load <file>", "Run a source file (.mjs as a module) or a bytecode blob"),
  (".pending", "List async host calls waiting to be settled"),
  (".resolve <id> [json]", "Resolve an async host call"),
  (".reject <id> <message>", "Reject an async host call"),
  (".modules", "List loaded modules")]

/-- The names of the commands, with their dots. -/
def names : List String :=
  all.map fun c => String.ofList (c.1.toList.takeWhile fun ch => !Text.isBlank ch)

end ReplCommand

/-- Why the argument of a command names no call. -/
inductive CallArgsFault
  | missing
  | notAnId (found : String)
deriving DecidableEq, Repr

/-- The wording of a fault. -/
def CallArgsFault.message : CallArgsFault → String
  | .missing => "expected a call id"
  | .notAnId found => s!"'{found}' is not a call id"

/-- The id of a call and what follows it. -/
structure CallArgs where
  id : Nat
  rest : String
deriving DecidableEq, Repr

namespace CallArgs

/-- The number that decimal digits write; nothing without digits. -/
def digits? (cs : List Char) : Option Nat :=
  if cs.isEmpty || !cs.all Char.isDigit then none
  else some (cs.foldl (fun acc c => acc * 10 + (c.toNat - 48)) 0)

/-- The number below 2^64 that a text writes, perhaps behind a plus sign. -/
def word? (s : String) : Option Nat := do
  let n ← digits? ((Text.dropStart? "+" s).getD s).toList
  if n < 2 ^ 64 then some n else none

/-- Reads the argument of a command that settles a call. -/
def read : Option String → Except CallArgsFault CallArgs
  | none => .error .missing
  | some arg =>
    let (first, rest) := (Text.splitBlank arg).getD (arg, "")
    let first := (Text.dropStart? "call-" first).getD first
    match word? first with
    | some id => .ok ⟨id, Text.trim rest⟩
    | none => .error (.notAnId first)

end CallArgs

end ScriptBridge
