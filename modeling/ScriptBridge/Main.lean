import ScriptBridge.CommandLine.Program

/-!
# The program

Reads the arguments, the environment, the files and the input for `Outcome.ofArgs`, and writes what
it says.
-/

namespace ScriptBridge.Main

open CommandLine

/-- The reason why a file could not be used. -/
def reasonOf : IO.Error → String
  | .noFileOrDirectory .. => "No such file or directory (os error 2)"
  | .permissionDenied .. => "Permission denied (os error 13)"
  | .inappropriateType .. => "Is a directory (os error 21)"
  | e => toString e

/-- Reads a file, or says why not. -/
def readFile (path : String) : IO (Except String (List UInt8)) := do
  try
    return .ok (← IO.FS.readBinFile path).data.toList
  catch e =>
    return .error (reasonOf e)

/-- Reads the given files. -/
def readFiles (paths : List String) : IO FileReader := do
  let found ← paths.mapM fun p => do return (p, ← readFile p)
  return fun path => (found.lookup path).getD (.error "No such file or directory (os error 2)")

/-- Writes lines to where they belong. -/
def writeLines (lines : List OutputLine) : IO Unit := do
  let out ← IO.getStdout
  let err ← IO.getStderr
  for line in lines do
    match line with
    | .out text => out.putStr (text ++ "\n")
    | .err text => err.putStr (text ++ "\n")
  out.flush

/-- The variables of the environment that the program looks at. -/
def environmentNames : List String :=
  ["QJSBRIDGE_NAMESPACE", "QJSBRIDGE_ASYNC_ENTRY", "QJSBRIDGE_DEFAULT_FILENAME", "QJSBRIDGE_PRINT"]

/-- Feeds the input to a session, line by line. -/
partial def converse (repl : Repl) : IO Unit := do
  let (lines, repl) := repl.takeLines
  writeLines lines
  let line ← (← IO.getStdin).getLine
  if line.isEmpty then
    writeLines repl.finish.takeLines.1
  else
    let read ← readFiles (repl.input? line).toList
    let (goesOn, repl) := repl.feed read line
    if goesOn then converse repl else writeLines repl.takeLines.1

/-- Runs the program: its code. -/
def run (args : List String) : IO UInt32 := do
  let inputs := match Request.read args with
    | .ok r => r.inputs
    | .error _ => []
  let read ← readFiles inputs
  let environment ← environmentNames.mapM fun name => do return (name, ← IO.getEnv name)
  match Outcome.ofArgs args (fun name => (environment.lookup name).join) read with
  | .finished lines code =>
    writeLines lines
    return code.toUInt32
  | .saving path content after =>
    let written : Except String Unit ←
      try
        IO.FS.writeBinFile path ⟨content.toArray⟩
        pure (.ok ())
      catch e => pure (.error (reasonOf e))
    let (lines, code) := after written
    writeLines lines
    return code.toUInt32
  | .session repl =>
    converse repl
    return 0

end ScriptBridge.Main

/-- The program. -/
def main (args : List String) : IO UInt32 := ScriptBridge.Main.run args
