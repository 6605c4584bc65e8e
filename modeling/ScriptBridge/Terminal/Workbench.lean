import ScriptBridge.Bridge.Host
import ScriptBridge.Terminal.Style

/-!
# A bridge at work for a terminal

A `Workbench` is a bridge with the lines that were written for the person at the terminal.  What
scripts print to the standard output takes its place among the other lines.
-/

namespace ScriptBridge

/-- A line that is written to the terminal. -/
inductive OutputLine
  | out (text : String)
  /-- For the stream of errors. -/
  | err (text : String)
deriving DecidableEq, Repr

/-- A bridge, and the lines that were written. -/
structure Workbench where
  bridge : Bridge
  lines : Array OutputLine := #[]

/-- Work with a bridge and a terminal. -/
abbrev WorkM := StateM Workbench

namespace WorkM

/-- Writes a line. -/
def say (text : String) : WorkM Unit := modify fun w => { w with lines := w.lines.push (.out text) }

/-- Writes a line to the stream of errors. -/
def complain (text : String) : WorkM Unit :=
  modify fun w => { w with lines := w.lines.push (.err text) }

/-- Writes several lines to the stream of errors. -/
def complainAll (texts : List String) : WorkM Unit := texts.forM complain

/-- Runs an operation on the bridge, and writes what scripts printed. -/
def onBridge {α : Type} (p : BridgeM α) : WorkM (Except BridgeError α) := do
  let w ← get
  let (r, b) := p.run.run w.bridge
  let printed := b.stdout.map OutputLine.out
  set { bridge := { b with stdout := [] }, lines := w.lines ++ printed.toArray : Workbench }
  return r

/-- The part of a message before a colon, set off. -/
def heading (style : Style) (text : String) : String := Style.bold.paint (style.paint text)

/-- A message about a failure that is no error of the bridge. -/
def errorLine (message : String) : String := heading .red "Error" ++ ": " ++ message

/-- Writes what jobs threw: whether there was anything. -/
def reportFailures : WorkM Bool := do
  match ← onBridge BridgeM.takeFailures with
  | .ok failures =>
    for f in failures do
      complain (heading .yellow "Job failed" ++ ": " ++ f.message)
    return !failures.isEmpty
  | .error _ => return false

end WorkM

end ScriptBridge
