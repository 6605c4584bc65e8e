import ScriptBridge.Bridge.Values
import ScriptBridge.Json.Printer
import ScriptBridge.Terminal.Style
import ScriptBridge.Text.Letters

/-!
# Values and errors on a terminal

`BridgeM.formatValue` shows a value in the colour of its kind, and a promise around what it holds.
`BridgeError.report` words an error over the lines that a terminal shows.
-/

namespace ScriptBridge

open Script

namespace BridgeM

/-- A promise that is shown with what it was settled with. -/
def promiseText (status : PromiseStatus) (inner : String) : String :=
  match status with
  | .rejected => "Promise \x7b " ++ Style.red.paint "<rejected>" ++ " " ++ inner ++ " \x7d"
  | _ => "Promise \x7b " ++ inner ++ " \x7d"

/-- A promise that is not settled. -/
def pendingText : String := "Promise \x7b " ++ Style.dimmed.paint "<pending>" ++ " \x7d"

/-- What a look at a value yields: how it is shown, or what a settled promise holds. -/
inductive Glance
  | text (s : String)
  | settled (status : PromiseStatus) (result : Handle)

/-- Shows a value that is no settled promise, and opens one that is. -/
def glance (h : Handle) : BridgeM Glance := do
  match ← valueKind h with
  | .undefined => return .text (Style.dimmed.paint (Style.blue.paint "undefined"))
  | .null => return .text (Style.blue.paint "null")
  | .boolean | .number => return .text (Style.yellow.paint (← getString h))
  | .bigint => return .text (Style.yellow.paint ((← getString h) ++ "n"))
  | .string => return .text (Style.green.paint ("'" ++ (← getString h) ++ "'"))
  | .symbol => return .text (Style.magenta.paint (← getString h))
  | .function => return .text (Style.magenta.paint "[Function]")
  | .array | .object => return .text (Style.cyan.paint (← toJson h).compact)
  | .promise =>
    match ← promiseStatus h with
    | .pending => return .text pendingText
    | status => return .settled status (← promiseResult h)

/-- Shows a promise around what it holds, and lets go of that, also where showing it failed. -/
def enclose (status : PromiseStatus) (result : Handle) (inner : Except BridgeError String) :
    BridgeM String := do
  release result
  return promiseText status (← MonadExcept.ofExcept inner)

/-- What a program comes to, and the bridge then: a program always returns. -/
def returning {α : Type} (p : BridgeM α) (b : Bridge) : Option (Except BridgeError α × Bridge) :=
  some (p.run.run b)

/-- Shows a value, and a promise with what it was settled with: what this comes to, and the bridge
then.  There is nothing for promises that were settled with one another all the way round: showing
one of them does not return. -/
def render (h : Handle) (b : Bridge) : Option (Except BridgeError String × Bridge) := do
  match ← returning (glance h) b with
  | (.ok (.text s), b) => return (.ok s, b)
  | (.ok (.settled status result), b) =>
    -- The bridge goes in by name: a plain call would keep its place in this file in the fixpoint.
    let (inner, b) ← (render (b := b)) result
    returning (enclose status result inner) b
  | (.error e, b) => return (.error e, b)
partial_fixpoint

/-- Shows a value.  A bridge on which that does not return is not to be used any more. -/
def formatValue (h : Handle) : BridgeM String :=
  ExceptT.mk fun b => (render h b).getD (.error (.engine .exhausted), { b with isHalted := true })

/-- Whether a value is not worth showing after a run. -/
def isSilent (h : Handle) : BridgeM Bool := return (← valueKind h) == .undefined

end BridgeM

namespace BridgeError

/-- The lines that show an error: its wording with the part before the first colon set off, and
the place where a script threw. -/
def report (e : BridgeError) : List String :=
  let wording := e.message.toList
  let head := wording.takeWhile (· ≠ ':')
  let first :=
    if head.length < wording.length then
      Style.bold.paint (Style.red.paint (String.ofList head)) ++
        String.ofList (wording.drop head.length)
    else Style.red.paint e.message
  match e.exception?.bind ScriptException.stack with
  | some stack => [first, Style.dimmed.paint (String.ofList (Text.trimEnd stack.toList))]
  | none => [first]

end BridgeError

end ScriptBridge
