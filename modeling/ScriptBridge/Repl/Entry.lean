import ScriptBridge.Repl.Editor
import ScriptBridge.Text.Cluster

/-!
# Entries of the interactive session

An entry is what the session evaluates at a time: one line, or several if brackets or literals stay
open.  A backspace in the input takes back what a reader takes for the character before it.
-/

namespace ScriptBridge

namespace Entry

/-- The clusters of an entry with one more: a backspace takes back the last, if there is one. -/
def takeCluster (kept : List (List Char)) (cluster : List Char) : List (List Char) :=
  if cluster = ['\x08'] then kept.tail else cluster :: kept

/-- Applies backspaces. -/
def applyBackspaces (text : List Char) : List Char :=
  ((Text.clusters text).foldl takeCluster []).reverse.flatten

/-- What stands at the end of a line of input: a line feed, perhaps behind a carriage return. -/
def ending (line : List Char) : List Char :=
  match line.reverse with
  | '\n' :: '\r' :: _ => ['\r', '\n']
  | '\n' :: _ => ['\n']
  | _ => []

/-- Puts a line of input behind the lines of an unfinished entry: the whole entry, or else, what is
there of it. -/
def feed (unfinished line : String) : Except String String :=
  let tail := ending line.toList
  let input := unfinished.toList ++ line.toList
  let text := String.ofList (applyBackspaces (input.take (input.length - tail.length)))
  if Editor.isCommand text || Editor.isBalanced text then .ok text
  else .error (text ++ String.ofList tail)

end Entry

end ScriptBridge
