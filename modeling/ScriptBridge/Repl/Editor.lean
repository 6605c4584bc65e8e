import ScriptBridge.Config.Basic
import ScriptBridge.Repl.Command
import ScriptBridge.Terminal.Style

/-!
# The line editor

What the editor of the interactive session decides about a line: whether more lines have to
follow (`isBalanced`), which word stands before the cursor (`currentWord?`), what may complete
it, and how the line is coloured.
-/

namespace ScriptBridge

namespace Editor

/-! ### Brackets -/

/-- Whether a character opens and closes text literals. -/
def isQuote (c : Char) : Bool := c = '"' || c = '\'' || c = '\x60'

/-- The bracket that closes `c`, if `c` opens one. -/
def closer? (c : Char) : Option Char :=
  if c = '(' then some ')' else if c = '[' then some ']' else if c = '{' then some '}' else none

/-- Whether a character closes brackets. -/
def isCloser (c : Char) : Bool := c = ')' || c = ']' || c = '}'

mutual

/-- Scans outside of literals; `opened` holds the closers that are due, the next one first. -/
def scan (opened : List Char) : List Char → Bool
  | [] => opened.isEmpty
  | c :: rest =>
    if isQuote c then scanLiteral c opened rest
    else
      match closer? c with
      | some close => scan (close :: opened) rest
      | none =>
        if isCloser c then
          match opened with
          | due :: opened => if due = c then scan opened rest else true
          | [] => true
        else scan opened rest

/-- Scans inside a literal that `quote` closes; a backslash hides the next character. -/
def scanLiteral (quote : Char) (opened : List Char) : List Char → Bool
  | [] => false
  | [c] => if c = '\\' then false else c = quote && opened.isEmpty
  | c :: d :: rest =>
    if c = '\\' then scanLiteral quote opened rest
    else if c = quote then scan opened (d :: rest)
    else scanLiteral quote opened (d :: rest)

end

/-- Whether a text is complete: every bracket outside of literals is closed and no literal is
open, or a bracket is closed that is not due, which no further line can mend. -/
def isBalanced (s : String) : Bool := scan [] s.toList

/-! ### Words -/

/-- Whether a character belongs to a word. -/
def inWord (c : Char) : Bool := Text.isWordChar c || c = '_' || c = '.'

/-- The word at the end of a line. -/
def lastWord (line : List Char) : List Char := (line.reverse.takeWhile inWord).reverse

/-- The number of bytes of a text. -/
def byteCount (cs : List Char) : Nat := cs.foldl (fun n c => n + c.utf8Size) 0

/-- Where the word at the end of a line starts, in bytes: one byte behind the separator before it.
Nothing when the separator takes more than one byte, because that place is inside of it. -/
def wordStart? (line : List Char) : Option Nat :=
  let before := line.take (line.length - (lastWord line).length)
  match before.getLast? with
  | none => some 0
  | some c => if c.utf8Size = 1 then some (byteCount before) else none

/-- Where the word at the end of a line starts, and the word. -/
def currentWord? (line : String) : Option (Nat × String) :=
  (wordStart? line.toList).map fun start => (start, String.ofList (lastWord line.toList))

/-! ### Completion -/

/-- The words of the language that can be completed. -/
def languageWords : List String := [
  "async", "await", "class", "const", "export", "function", "import", "let", "new", "return",
  "typeof", "undefined", "Promise", "JSON", "print", "globalThis"]

/-- All words that can be completed under a configuration. -/
def words (c : BridgeConfig) : List String :=
  languageWords ++ [c.hostNamespace, c.hostNamespace ++ "." ++ c.asyncEntry] ++ ReplCommand.names

/-- What completes the text before the cursor: each candidate with what is left of it. -/
def complete? (c : BridgeConfig) (before : String) : Option (List (String × String)) :=
  (currentWord? before).map fun (_, word) =>
    if word.isEmpty then []
    else (words c).filterMap fun w => (Text.dropStart? word w).map fun rest => (w, rest)

/-- What is left of the first word that continues the word at the end of a line; shown only for
words of more than one byte. -/
def hint? (c : BridgeConfig) (line : String) : Option (Option String) :=
  (currentWord? line).map fun (_, word) =>
    if word.utf8ByteSize < 2 then none
    else
      ((words c).findSome? fun w =>
        match Text.dropStart? word w with
        | some rest => if rest.isEmpty then none else some rest
        | none => none).map Style.dimmed.paint

/-! ### Positions -/

/-- The part of a text before a byte offset.  Nothing when the offset is inside of a character or
behind the end. -/
def beforeByte? : List Char → Nat → Option (List Char)
  | _, 0 => some []
  | [], _ + 1 => none
  | c :: rest, n + 1 =>
    if c.utf8Size ≤ n + 1 then (beforeByte? rest (n + 1 - c.utf8Size)).map (c :: ·) else none

/-- What completes a line at a byte offset, and where it is inserted: at that offset. -/
def completeAt? (c : BridgeConfig) (line : String) (pos : Nat) :
    Option (Nat × List (String × String)) := do
  let before ← beforeByte? line.toList pos
  let candidates ← complete? c (String.ofList before)
  some (pos, candidates)

/-- The hint for a line with the cursor at a byte offset; there is none when text follows. -/
def hintAt? (c : BridgeConfig) (line : String) (pos : Nat) : Option (Option String) :=
  if pos < line.utf8ByteSize then some none else hint? c line

/-! ### Colours -/

/-- Whether a line is a command. -/
def isCommand (line : String) : Bool := (Text.trimStart line.toList).head? == some '.'

/-- The line as it is shown: commands are coloured. -/
def highlight (line : String) : String := if isCommand line then Style.magenta.paint line else line

end Editor

end ScriptBridge
