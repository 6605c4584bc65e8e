import ScriptBridge.Script.Parser.Scope
import ScriptBridge.Script.Token

/-!
# Reading tokens

The state of the parser is the place among the tokens, and what a module has asked for and exports
so far.  The context says what is allowed where the parser stands.  Productions that contain each
other call each other through a record, `Productions`, so that no production is recursive: the
record is built level by level, one level for each token there is.
-/

namespace ScriptBridge.Script

/-- Why a source text is no program. -/
inductive SyntaxFault
  | badToken
  | unexpected (found : String)
  | redeclared (name : String)
  | badTarget
  | misplaced (word : String)
  | missingInit
  | undeclaredExport (name : String)
  | repeatedExport (name : String)
  /-- A private member that no class around its use has. -/
  | undeclaredMember (name : String)
deriving Repr, DecidableEq

/-- The wording of a fault. -/
def SyntaxFault.message : SyntaxFault → String
  | .badToken => "unexpected character"
  | .unexpected found => s!"unexpected token: '{found}'"
  | .redeclared name => s!"invalid redefinition of '{name}'"
  | .badTarget => "invalid assignment left-hand side"
  | .misplaced word => s!"'{word}' is not allowed here"
  | .missingInit => "missing initializer for const variable"
  | .undeclaredExport name => s!"exported variable '{name}' does not exist"
  | .repeatedExport name => s!"duplicate exported name '{name}'"
  | .undeclaredMember name => s!"undefined private field '{name}'"

/-- Whether a fault is found while the text is read: the others are found behind its end. -/
def SyntaxFault.hasPlace : SyntaxFault → Bool
  | .undeclaredMember _ => false
  | _ => true

namespace Parser

/-- What is allowed at a place. -/
structure Context where
  tokens : Array Lexeme
  source : Array Char
  isModule : Bool
  isStrict : Bool
  inFunction : Bool := false
  /-- Whether `await` is an operator. -/
  canAwait : Bool := false
  /-- Whether `yield` is an operator. -/
  canYield : Bool := false
  /-- Whether the place is among parameters, where these two operators are refused. -/
  inParameters : Bool := false
  /-- Whether the code is that of a block of a class, which has neither `return` nor `await`. -/
  inClassBlock : Bool := false
  /-- Whether `in` is an operator: not in the head of a loop. -/
  canIn : Bool := true
  canLeave : Bool := false
  canAgain : Bool := false
  labels : List String := []
  /-- The labels that stand directly in front of loops. -/
  loopLabels : List String := []
  superCall : Bool := false
  superMember : Bool := false
  newTarget : Bool := false
  /-- Whether `arguments` is refused, as in the values of fields. -/
  noArguments : Bool := false

/-- What the parser has come to. -/
structure State where
  pos : Nat := 0
  /-- Whether an `await` was read that belongs to the program itself. -/
  waits : Bool := false
  /-- The number of templates so far that stand behind functions. -/
  sites : Nat := 0
  /-- The private members that were used, and that no class so far has. -/
  hidden : List String := []
  requests : List Str := []
  imports : List ImportEntry := []
  exports : List ExportEntry := []
  /-- Local names that the module exports, to be looked up when it is read. -/
  exported : List String := []

end Parser

open ScriptBridge.Script.Parser

/-- A production of the grammar. -/
abbrev Parse := ReaderT Context (StateT State (Except SyntaxFault))

/-- Where a statement stands, which decides what it may declare. -/
inductive Position
  /-- In a list of statements. -/
  | list
  /-- Behind `if` or `else` in code that is not strict: it may be a function. -/
  | branch
  /-- Behind a label in a list, in code that is not strict: it may be a function. -/
  | labeled
  /-- Elsewhere inside of another statement. -/
  | single
deriving DecidableEq, Repr

/-- The productions that others contain. -/
structure Productions where
  /-- An expression, with commas. -/
  expr : Parse Expr
  /-- An expression without commas. -/
  assign : Parse Expr
  unary : Parse Expr
  /-- An expression without operators, with its calls and members. -/
  operand : Parse Expr
  /-- An expression made of operators of at least the given rank. -/
  ranked : Nat → Parse Expr
  stmt : Position → Parse Stmt
  /-- A pattern; `true` for one that declares names. -/
  pattern : Bool → Parse Pattern

namespace Parser

/-- The lexeme `n` places ahead. -/
def lexeme (n : Nat) : Parse Lexeme := do
  let ctx ← read
  return ctx.tokens.getD ((← get).pos + n) (ctx.tokens.back?.getD default)

/-- The next token. -/
def peek : Parse Token := return (← lexeme 0).token

/-- Passes over the next token. -/
def advance : Parse Unit := modify fun s => { s with pos := s.pos + 1 }

/-- How a token is shown in a message. -/
def tokenText : Token → String
  | .name s _ => s
  | .punct s => s
  | .privateName s => s
  | .number .. => "number"
  | .bigint _ => "bigint"
  | .string .. => "string"
  | .template .. => "template"
  | .finish => "end of input"

/-- Fails at the next token. -/
def unexpected {α : Type} : Parse α := do throw (.unexpected (tokenText (← peek)))

/-- Whether a token is the mark `s`. -/
def Token.isMark (t : Token) (s : String) : Bool :=
  match t with
  | .punct p => p == s
  | _ => false

/-- Whether a token is the word `s`. -/
def Token.isWord (t : Token) (s : String) : Bool :=
  match t with
  | .name n escaped => !escaped && n == s
  | _ => false

/-- Whether the next token is the mark `s`. -/
def atMark (s : String) : Parse Bool := return Token.isMark (← peek) s

/-- Whether the next token is the word `s`. -/
def atWord (s : String) : Parse Bool := return Token.isWord (← peek) s

/-- Passes over the mark `s` if it is next. -/
def eatMark (s : String) : Parse Bool := do
  if ← atMark s then advance; return true else return false

/-- Passes over the word `s` if it is next. -/
def eatWord (s : String) : Parse Bool := do
  if ← atWord s then advance; return true else return false

/-- Passes over the mark `s`. -/
def expectMark (s : String) : Parse Unit := do
  unless ← eatMark s do unexpected

/-- Passes over the word `s`. -/
def expectWord (s : String) : Parse Unit := do
  unless ← eatWord s do unexpected

/-- Passes over a semicolon, which may be left out before a brace, a line end and the end. -/
def endStatement : Parse Unit := do
  if ← eatMark ";" then return
  let l ← lexeme 0
  match l.token with
  | .finish => return
  | t => if Token.isMark t "\x7d" || l.onNewLine then return else unexpected

/-- Repeats a production until it yields nothing. -/
def manyFrom {α : Type} (p : Parse (Option α)) : Nat → Parse (List α)
  | 0 => unexpected
  | fuel + 1 => do
    match ← p with
    | some a => return a :: (← manyFrom p fuel)
    | none => return []

/-- Repeats a production until it yields nothing; each time but the last it reads a token. -/
def many {α : Type} (p : Parse (Option α)) : Parse (List α) := do
  manyFrom p ((← read).tokens.size + 1)

/-- Items with commas between them, up to the mark `close`, which is passed over; a comma may
stand behind the last. -/
def commaList {α : Type} (close : String) (p : Parse α) : Parse (List α) :=
  many do
    if ← eatMark close then return none
    let a ← p
    unless ← atMark close do expectMark ","
    return some a

/-! ### Names -/

/-- The words that are never names. -/
def reservedWords : List String := [
  "break", "case", "catch", "class", "const", "continue", "debugger", "default", "delete", "do",
  "else", "enum", "export", "extends", "false", "finally", "for", "function", "if", "import", "in",
  "instanceof", "new", "null", "return", "super", "switch", "this", "throw", "true", "try",
  "typeof", "var", "void", "while", "with"]

/-- The words that are not names in strict code. -/
def strictWords : List String := [
  "implements", "interface", "let", "package", "private", "protected", "public", "static", "yield"]

/-- Whether a word is a name in a context. -/
def isFree (ctx : Context) (s : String) : Bool :=
  !(reservedWords.contains s || (ctx.isStrict && strictWords.contains s)
    || (s == "await" && (ctx.isModule || ctx.canAwait || ctx.inClassBlock))
    || (s == "yield" && ctx.canYield))

/-- A name. -/
def identifier : Parse String := do
  match ← peek with
  | .name s _ =>
    if isFree (← read) s then
      advance
      return s
    else unexpected
  | _ => unexpected

/-- Whether the next token is a name. -/
def atIdentifier : Parse Bool := do
  match ← peek with
  | .name s _ => return isFree (← read) s
  | _ => return false

/-- A name that is declared or assigned to. -/
def bindingName : Parse String := do
  let s ← identifier
  if (← read).isStrict && (s == "eval" || s == "arguments") then throw .badTarget
  return s

/-- A word, reserved or not. -/
def anyWord : Parse String := do
  match ← peek with
  | .name s _ => advance; return s
  | _ => unexpected

/-! ### Looking ahead -/

/-- How a token changes the number of open brackets. -/
def bracketChange : Token → Int
  | .punct s =>
    if s == "(" || s == "[" || s == "\x7b" then 1
    else if s == ")" || s == "]" || s == "\x7d" then -1 else 0
  | .template _ _ isFirst isLast =>
    if isFirst && !isLast then 1 else if isLast && !isFirst then -1 else 0
  | _ => 0

/-- The place behind the bracket that closes the one at place `pos`. -/
def closing (tokens : Array Lexeme) (pos : Nat) : Nat := go (tokens.size - pos) pos 0
where
  go : Nat → Nat → Int → Nat
    | 0, pos, _ => pos
    | fuel + 1, pos, depth =>
      let depth := depth + bracketChange (tokens.getD pos default).token
      if depth ≤ 0 then pos + 1 else go fuel (pos + 1) depth

/-- The lexeme behind the brackets that open at the next token but `n`. -/
def behindBrackets (n : Nat) : Parse Lexeme := do
  let ctx ← read
  return ctx.tokens.getD (closing ctx.tokens ((← get).pos + n)) default

/-- Whether the mark `s` stands between the brackets that open at the next token; with `deep`, it
may also stand in brackets inside of them. -/
def insideBrackets (s : String) (deep : Bool) : Parse Bool := do
  let ctx ← read
  let first := (← get).pos
  return go ctx.tokens (ctx.tokens.size - first) first 0
where
  go (tokens : Array Lexeme) : Nat → Nat → Int → Bool
    | 0, _, _ => false
    | fuel + 1, pos, depth =>
      let t := (tokens.getD pos default).token
      let depth := depth + bracketChange t
      if depth ≤ 0 then false
      else if (deep || depth = 1) && Token.isMark t s then true
      else go tokens fuel (pos + 1) depth

/-- Whether an arrow follows on the same line. -/
def isArrow (l : Lexeme) : Bool := Token.isMark l.token "=>" && !l.onNewLine

/-- The source text from the token at place `first` to the token before the present one. -/
def textFrom (first : Nat) : Parse String := do
  let ctx ← read
  let a := (ctx.tokens.getD first default).start
  let b := (ctx.tokens.getD ((← get).pos - 1) default).stop
  return String.ofList (ctx.source.extract a b).toList

/-- Whether the directive `use strict` stands among the first statements of the body at the next
token. -/
def atStrictDirective : Parse Bool := do
  let ctx ← read
  return go ctx ctx.tokens.size (← get).pos
where
  go (ctx : Context) : Nat → Nat → Bool
    | 0, _ => false
    | fuel + 1, pos =>
      let l := ctx.tokens.getD pos default
      match l.token with
      | .string s _ =>
        let next := ctx.tokens.getD (pos + 1) default
        let semicolon := Token.isMark next.token ";"
        let ends := semicolon || Token.isMark next.token "\x7d" || next.onNewLine
          || (match next.token with | .finish => true | _ => false)
        if !ends then false
        else if s == Str.ofString "use strict" && l.stop - l.start == 12 then true
        else go ctx fuel (if semicolon then pos + 2 else pos + 1)
      | _ => false

end Parser

end ScriptBridge.Script
