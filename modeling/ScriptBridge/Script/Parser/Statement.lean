import ScriptBridge.Script.Parser.Expression

/-!
# Statements and programs

The productions for statements, the import and export forms of modules, and `parse`, which reads a
whole program.
-/

namespace ScriptBridge.Script.Parser

variable (R : Productions)

/-- Refuses a block that declares a name twice. -/
def checkBlock (body : List Stmt) : Parse Unit := do
  if let some n := blockClash? (← read).isStrict body then throw (.redeclared n)

/-- The body of a loop. -/
def loopBody : Parse Stmt :=
  withReader (fun c => { c with canLeave := true, canAgain := true }) (R.stmt .single)

/-- An expression in parentheses. -/
def inParens : Parse Expr := do
  expectMark "("
  let e ← R.expr
  expectMark ")"
  return e

/-- A pattern that declares names. -/
def declared (kind : DeclKind) : Parse Pattern := do
  let p ← R.pattern true
  if kind != .var && p.names.contains "let" then throw (.misplaced "let")
  return p

/-- One declared pattern with its value. -/
def binding (kind : DeclKind) : Parse (Pattern × Option Expr) := do
  let p ← declared R kind
  if ← eatMark "=" then return (p, some (← R.assign))
  match p with
  | .target _ => if kind == .const then throw .missingInit
  | _ => throw .missingInit
  return (p, none)

/-- The declarations behind `var`, `let` or `const`. -/
def bindings (kind : DeclKind) : Parse (List (Pattern × Option Expr)) := do
  let first ← binding R kind
  let more ← many do
    if ← eatMark "," then return some (← binding R kind) else return none
  let bs := first :: more
  if kind != .var then
    if let some n := repeated? (bindingNames bs) then throw (.redeclared n)
  return bs

/-- The kind of declaration that starts at the next token.  In code that is not strict, `let` may be
a name: it starts a declaration in front of a bracket, and in front of a brace or a name where a
declaration may stand (`isPlace`), or on the same line. -/
def declKind? (isPlace : Bool) : Parse (Option DeclKind) := do
  if ← atWord "var" then return some .var
  if ← atWord "const" then return some .const
  unless ← atWord "let" do return none
  if (← read).isStrict then return some .letVar
  let l ← lexeme 1
  let names := match l.token with
    | .name s _ => !reservedWords.contains s
    | t => Token.isMark t "\x7b"
  return if Token.isMark l.token "[" || (names && (isPlace || !l.onNewLine)) then some .letVar
    else none

/-- A declaration without its end. -/
def openDeclaration (kind : DeclKind) : Parse Stmt := do
  advance
  return .decl kind (← bindings R kind)

/-- A declaration with its semicolon. -/
def declaration (kind : DeclKind) : Parse Stmt := do
  let s ← openDeclaration R kind
  endStatement
  return s

/-- The statements of a block behind its brace. -/
def blockRest : Parse (List Stmt) := do
  let body ← statementsToBrace R
  checkBlock body
  return body

/-- A block. -/
def block : Parse (List Stmt) := do
  expectMark "\x7b"
  blockRest R

/-! ### Loops -/

/-- Refuses a body that redeclares a name of the head of its loop. -/
def checkHead (kind : DeclKind) (names : List String) (body : Stmt) : Parse Unit := do
  if kind != .var then
    if let some n := repeated? names then throw (.redeclared n)
    if let some n := names.find? body.varNames.contains then throw (.redeclared n)

/-- A production where `in` is no operator. -/
def withoutIn {α : Type} (p : Parse α) : Parse α :=
  withReader (fun c => { c with canIn := false }) p

/-- The rest of a loop with three parts. -/
def loopRest : Parse Stmt := do
  let init ←
    if ← atMark ";" then pure none
    else match ← declKind? true with
      | some kind => do
        advance
        pure (some (Stmt.decl kind (← withoutIn (bindings R kind))))
      | none => do pure (some (.expr (← withoutIn R.expr)))
  expectMark ";"
  let test ← if ← atMark ";" then pure none else pure (some (← withIn R.expr))
  expectMark ";"
  let update ← if ← atMark ")" then pure none else pure (some (← withIn R.expr))
  expectMark ")"
  let body ← loopBody R
  match init with
  | some (.decl kind bs) => checkHead kind (bindingNames bs) body
  | _ => pure ()
  return .loop init test update body

/-- What each round of a loop over items or keys binds: how, and to what, and the value that an old
form of the loop gives it before the first round. -/
def loopTarget : Parse (Option DeclKind × Pattern × Option Expr) := do
  if let some kind ← declKind? true then
    advance
    let p ← declared R kind
    let init ← if ← eatMark "=" then pure (some (← withoutIn R.assign)) else pure none
    return (some kind, p, init)
  if (← atMark "[") || (← atMark "\x7b") then
    let t := (← behindBrackets 0).token
    if Token.isWord t "of" || Token.isWord t "in" then return (none, ← R.pattern false, none)
  let e ← R.operand
  unless isTarget (← read).isStrict e do throw .badTarget
  return (none, .target e, none)

/-- The rest of a loop over items or keys. -/
def forEachRest (isAwait : Bool) : Parse Stmt := do
  if !isAwait && (← atWord "async") && Token.isWord (← lexeme 1).token "of" then unexpected
  let (kind, target, init) ← loopTarget R
  let isOf ← eatWord "of"
  unless isOf || !isAwait do unexpected
  unless isOf do expectWord "in"
  let source ← if isOf then withIn R.assign else withIn R.expr
  let e ← match init, target with
    | none, _ => pure source
    | some v, .target name =>
      if isOf || kind != some .var || (← read).isStrict then unexpected
      pure (.comma (.assign (.target name) v) source)
    | some _, _ => unexpected
  expectMark ")"
  let body ← loopBody R
  if let some k := kind then checkHead k target.names body
  return .forEach (if isAwait then .awaited else if isOf then .items else .keys) kind target e body

/-- A loop behind `for`. -/
def forRest : Parse Stmt := do
  let ctx ← read
  let isAwait ← eatWord "await"
  let atTop := ctx.isModule && !ctx.inFunction
  if isAwait then
    unless ctx.canAwait || atTop do throw (.misplaced "await")
    if atTop then modify fun s => { s with waits := true }
  let hasParts ← insideBrackets ";" false
  expectMark "("
  if hasParts && !isAwait then loopRest R else forEachRest R isAwait

/-! ### Other statements -/

/-- The cases of a switch, up to the closing brace. -/
def switchCases : Parse (List (Option Expr × List Stmt)) := do
  let cases ← many do
    if ← eatMark "\x7d" then return none
    let test ← if ← eatWord "default" then pure none
      else do
        expectWord "case"
        pure (some (← withIn R.expr))
    expectMark ":"
    let body ← many do
      if (← atMark "\x7d") || (← atWord "case") || (← atWord "default") then return none
      match ← peek with
      | .finish => unexpected
      | _ => return some (← R.stmt .list)
    return some (test, body)
  if 1 < (cases.filter fun c => c.1.isNone).length then throw (.misplaced "default")
  checkBlock (cases.flatMap (·.2))
  return cases

/-- The rest of a statement that catches. -/
def attemptRest : Parse Stmt := do
  let body ← block R
  let handler ←
    if ← eatWord "catch" then do
      let param ← if ← eatMark "(" then pure (some (← caught)) else pure none
      let h ← block R
      checkHandler param h
      pure (some (param, h))
    else pure none
  let finalizer ← if ← eatWord "finally" then pure (some (← block R)) else pure none
  if handler.isNone && finalizer.isNone then unexpected
  return .attempt body handler finalizer
where
  /-- What the caught value is bound to, up to the closing parenthesis: a pattern in brackets may
  have a default value. -/
  caught : Parse Pattern := do
    let p ← R.pattern true
    let p ← match p with
      | .target _ => pure p
      | _ => if ← eatMark "=" then pure (.withDefault p (← R.assign)) else pure p
    expectMark ")"
    return p
  /-- Refuses a handler that declares the name of its parameter as a block does, or those of its
  pattern as variables. -/
  checkHandler (param : Option Pattern) (body : List Stmt) : Parse Unit := do
    match param with
    | none => pure ()
    | some (.target e) =>
      if let some n := (Pattern.target e).names.find? ((lexicalNames body).map (·.1)).contains then
        throw (.redeclared n)
    | some p =>
      if let some n := repeated? p.names then throw (.redeclared n)
      if let some n := p.names.find? (varNamesAll body).contains then throw (.redeclared n)

/-- The label behind `break` or `continue`, if there is one. -/
def jumpLabel (labels : List String) : Parse (Option String) := do
  let l ← lexeme 0
  if !l.onNewLine && (← atIdentifier) then
    let name ← identifier
    unless labels.contains name do throw (.misplaced name)
    return some name
  return none

/-- Whether a function declaration starts at the next token, and whether it is async. -/
def functionStart? : Parse (Option Bool) := do
  if ← atWord "function" then return some false
  let next ← lexeme 1
  if (← atWord "async") && Token.isWord next.token "function" && !next.onNewLine then
    return some true
  return none

/-- The function that is declared at the next token. -/
def functionDeclaration (isAsync : Bool) (needsName : Bool) : Parse Func := do
  let first := (← get).pos
  if isAsync then advance
  advance
  functionFrom R isAsync first needsName

/-- A statement at a place that a word starts, if the word starts one. -/
def wordStmt (place : Position) (word : String) : Parse (Option Stmt) := do
  let ctx ← read
  match word with
  | "if" =>
    advance
    let test ← inParens R
    let inner := if ctx.isStrict then Position.single else .branch
    let yes ← R.stmt inner
    let no ← if ← eatWord "else" then pure (some (← R.stmt inner)) else pure none
    return some (.cond test yes no)
  | "for" => advance; return some (← forRest R)
  | "while" =>
    advance
    let test ← inParens R
    return some (.loop none (some test) none (← loopBody R))
  | "do" =>
    advance
    let body ← loopBody R
    expectWord "while"
    let test ← inParens R
    discard (eatMark ";")
    return some (.doWhile body test)
  | "return" =>
    unless ctx.inFunction && !ctx.inClassBlock do throw (.misplaced "return")
    advance
    let l ← lexeme 0
    let none? := l.onNewLine || (match l.token with
      | .finish => true
      | t => Token.isMark t ";" || Token.isMark t "\x7d")
    let e ← if none? then pure none else pure (some (← R.expr))
    endStatement
    -- An async generator waits for the value that it returns.
    return some (.ret (if ctx.canAwait && ctx.canYield then e.map .await else e))
  | "break" =>
    advance
    let label ← jumpLabel ctx.labels
    unless ctx.canLeave || label.isSome do throw (.misplaced "break")
    endStatement
    return some (.leave label)
  | "continue" =>
    advance
    let label ← jumpLabel ctx.loopLabels
    unless ctx.canAgain do throw (.misplaced "continue")
    endStatement
    return some (.again label)
  | "throw" =>
    advance
    if (← lexeme 0).onNewLine then unexpected
    let e ← R.expr
    endStatement
    return some (.throw e)
  | "try" => advance; return some (← attemptRest R)
  | "switch" =>
    advance
    let e ← inParens R
    expectMark "\x7b"
    return some (.switch e
      (← withReader (fun c => { c with canLeave := true }) (switchCases R)))
  | "class" =>
    unless place == .list do throw (.misplaced "class")
    let first := (← get).pos
    advance
    return some (.klass (← classFrom R first true))
  | "debugger" => advance; endStatement; return some .empty
  | _ => return none

/-- A function that is declared at a place: outside of lists, only a plain one. -/
def functionStmt (place : Position) (isAsync : Bool) : Parse Stmt := do
  let f ← functionDeclaration R isAsync true
  let isPlain := !isAsync && !f.info.isGenerator
  match place with
  | .list => return .func f false
  | .labeled => if isPlain then return .func f false else throw (.misplaced "function")
  | .branch => if isPlain then return .block [.func f false] else throw (.misplaced "function")
  | .single => throw (.misplaced "function")

/-- A statement behind a label. -/
def labeledStmt (place : Position) : Parse Stmt := do
  let label ← identifier
  advance
  let ctx ← read
  if ctx.labels.contains label then throw (.redeclared label)
  let loops := (← atWord "for") || (← atWord "while") || (← atWord "do")
  let inner := if !ctx.isStrict && (place == .list || place == .labeled) then Position.labeled
    else .single
  let own (c : Context) : Context :=
    { c with labels := label :: c.labels
             loopLabels := if loops then label :: c.loopLabels else c.loopLabels }
  return .labeled label (← withReader own (R.stmt inner))

/-- A statement at a place. -/
def stmt (place : Position) : Parse Stmt := do
  if ← eatMark "\x7b" then return .block (← blockRest R)
  if ← eatMark ";" then return .empty
  if let some kind ← declKind? (place == .list) then
    unless place == .list || kind == .var do throw (.misplaced "let")
    return ← declaration R kind
  if let some isAsync ← functionStart? then return ← functionStmt R place isAsync
  match ← peek with
  | .name s escaped =>
    if !escaped then
      if let some st ← wordStmt R place s then return st
    if (← atIdentifier) && Token.isMark (← lexeme 1).token ":" then return ← labeledStmt R place
  | _ => pure ()
  let e ← R.expr
  endStatement
  return .expr e

/-! ### Imports and exports -/

/-- The place of a module among the requested ones. -/
def request (name : Str) : Parse Nat := do
  let s ← get
  match s.requests.idxOf? name with
  | some i => return i
  | none =>
    set { s with requests := s.requests ++ [name] }
    return s.requests.length

/-- A text literal. -/
def textLiteral : Parse Str := do
  match ← peek with
  | .string s _ => advance; return s
  | _ => unexpected

/-- The name of an export: a word or a text. -/
def exportName : Parse Str := do
  match ← peek with
  | .string s _ =>
    if s.toString?.toOption.isNone then throw .badToken
    advance
    return s
  | _ => return Str.ofString (← anyWord)

/-- The name that an import binds: any word will do. -/
def importedName : Parse String := do
  let s ← anyWord
  if s == "eval" || s == "arguments" then throw .badTarget
  return s

/-- Adds an import. -/
def addImport (source : Nat) (imported : ImportName) (name : String) : Parse Unit := do
  if name != "default" && (← get).imports.any (·.name == name) then throw (.redeclared name)
  modify fun s => { s with imports := s.imports ++ [⟨source, imported, name⟩] }

/-- The exported name of an entry, if it has one. -/
def exportedName? : ExportEntry → Option Str
  | .own n _ => some n
  | .passed n _ _ => some n
  | .star _ => none

/-- Adds an export. -/
def addExport (e : ExportEntry) : Parse Unit := do
  let earlier := (← get).exports
  let clash := match exportedName? e with
    | some n => earlier.any fun f => exportedName? f == some n
    | none => false
  if clash then throw (.repeatedExport ((exportedName? e).getD Str.empty).toStringLossy)
  modify fun s => { s with exports := s.exports ++ [e] }

/-- The names that an import statement binds, behind the word. -/
def importClause : Parse (List (ImportName × String)) := do
  let first ←
    if ← atIdentifier then pure [(ImportName.named (Str.ofString "default"), ← importedName)]
    else pure []
  unless first.isEmpty do
    unless ← eatMark "," do return first
  if ← eatMark "*" then
    expectWord "as"
    return first ++ [(.all, ← importedName)]
  if first.isEmpty || (← atMark "\x7b") then
    expectMark "\x7b"
    return first ++ (← commaList "\x7d" do
      let isText := match ← peek with
        | .string .. => true
        | _ => false
      if isText || Token.isWord (← lexeme 1).token "as" then
        let imported ← exportName
        expectWord "as"
        return (ImportName.named imported, ← importedName)
      let name ← importedName
      return (.named (Str.ofString name), name))
  return first

/-- An import statement behind the word. -/
def importStmt : Parse Stmt := do
  match ← peek with
  | .string s _ =>
    advance
    discard (request s)
  | _ =>
    let names ← importClause
    expectWord "from"
    let source ← request (← textLiteral)
    for (imported, name) in names do
      addImport source imported name
  endStatement
  return .empty

/-- The name under which a module keeps its default export if that has no name. -/
def defaultName : String := "*default*"

/-- Exports a variable of the module. -/
def exportOwn (exported : Str) (name : String) : Parse Unit := do
  addExport (.own exported name)
  modify fun s => { s with exported := s.exported ++ [name] }

/-- The default export, behind `default`. -/
def exportDefault : Parse Stmt := do
  let key := Str.ofString "default"
  if let some isAsync ← functionStart? then
    match ← functionDeclaration R isAsync false with
    | .mk info params rest body =>
      let name := info.name.getD defaultName
      exportOwn key name
      return .func (.mk { info with name := some name } params rest body) false
  if ← atWord "class" then
    let first := (← get).pos
    advance
    match ← classFrom R first false with
    | .mk (some name) text parent ctor members =>
      exportOwn key name
      return .klass (.mk (some name) text parent ctor members)
    | c =>
      exportOwn key defaultName
      return .exportDefault (.klass c)
  let e ← R.assign
  endStatement
  exportOwn key defaultName
  return .exportDefault e

/-- The names between the braces of an export: the local and the exported name of each. -/
def exportClause : Parse (List (String × Bool × Str)) :=
  commaList "\x7d" do
    let free ← atIdentifier
    let name ← anyWord
    let exported ← if ← eatWord "as" then exportName else pure (Str.ofString name)
    return (name, free, exported)

/-- An export statement behind the word. -/
def exportStmt : Parse Stmt := do
  if ← eatWord "default" then return ← exportDefault R
  if ← eatMark "*" then
    let name ← if ← eatWord "as" then pure (some (← exportName)) else pure none
    expectWord "from"
    let source ← request (← textLiteral)
    match name with
    | some n => addExport (.passed n source .all)
    | none => addExport (.star source)
    endStatement
    return .empty
  if ← eatMark "\x7b" then
    let names ← exportClause
    if ← eatWord "from" then
      let source ← request (← textLiteral)
      for (name, _, exported) in names do
        addExport (.passed exported source (.named (Str.ofString name)))
    else
      for (name, free, exported) in names do
        unless free do unexpected
        exportOwn exported name
    endStatement
    return .empty
  -- The end of a declaration is not asked for.
  let s ← match ← declKind? true with
    | some kind => openDeclaration R kind
    | none => R.stmt .list
  match s with
  | .decl _ bs =>
    for name in bindingNames bs do
      exportOwn (Str.ofString name) name
    return s
  | .func f _ =>
    if let some name := f.info.name then exportOwn (Str.ofString name) name
    return s
  | .klass (.mk (some name) _ _ _ _) =>
    exportOwn (Str.ofString name) name
    return s
  | _ => throw (.misplaced "export")

/-- A statement at the top of a module. -/
def moduleItem : Parse Stmt := do
  let next := Token.isMark (← lexeme 1).token
  if (← atWord "import") && !(next "(" || next ".") then
    advance
    return ← importStmt
  if ← eatWord "export" then return ← exportStmt R
  R.stmt .list

/-! ### Programs -/

/-- The productions that contain nothing. -/
def noProductions : Productions :=
  ⟨unexpected, unexpected, unexpected, unexpected, fun _ => unexpected, fun _ => unexpected,
    fun _ => unexpected⟩

/-- The productions that contain those of `R`. -/
def productionsOver (R : Productions) : Productions :=
  ⟨expr R, assign R, unary R, postfixChain R, ranked R, stmt R, pattern R⟩

/-- The productions with `count` levels over those of `R`. -/
def productions : Nat → Productions → Productions
  | 0, R => R
  | count + 1, R => productions count (productionsOver R)

/-- A whole program. -/
def program : Parse Program := do
  let ctx ← read
  let R := productions (6 * ctx.tokens.size + 6) noProductions
  let isStrict := ctx.isStrict || (← atStrictDirective)
  withReader (fun c => { c with isStrict }) do
    let body ← many do
      match ← peek with
      | .finish => return none
      | _ => return some (← if ctx.isModule then moduleItem R else R.stmt .list)
    let s ← get
    if let some n := if ctx.isModule then moduleClash? body else scriptClash? body then
      throw (.redeclared n)
    let (body, escaping) := if isStrict then (body, []) else markEscapes [] body
    let vars := varNamesAll body ++ escaping
    let declared := vars ++ functionNames body ++ (lexicalNames body).map (·.1)
      ++ s.imports.map (·.name) ++ [defaultName]
    if let some n := s.exported.find? fun n => !declared.contains n then
      throw (.undeclaredExport n)
    if let n :: _ := s.hidden then throw (.undeclaredMember n)
    return { isModule := ctx.isModule, isStrict, body, vars, requests := s.requests,
             imports := s.imports, exports := s.exports, waits := s.waits, sites := s.sites }

end Parser

/-- The program that a source text writes for a reader in the given place. -/
def parseIn (place : Parser.Context) (source : String) : Except SyntaxFault Program := do
  let chars := source.toList
  match tokenize (!place.isModule) chars with
  | none => .error .badToken
  | some tokens =>
    (Parser.program.run { place with tokens, source := chars.toArray }).run {} |>.map (·.1)

/-- The program that a source text writes. -/
def parse (isModule : Bool) (source : String) : Except SyntaxFault Program :=
  parseIn { tokens := #[], source := #[], isModule, isStrict := isModule } source

/-- The program that a source text writes which running code evaluates: in strict code it is strict
too, and in a function it may ask for `new.target`. -/
def parseEvaluated (isStrict newTarget : Bool) (source : String) : Except SyntaxFault Program :=
  parseIn { tokens := #[], source := #[], isModule := false, isStrict, newTarget } source

end ScriptBridge.Script
