import ScriptBridge.Script.Parser.Basic

/-!
# Expressions

The productions for expressions, patterns, functions and classes.  Each takes the record of the
productions it contains.
-/

namespace ScriptBridge.Script.Parser

variable (R : Productions)

/-- A production where `in` is an operator. -/
def withIn {α : Type} (p : Parse α) : Parse α := withReader (fun c => { c with canIn := true }) p

/-! ### Property names -/

/-- The text of a number as a property key. -/
def numberKey (x : Float) : Str :=
  match Decimal.parts? x with
  | some p => Str.ofString ((⟨21, -6, ""⟩ : Decimal.Layout).finite false p)
  | none => Str.ofString "Infinity"

/-- Refuses a spelling that strict code does not have. -/
def refuseOld (isOld : Bool) : Parse Unit := do
  if isOld && (← read).isStrict then throw .badToken

/-- The key of a property. -/
def propName : Parse PropName := do
  match ← peek with
  | .name s _ => advance; return .static (Str.ofString s)
  | .string s octal =>
    refuseOld octal
    advance
    return .static s
  | .number x isOld =>
    refuseOld isOld
    advance
    return .static (numberKey x)
  | .bigint n => advance; return .static (Str.ofString (toString n))
  | t =>
    if Token.isMark t "[" then
      advance
      let e ← withIn R.expr
      expectMark "]"
      return .computed e
    else unexpected

/-! ### Patterns -/

/-- A pattern with a default value behind `=`, if there is one. -/
def patternWithDefault (declares : Bool) : Parse Pattern := do
  let p ← R.pattern declares
  if ← eatMark "=" then return .withDefault p (← withIn R.assign) else return p

/-- Whether an expression can be assigned to. -/
def isTarget (isStrict : Bool) : Expr → Bool
  | .ident name => !(isStrict && (name == "eval" || name == "arguments"))
  | .group e => isTarget isStrict e
  | .dot .. | .hiddenDot .. | .index .. | .superDot _ | .superIndex _ => true
  | _ => false

/-- An item of an array pattern. -/
def arrayPatternItem (declares : Bool) : Parse (Option (Option Pattern)) := do
  if ← atMark "]" then return none
  if ← eatMark "," then return some none
  if ← atMark "..." then return none
  let p ← patternWithDefault R declares
  unless ← atMark "]" do expectMark ","
  return some (some p)

/-- A field of an object pattern. -/
def objectPatternField (declares : Bool) : Parse (Option (PropName × Pattern)) := do
  if ← atMark "\x7d" then return none
  if ← atMark "..." then return none
  let short := Token.isMark (← lexeme 1).token
  let p ←
    if (← atIdentifier) && (short "," || short "\x7d" || short "=") then do
      let name ← if declares then bindingName else identifier
      unless isTarget (← read).isStrict (.ident name) do throw .badTarget
      let target := Pattern.target (.ident name)
      let p ← if ← eatMark "=" then pure (.withDefault target (← withIn R.assign)) else pure target
      pure (PropName.static (Str.ofString name), p)
    else do
      let key ← propName R
      expectMark ":"
      pure (key, ← patternWithDefault R declares)
  unless ← atMark "\x7d" do expectMark ","
  return some p

/-- What follows three points at the end of a pattern. -/
def restPattern (declares : Bool) (close : String) : Parse (Option Pattern) := do
  let rest ← if ← eatMark "..." then pure (some (← R.pattern declares)) else pure none
  expectMark close
  return rest

/-- A pattern. -/
def pattern (declares : Bool) : Parse Pattern := do
  let ctx ← read
  let next := Token.isMark (← behindBrackets 0).token
  let goesOn := next "." || next "[" || next "(" || next "?."
  if (← atMark "[") && (declares || !goesOn) then
    advance
    let items ← many (arrayPatternItem R declares)
    return .array items (← restPattern R declares "]")
  else if (← atMark "\x7b") && (declares || !goesOn) then
    advance
    let fields ← many (objectPatternField R declares)
    return .object fields (← restPattern R declares "\x7d")
  else if declares then return .target (.ident (← bindingName))
  else
    match ← R.operand with
    | .group e => return .target e
    | e =>
      unless isTarget ctx.isStrict e do throw .badTarget
      return .target e

/-! ### Functions -/

/-- The parameters of a function, behind the opening parenthesis, up to the closing one. -/
def parameters : Parse (List Pattern × Option Pattern) := do
  let params ← many do
    if (← atMark ")") || (← atMark "...") then return none
    let p ← patternWithDefault R true
    unless ← atMark ")" do expectMark ","
    return some p
  let rest ← if ← eatMark "..." then pure (some (← restParameter)) else pure none
  expectMark ")"
  return (params, rest)
where
  /-- The last parameter, behind three points.  A default value behind its brackets is never used:
  there is always a list. -/
  restParameter : Parse Pattern := do
    let p ← R.pattern true
    match p with
    | .target _ => return p
    | _ =>
      if ← eatMark "=" then discard (withIn R.assign)
      return p

/-- The number of parameters before the first with a default value. -/
def expectedCount (params : List Pattern) : Nat :=
  (params.takeWhile fun p => match p with
    | .withDefault .. => false
    | _ => true).length

/-- The statements of a body, up to the closing brace, which is passed over. -/
def statementsToBrace : Parse (List Stmt) := do
  let body ← many do
    if ← atMark "\x7d" then return none
    match ← peek with
    | .finish => unexpected
    | _ => return some (← R.stmt .list)
  expectMark "\x7d"
  return body

/-- The context inside of a function. -/
def inside (ctx : Context) (kind : FuncKind) (isAsync isGenerator isStrict : Bool) : Context :=
  let ctx := { ctx with
    isStrict := ctx.isStrict || isStrict
    inFunction := true
    canAwait := isAsync
    canYield := isGenerator
    inParameters := false
    inClassBlock := false
    noArguments := ctx.noArguments && kind == .arrow
    canIn := true
    canLeave := false
    canAgain := false
    labels := []
    loopLabels := [] }
  match kind with
  | .arrow => ctx
  | .ordinary => { ctx with superCall := false, superMember := false, newTarget := true }
  | .method | .accessor | .baseConstructor =>
    { ctx with superCall := false, superMember := true, newTarget := true }
  | .derivedConstructor => { ctx with superCall := true, superMember := true, newTarget := true }

/-- The names of parameters. -/
def parameterNames (params : List Pattern) (rest : Option Pattern) : List String :=
  params.flatMap Pattern.names ++ (match rest with | some p => p.names | none => [])

/-- Refuses parameters and a body that declare a name twice, and a body that makes itself strict
behind parameters that are more than names. -/
def checkBody (ctx : Context) (kind : FuncKind) (isStrict : Bool) (params : List Pattern)
    (rest : Option Pattern) (body : List Stmt) : Parse Unit := do
  let names := parameterNames params rest
  let simple := rest.isNone && params.all fun p => match p with
    | .target _ => true
    | _ => false
  if isStrict && !simple then throw (.misplaced "use strict")
  if isStrict && names.any (fun n => n == "eval" || n == "arguments") then throw .badTarget
  if ctx.isStrict || !simple || kind != .ordinary then
    if let some n := repeated? names then throw (.redeclared n)
  if let some n := bodyClash? names body then throw (.redeclared n)

/-- The function with the given parts; `first` is the place of its first token. -/
def makeFunc (info : FuncInfo) (first : Nat) (params : List Pattern) (rest : Option Pattern)
    (body : List Stmt) : Parse Func := do
  let (body, escaping) := if info.isStrict then (body, [])
    else markEscapes (parameterNames params rest) body
  return .mk { info with text := ← textFrom first, length := expectedCount params
                         vars := varNamesAll body ++ escaping } params rest body

/-- What is known of a method without parameters in strict code. -/
def methodInfo : FuncInfo :=
  { name := none, kind := .method, isAsync := false, isGenerator := false, isStrict := true
    text := "", length := 0, ownParams := false, vars := [] }

/-- The place behind the next brackets, where the body of a function starts. -/
def strictBehind : Parse Bool := do
  let ctx ← read
  let s ← get
  let behind := closing ctx.tokens s.pos
  set { s with pos := behind + 1 }
  let found ← atStrictDirective
  set s
  return found

/-- The parameters and the body of a function, from the opening parenthesis on. -/
def funcRest (name : Option String) (kind : FuncKind) (isAsync isGenerator : Bool) (first : Nat) :
    Parse Func := do
  let strict ← strictBehind
  let ownParams ← insideBrackets "=" true
  let outer ← read
  let ctx := inside outer kind isAsync isGenerator strict
  if ctx.isStrict && (name == some "eval" || name == some "arguments") then throw .badTarget
  let waits := (← get).waits
  let (params, rest, body) ← withReader (fun _ => ctx) do
    expectMark "("
    let among (c : Context) : Context := { c with isStrict := outer.isStrict, inParameters := true }
    let (params, rest) ← withReader among (parameters R)
    expectMark "\x7b"
    let body ← statementsToBrace R
    checkBody ctx kind strict params rest body
    return (params, rest, body)
  modify fun s => { s with waits }
  makeFunc { methodInfo with name, kind, isAsync, isGenerator, isStrict := ctx.isStrict, ownParams }
    first params rest body

/-- The body of an arrow function, behind the arrow. -/
def arrowBody (isAsync ownParams : Bool) (first : Nat) (params : List Pattern)
    (rest : Option Pattern) : Parse Func := do
  let outer ← read
  let braced ← atMark "\x7b"
  let strict ← if braced then do
      let s ← get
      advance
      let found ← atStrictDirective
      set s
      pure found
    else pure false
  let ctx := inside outer .arrow isAsync false strict
  let waits := (← get).waits
  let body ← withReader (fun _ => ctx) do
    if braced then
      advance
      let body ← statementsToBrace R
      checkBody ctx .arrow strict params rest body
      return body
    else
      checkBody ctx .arrow false params rest []
      return [.ret (some (← R.assign))]
  modify fun s => { s with waits }
  makeFunc { methodInfo with kind := .arrow, isAsync, isStrict := ctx.isStrict, ownParams } first
    params rest body

/-- An arrow function whose parameters stand in parentheses. -/
def arrowFunc (isAsync : Bool) (first : Nat) : Parse Expr := do
  let waits := (← get).waits
  let ownParams ← insideBrackets "=" true
  expectMark "("
  let among (c : Context) : Context :=
    { c with canAwait := c.canAwait || isAsync, canIn := true, inParameters := true }
  let (params, rest) ← withReader among (parameters R)
  modify fun s => { s with waits }
  expectMark "=>"
  return .func (← arrowBody R isAsync ownParams first params rest)

/-- An arrow function with one parameter without parentheses. -/
def shortArrow (isAsync : Bool) (first : Nat) : Parse Expr := do
  let name ← bindingName
  expectMark "=>"
  return .func (← arrowBody R isAsync false first [.target (.ident name)] none)

/-- A function behind the word `function`; the name of a declaration is required. -/
def functionFrom (isAsync : Bool) (first : Nat) (needsName : Bool) : Parse Func := do
  let isGenerator ← eatMark "*"
  let own (c : Context) : Context :=
    if needsName then c else { c with canAwait := isAsync, canYield := isGenerator }
  let name ← withReader own do
    if needsName || (← atIdentifier) then return some (← bindingName) else return none
  funcRest R name .ordinary isAsync isGenerator first

/-! ### Members of objects and classes -/

/-- What stands in front of a member. -/
structure MemberSigns where
  isAsync : Bool := false
  isGenerator : Bool := false
  kind : MethodKind := .method

/-- Whether nothing stands in front of a member. -/
def MemberSigns.isNone (m : MemberSigns) : Bool :=
  !m.isAsync && !m.isGenerator && m.kind == .method

/-- The words and the star in front of a member.  In a class, `get` and `set` at the end of a line
are fields of that name. -/
def memberSigns (inClass : Bool) : Parse MemberSigns := do
  let next := (← lexeme 1)
  let plain := Token.isMark next.token
  let alone := plain "(" || plain "," || plain ":" || plain "=" || plain "\x7d" || plain ";"
  if ← eatMark "*" then return { isGenerator := true }
  if alone then return {}
  if (← atWord "async") && !next.onNewLine then
    advance
    return { isAsync := true, isGenerator := ← eatMark "*" }
  if inClass && next.onNewLine then return {}
  if ← eatWord "get" then return { kind := .getter }
  if ← eatWord "set" then return { kind := .setter }
  return {}

/-- The kind of function that a member is. -/
def memberKind : MethodKind → FuncKind
  | .method => .method
  | _ => .accessor

/-- The parameters and the body of a method: a getter has no parameter, and a setter one. -/
def methodRest (signs : MemberSigns) (first : Nat) : Parse Func := do
  let f ← funcRest R none (memberKind signs.kind) signs.isAsync signs.isGenerator first
  let fits := match signs.kind, f with
    | .method, _ => true
    | .getter, .mk _ params rest _ => params.isEmpty && rest.isNone
    | .setter, .mk _ params rest _ => params.length == 1 && rest.isNone
  unless fits do throw (.misplaced ")")
  return f

/-- A member of an object literal. -/
def objectMember : Parse Member := do
  if ← eatMark "..." then return .spread (← R.assign)
  let first := (← get).pos
  let signs ← memberSigns false
  let next := Token.isMark (← lexeme 1).token
  let free ← atIdentifier
  if signs.isNone && free && (next "," || next "\x7d") then
    let name ← identifier
    return .value (.static (Str.ofString name)) (.ident name)
  let isWord := match ← peek with
    | .name .. | .string .. => true
    | _ => false
  let key ← propName R
  if !signs.isNone || (← atMark "(") then
    return .method signs.kind key (← methodRest R signs first)
  expectMark ":"
  let e ← R.assign
  match key with
  | .static s => if isWord && s == Str.ofString "__proto__" then return .proto e
  | _ => pure ()
  return .value key e

/-- The key of a member of a class. -/
def memberKey : Parse PropName := do
  match ← peek with
  | .privateName s =>
    if s == "#constructor" then throw (.misplaced s)
    advance
    return .hidden s
  | _ => propName R

/-- The value of a field, as a method that computes it. -/
def fieldValue : Parse Func := do
  let first := (← get).pos
  let ctx := { inside (← read) .method false false true with noArguments := true }
  let e ← withReader (fun _ => ctx) R.assign
  makeFunc methodInfo first [] none [.ret (some e)]

/-- A block of a class, behind its brace. -/
def staticBlock (first : Nat) : Parse ClassMember := do
  let ctx :=
    { inside (← read) .method false false true with noArguments := true, inClassBlock := true }
  let body ← withReader (fun _ => ctx) do
    let body ← statementsToBrace R
    checkBody ctx .method false [] none body
    return body
  return .block (← makeFunc methodInfo first [] none body)

/-- A member of a class: its constructor or another. -/
def classMember (derived : Bool) : Parse (Option Func ⊕ ClassMember) := do
  let next := Token.isMark (← lexeme 1).token
  let isStatic ←
    if (← atWord "static") && !(next "(" || next "=" || next ";" || next "\x7d") then do
      advance
      pure true
    else pure false
  let first := (← get).pos
  if isStatic then
    if ← eatMark "\x7b" then return .inr (← staticBlock R first)
  let signs ← memberSigns true
  let named (word : String) : Parse Bool := do
    match ← peek with
    | .name s _ => return s == word
    | .string s _ => return s == Str.ofString word
    | _ => return false
  let isCtor := !isStatic && (← named "constructor")
  if isStatic && (← named "prototype") then throw (.misplaced "prototype")
  let key ← memberKey R
  if ← atMark "(" then
    if isCtor then
      unless signs.isNone do throw (.misplaced "constructor")
      let ctorKind := if derived then FuncKind.derivedConstructor else .baseConstructor
      return .inl (some (← funcRest R none ctorKind false false first))
    return .inr (.method isStatic signs.kind key (← methodRest R signs first))
  unless signs.isNone do unexpected
  match key with
  | .static s =>
    if s == Str.ofString "constructor" || s == Str.ofString "prototype" then
      throw (.misplaced s.toStringLossy)
  | _ => pure ()
  let init ← if ← eatMark "=" then pure (some (← fieldValue R)) else pure none
  endStatement
  return .inr (.field isStatic key init)

/-- The private names that a member of a class declares: with what it is, if it is one half of an
accessor, and whether it is static. -/
def hiddenName? : ClassMember → Option (String × Option MethodKind × Bool)
  | .method isStatic kind (.hidden name) _ =>
    some (name, if kind == .method then none else some kind, isStatic)
  | .field isStatic (.hidden name) _ => some (name, none, isStatic)
  | _ => none

/-- The private name that is declared twice, other than by the two halves of an accessor. -/
def repeatedHidden? : List (String × Option MethodKind × Bool) → Option String
  | [] => none
  | (name, half, isStatic) :: rest =>
    let same := rest.filter fun d => d.1 == name
    match half, same with
    | _, [] => repeatedHidden? rest
    | some a, [(_, some b, other)] =>
      if a != b && isStatic == other then repeatedHidden? rest else some name
    | _, _ => some name

/-- The body of a class behind its opening brace. -/
def classBody (derived : Bool) : Parse (List Func × List ClassMember) := do
  let outer := (← get).hidden
  modify fun s => { s with hidden := [] }
  let members ← many do
    if ← eatMark "\x7d" then return none
    if ← eatMark ";" then return some none
    return some (some (← classMember R derived))
  let members := members.filterMap id
  let ctors := members.filterMap fun m => match m with
    | .inl f => f
    | .inr _ => none
  let others := members.filterMap fun m => match m with
    | .inl _ => none
    | .inr x => some x
  if 1 < ctors.length then throw (.redeclared "constructor")
  let declared := others.filterMap hiddenName?
  if let some name := repeatedHidden? declared then throw (.redeclared name)
  modify fun s =>
    { s with hidden := outer ++ s.hidden.filter fun n => !(declared.map (·.1)).contains n }
  return (ctors, others)

/-- A class behind the word `class`. -/
def classFrom (first : Nat) (needsName : Bool) : Parse Class := do
  withReader (fun c => { c with isStrict := true, canIn := true }) do
    let named ← if needsName then pure true else pure ((← atIdentifier) && !(← atWord "extends"))
    let name ← if named then pure (some (← bindingName)) else pure none
    let parent ← if ← eatWord "extends" then pure (some (← R.operand)) else pure none
    expectMark "\x7b"
    let (ctors, members) ← classBody R parent.isSome
    return .mk name (← textFrom first) parent ctors.head? members

/-! ### Primary expressions -/

/-- The arguments of a call, behind the opening parenthesis. -/
def arguments : Parse (List Item) :=
  withIn <| commaList ")" do
    if ← eatMark "..." then return .spread (← R.assign) else return .one (← R.assign)

/-- The items of an array literal, behind the opening bracket. -/
def arrayItems : Parse (List Item) := do
  let items ← withIn <| many do
    if ← atMark "]" then return none
    if ← eatMark "," then return some .hole
    let item ← if ← eatMark "..." then pure (Item.spread (← R.assign)) else pure (.one (← R.assign))
    unless ← atMark "]" do expectMark ","
    return some item
  expectMark "]"
  return items

/-- The parts of a template behind its first piece. -/
def templateParts : Parse (List (Expr × Str)) := do
  let rec go : Nat → Parse (List (Expr × Str))
    | 0 => unexpected
    | fuel + 1 => do
      let e ← R.expr
      match ← peek with
      | .template (some s) _ false isLast =>
        advance
        if isLast then return [(e, s)] else return (e, s) :: (← go fuel)
      | _ => unexpected
  withIn (go (← read).tokens.size)

/-- A template behind the function `tag`. -/
def taggedTemplate (tag : Expr) : Parse Expr := do
  let rec go : Nat → Parse (List (Expr × Option Str × Str))
    | 0 => unexpected
    | fuel + 1 => do
      let e ← R.expr
      match ← peek with
      | .template cooked raw false isLast =>
        advance
        if isLast then return [(e, cooked, raw)] else return (e, cooked, raw) :: (← go fuel)
      | _ => unexpected
  match ← peek with
  | .template cooked raw true isLast =>
    advance
    let rest ← if isLast then pure [] else withIn (go (← read).tokens.size)
    let site := (← get).sites
    modify fun s => { s with sites := site + 1 }
    return .tagged tag site ((cooked, raw) :: rest.map (·.2)) (rest.map (·.1))
  | _ => unexpected

/-- What `import` starts inside of an expression, behind the word. -/
def importExpr : Parse Expr := do
  if ← eatMark "(" then
    let e ← withIn R.assign
    discard (eatMark ",")
    expectMark ")"
    return .importCall e
  else if ← eatMark "." then
    expectWord "meta"
    unless (← read).isModule do throw (.misplaced "import.meta")
    return .importMeta
  else unexpected

/-- What `super` starts, behind the word. -/
def superExpr : Parse Expr := do
  let ctx ← read
  if ← eatMark "(" then
    unless ctx.superCall do throw (.misplaced "super")
    return .superCall (← arguments R)
  unless ctx.superMember do throw (.misplaced "super")
  if ← eatMark "." then return .superDot (← anyWord)
  expectMark "["
  let key ← withIn R.expr
  expectMark "]"
  return .superIndex key

/-- An expression that a word starts. -/
def wordExpr (word : String) : Parse (Option Expr) := do
  let first := (← get).pos
  match word with
  | "this" => advance; return some .this
  | "null" => advance; return some (.lit .null)
  | "true" => advance; return some (.lit (.bool true))
  | "false" => advance; return some (.lit (.bool false))
  | "function" =>
    advance
    return some (.func (← functionFrom R false first false))
  | "class" =>
    advance
    return some (.klass (← classFrom R first false))
  | "super" => advance; return some (← superExpr R)
  | "import" => advance; return some (← importExpr R)
  | "async" =>
    let next ← lexeme 1
    if Token.isWord next.token "function" && !next.onNewLine then
      advance
      advance
      return some (.func (← functionFrom R true first false))
    return none
  | _ => return none

/-- An expression without operators. -/
def primary : Parse Expr := do
  if (← atMark "[") || (← atMark "\x7b") then
    if Token.isMark (← behindBrackets 0).token "=" then
      let target ← R.pattern false
      expectMark "="
      return .assign target (← withIn R.assign)
  match ← peek with
  | .number x isOld =>
    refuseOld isOld
    advance
    return .lit (.number x)
  | .bigint n => advance; return .lit (.bigint n)
  | .string s octal =>
    refuseOld octal
    advance
    return .lit (.string s)
  | .template (some s) _ true isLast =>
    advance
    if isLast then return .template s [] else return .template s (← templateParts R)
  | .name s escaped =>
    if !escaped then
      if let some e ← wordExpr R s then return e
    if s == "arguments" && (← read).noArguments then throw (.misplaced s)
    return .ident (← identifier)
  | .punct "(" =>
    advance
    let e ← withIn R.expr
    expectMark ")"
    return ← grouped e
  | .punct "[" => advance; return .array (← arrayItems R)
  | .punct s =>
    if s == "\x7b" then
      advance
      let members ← withIn (commaList "\x7d" (objectMember R))
      let protos := members.filter fun m => match m with
        | .proto _ => true
        | _ => false
      if 1 < protos.length then throw (.redeclared "__proto__")
      return .object members
    else unexpected
  | _ => unexpected
where
  /-- A variable in parentheses that is assigned to keeps them. -/
  grouped (e : Expr) : Parse Expr := do
    let t ← peek
    let assigned := ["=", "&&=", "||=", "??="].any (Token.isMark t)
    match e with
    | .ident _ => return if assigned then .group e else e
    | e => return e

/-! ### Calls and members -/

/-- What follows a primary expression: an expression around `e`, and whether it has an optional
link; nothing when `e` is all. -/
def link (calls isOptional : Bool) (e : Expr) : Parse (Option (Expr × Bool)) := do
  if ← eatMark "." then return some (← member e false, false)
  if ← eatMark "[" then
    let key ← withIn R.expr
    expectMark "]"
    return some (.index e key false, false)
  if let .template _ _ true _ ← peek then
    if isOptional then unexpected
    return some (← taggedTemplate R e, false)
  if calls then
    if ← eatMark "(" then return some (.call e (← arguments R) false, false)
  if ← eatMark "?." then
    if calls then
      if ← eatMark "(" then return some (.call e (← arguments R) true, true)
    if ← eatMark "[" then
      let key ← withIn R.expr
      expectMark "]"
      return some (.index e key true, true)
    if let .template .. ← peek then unexpected
    return some (← member e true, true)
  return none
where
  /-- The member of `e` that is named next. -/
  member (e : Expr) (optional : Bool) : Parse Expr := do
    match ← peek with
    | .privateName name =>
      advance
      modify fun s => { s with hidden := s.hidden ++ [name] }
      return .hiddenDot e name optional
    | _ => return .dot e (← anyWord) optional

/-- All links behind `e`. -/
def links (calls : Bool) : Nat → Expr → Bool → Parse Expr
  | 0, _, _ => unexpected
  | fuel + 1, e, optional => do
    match ← link R calls optional e with
    | some (e, opt) => links calls fuel e (optional || opt)
    | none => return if optional then .chain e else e

/-- The callee of `new`, behind the word. -/
def newCallee (nested : Parse Expr) : Parse Expr := do
  let first ← if ← atWord "new" then nested else primary R
  match first with
  | .importCall _ => throw (.misplaced "import")
  | _ => links R false (← read).tokens.size first false

/-- An expression that starts with `new`; at most `fuel` of them stand in a row. -/
def newExpr : Nat → Parse Expr
  | 0 => unexpected
  | fuel + 1 => do
    expectWord "new"
    if ← eatMark "." then
      expectWord "target"
      unless (← read).newTarget do throw (.misplaced "new.target")
      return .newTarget
    let callee ← newCallee R (newExpr fuel)
    let args ← if ← eatMark "(" then arguments R else pure []
    return .new callee args

/-- An expression with its calls and members. -/
def postfixChain : Parse Expr := do
  let fuel := (← read).tokens.size + 1
  let first ← if ← atWord "new" then newExpr R fuel else primary R
  links R true fuel first false

/-! ### Operators -/

/-- The operator that a mark or word in front of an operand stands for. -/
def unaryOp? : Token → Option UnaryOp
  | .punct "-" => some .minus
  | .punct "+" => some .plus
  | .punct "!" => some .not
  | .punct "~" => some .complement
  | .name "typeof" false => some .typeof
  | .name "void" false => some .void
  | _ => none

/-- An expression with operators in front of it or a step behind it. -/
def unary : Parse Expr := do
  let ctx ← read
  let t ← peek
  if let some op := unaryOp? t then
    advance
    return .unary op (← R.unary)
  if ← eatWord "delete" then
    let e ← R.unary
    match e with
    | .ident name => if ctx.isStrict then throw (.misplaced name)
    | .hiddenDot .. | .chain (.hiddenDot ..) => throw .badTarget
    | _ => pure ()
    return .delete e
  if Token.isMark t "++" || Token.isMark t "--" then
    advance
    let e ← R.unary
    unless isTarget ctx.isStrict e do throw .badTarget
    return .update (Token.isMark t "++") true e
  if Token.isWord t "await" && (ctx.canAwait || (ctx.isModule && !ctx.inFunction)) then
    if ctx.inParameters then throw (.misplaced "await")
    advance
    unless ctx.inFunction do modify fun s => { s with waits := true }
    return .await (← R.unary)
  let e ← R.operand
  let next ← lexeme 0
  let up := Token.isMark next.token "++"
  if (up || Token.isMark next.token "--") && !next.onNewLine then
    unless isTarget ctx.isStrict e do throw .badTarget
    advance
    return .update up false e
  return e

/-- Whether a token starts an expression with an operator in front. -/
def isUnaryStart (t : Token) : Bool :=
  (unaryOp? t).isSome || Token.isWord t "delete" || Token.isWord t "await"

/-- The operators on two operands with their ranks: a higher rank binds tighter. -/
def binaryOp? (canIn : Bool) : Token → Option (Nat × (BinaryOp ⊕ LogicalOp))
  | .punct s =>
    match s with
    | "??" => some (1, .inr .coalesce)
    | "||" => some (2, .inr .or)
    | "&&" => some (3, .inr .and)
    | "|" => some (4, .inl .bitOr)
    | "^" => some (5, .inl .bitXor)
    | "&" => some (6, .inl .bitAnd)
    | "==" => some (7, .inl .looseEq)
    | "!=" => some (7, .inl .looseNe)
    | "===" => some (7, .inl .strictEq)
    | "!==" => some (7, .inl .strictNe)
    | "<" => some (8, .inl .lt)
    | "<=" => some (8, .inl .le)
    | ">" => some (8, .inl .gt)
    | ">=" => some (8, .inl .ge)
    | "<<" => some (9, .inl .shiftLeft)
    | ">>" => some (9, .inl .shiftRight)
    | ">>>" => some (9, .inl .shiftRightZero)
    | "+" => some (10, .inl .add)
    | "-" => some (10, .inl .sub)
    | "*" => some (11, .inl .mul)
    | "/" => some (11, .inl .div)
    | "%" => some (11, .inl .rem)
    | "**" => some (12, .inl .pow)
    | _ => none
  | .name "instanceof" false => some (8, .inl .instanceOf)
  | .name "in" false => if canIn then some (8, .inl .isIn) else none
  | _ => none

/-- Whether `??` stands beside `&&` or `||`, which is refused without parentheses. -/
def mixes (earlier : Option LogicalOp) (op : LogicalOp) : Bool :=
  match earlier with
  | some e => (e == .coalesce) != (op == .coalesce)
  | none => false

/-- The operators of at least the rank `rank` behind `left`, in which the logical operator
`earlier` is the last. -/
def operators (rank : Nat) : Nat → Option LogicalOp → Expr → Parse Expr
  | 0, _, _ => unexpected
  | fuel + 1, earlier, left => do
    match binaryOp? (← read).canIn (← peek) with
    | some (r, op) =>
      if r < rank then return left
      match op with
      | .inl op =>
        advance
        let right ← R.ranked (if r = 12 then 12 else r + 1)
        operators rank fuel earlier (.binary op left right)
      | .inr op =>
        if mixes earlier op then unexpected
        advance
        let right ← R.ranked (if op == .coalesce then 4 else r + 1)
        operators rank fuel (some op) (.logical op left right)
    | none => return left

/-- An expression made of operators of at least the rank `rank`. -/
def ranked (rank : Nat) : Parse Expr := do
  let fuel := (← read).tokens.size + 1
  let start ← peek
  match start with
  | .privateName name =>
    unless rank ≤ 8 && (← read).canIn && Token.isWord (← lexeme 1).token "in" do unexpected
    advance
    advance
    modify fun s => { s with hidden := s.hidden ++ [name] }
    let e ← R.ranked 9
    if let some (8, _) := binaryOp? true (← peek) then unexpected
    operators R rank fuel none (.hiddenIn name e)
  | _ =>
    let left ← R.unary
    if isUnaryStart start && (← atMark "**") then unexpected
    operators R rank fuel none left

/-- The operator of an assignment. -/
def assignOp? : Token → Option (BinaryOp ⊕ LogicalOp)
  | .punct s =>
    match s with
    | "+=" => some (.inl .add)
    | "-=" => some (.inl .sub)
    | "*=" => some (.inl .mul)
    | "/=" => some (.inl .div)
    | "%=" => some (.inl .rem)
    | "**=" => some (.inl .pow)
    | "<<=" => some (.inl .shiftLeft)
    | ">>=" => some (.inl .shiftRight)
    | ">>>=" => some (.inl .shiftRightZero)
    | "&=" => some (.inl .bitAnd)
    | "|=" => some (.inl .bitOr)
    | "^=" => some (.inl .bitXor)
    | "&&=" => some (.inr .and)
    | "||=" => some (.inr .or)
    | "??=" => some (.inr .coalesce)
    | _ => none
  | _ => none

/-- An arrow function, if one starts here. -/
def arrow? : Parse (Option Expr) := do
  let first := (← get).pos
  let next ← lexeme 1
  if (← atWord "async") && !next.onNewLine then
    if Token.isMark next.token "(" && isArrow (← behindBrackets 1) then
      advance
      return some (← arrowFunc R true first)
    let ctx ← read
    let isName := match next.token with
      | .name s _ => isFree ctx s
      | _ => false
    if isName && isArrow (← lexeme 2) then
      advance
      return some (← shortArrow R true first)
  if (← atMark "(") && isArrow (← behindBrackets 0) then return some (← arrowFunc R false first)
  if (← atIdentifier) && isArrow next then return some (← shortArrow R false first)
  return none

/-- What `yield` starts, behind the word. -/
def yieldExpr : Parse Expr := do
  let l ← lexeme 0
  let ends := [";", ")", "]", "\x7d", ",", ":"].any (Token.isMark l.token)
  if ends || l.onNewLine || (match l.token with | .finish => true | _ => false) then
    return .yield none
  if ← eatMark "*" then return .yieldAll (← R.assign)
  return .yield (some (← R.assign))

/-- An expression without commas. -/
def assign : Parse Expr := do
  if let some e ← arrow? R then return e
  let ctx ← read
  if ctx.canYield && (← atWord "yield") then
    if ctx.inParameters then throw (.misplaced "yield")
    advance
    return ← yieldExpr R
  let left ← R.ranked 0
  if ← eatMark "?" then
    let yes ← withIn R.assign
    expectMark ":"
    return .cond left yes (← R.assign)
  if ← atMark "=" then
    unless isTarget ctx.isStrict left do throw .badTarget
    advance
    return .assign (.target left) (← R.assign)
  if let some op := assignOp? (← peek) then
    unless isTarget ctx.isStrict left do throw .badTarget
    advance
    match op with
    | .inl op => return .assignOp op left (← R.assign)
    | .inr op => return .assignLogical op left (← R.assign)
  return left

/-- Expressions with commas between them. -/
def expr : Parse Expr := do
  let first ← R.assign
  let more ← many do
    if ← eatMark "," then return some (← R.assign) else return none
  return more.foldl .comma first

end ScriptBridge.Script.Parser
