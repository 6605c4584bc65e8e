import ScriptBridge.Script.Tree

/-!
# Declarations and their scopes

Which names a list of statements declares, and which declarations exclude each other.  `let`,
`const`, classes and functions inside blocks belong to the block they stand in; `var` belongs to
the function around it, through all blocks between.  In code that is not strict a function inside
a block is also assigned to a variable of the function around it, when its statement is reached:
`markEscapes` finds those that are.
-/

namespace ScriptBridge.Script

mutual

/-- The names that `var` declares in a statement, outside of functions inside it. -/
def Stmt.varNames : Stmt → List String
  | .decl .var bindings => bindingNames bindings
  | .cond _ yes no => yes.varNames ++ (match no with | some s => s.varNames | none => [])
  | .loop init _ _ body => (match init with | some s => s.varNames | none => []) ++ body.varNames
  | .doWhile body _ => body.varNames
  | .forEach _ kind target _ body =>
    (if kind = some .var then target.names else []) ++ body.varNames
  | .block body => varNamesAll body
  | .attempt body handler finalizer =>
    varNamesAll body
      ++ (match handler with | some (_, h) => varNamesAll h | none => [])
      ++ (match finalizer with | some f => varNamesAll f | none => [])
  | .switch _ cases => varNamesCases cases
  | .labeled _ body => body.varNames
  | _ => []

/-- The names that `var` declares in statements. -/
def varNamesAll : List Stmt → List String
  | [] => []
  | s :: rest => s.varNames ++ varNamesAll rest

/-- The names that `var` declares in the cases of a switch. -/
def varNamesCases : List (Option Expr × List Stmt) → List String
  | [] => []
  | (_, body) :: rest => varNamesAll body ++ varNamesCases rest

end

/-- The statement behind labels. -/
def Stmt.unlabeled : Stmt → Stmt
  | .labeled _ body => body.unlabeled
  | s => s

/-- The names of the functions that statements declare. -/
def functionNames (body : List Stmt) : List String :=
  body.filterMap fun s =>
    match s.unlabeled with
    | .func f _ => f.info.name
    | _ => none

/-- The names that statements declare in their own block. -/
def lexicalNames (body : List Stmt) : List (String × LexicalKind) :=
  body.flatMap fun s => s.unlabeled.lexicalNames

/-- The first name that occurs twice. -/
def repeated? : List String → Option String
  | [] => none
  | n :: rest => if rest.contains n then some n else repeated? rest

/-- A name that a block declares twice.  Functions of one name may repeat outside of strict code. -/
def blockClash? (isStrict : Bool) (body : List Stmt) : Option String :=
  let all := lexicalNames body
  let firm := (all.filter fun e => isStrict || e.2 != .func).map (·.1)
  let functions := (all.filter fun e => e.2 == .func).map (·.1)
  let vars := varNamesAll body
  match repeated? firm with
  | some n => some n
  | none =>
    if isStrict then (all.map (·.1)).find? vars.contains
    else
      match firm.find? fun n => vars.contains n || functions.contains n with
      | some n => some n
      | none => functions.find? vars.contains

/-- A name that the body of a function or a program declares twice: there functions count as
`var`.  `params` are the names of the parameters. -/
def bodyClash? (params : List String) (body : List Stmt) : Option String :=
  let firm := ((lexicalNames body).filter fun e => e.2 != .func).map (·.1)
  let vars := varNamesAll body ++ functionNames body ++ params
  match repeated? firm with
  | some n => some n
  | none => firm.find? vars.contains

/-- A name that a module declares twice: a function may have the name of a variable behind it. -/
def moduleClash? (body : List Stmt) : Option String :=
  (repeated? (functionNames body)).or ((behindVariable [] body).or (bodyClash? [] body))
where
  behindVariable (vars : List String) : List Stmt → Option String
    | [] => none
    | s :: rest =>
      match s.unlabeled with
      | .decl .var bindings => behindVariable (vars ++ bindingNames bindings) rest
      | s => ((functionNames [s]).find? vars.contains).or (behindVariable vars rest)

/-- A name that a script declares twice: a function may have the name of a variable before it. -/
def scriptClash? (body : List Stmt) : Option String :=
  let firm := ((lexicalNames body).filter fun e => e.2 != .func).map (·.1)
  match repeated? firm with
  | some n => some n
  | none => (firm.find? (varNamesAll body).contains).or (behindFunction [] body)
where
  behindFunction (functions : List String) : List Stmt → Option String
    | [] => none
    | s :: rest =>
      let names := s.unlabeled.lexicalNames
      let firm := (names.filter fun e => e.2 != .func).map (·.1)
      let functions := functions ++ (names.filter fun e => e.2 == .func).map (·.1)
      (firm.find? functions.contains).or (behindFunction functions rest)

/-! ### Functions inside blocks -/

/-- The names that the parameter of a handler declares as a block does: those of a pattern. -/
def handlerNames : Option Pattern → List String
  | some (.target _) | none => []
  | some p => p.names

mutual

/-- Marks the functions inside a statement that are assigned to variables, and lists their names.
`taken` are the names that the blocks around have declared before it. -/
def Stmt.marked (taken : List String) : Stmt → Stmt × List String
  | .func f escapes =>
    match f.info.name with
    | some name =>
      if f.info.isAsync || f.info.isGenerator || taken.contains name then (.func f escapes, [])
      else (.func f true, [name])
    | none => (.func f escapes, [])
  | .cond test yes no =>
    let (yes, a) := yes.marked taken
    match no with
    | some no =>
      let (no, b) := no.marked taken
      (.cond test yes (some no), a ++ b)
    | none => (.cond test yes none, a)
  | .loop init test update body =>
    let own := match init with
      | some s => s.lexicalNames.map (·.1)
      | none => []
    let (body, a) := body.marked (own ++ taken)
    (.loop init test update body, a)
  | .doWhile body test =>
    let (body, a) := body.marked taken
    (.doWhile body test, a)
  | .forEach each kind target e body =>
    let own := if kind = some .letVar ∨ kind = some .const then target.names else []
    let (body, a) := body.marked (own ++ taken)
    (.forEach each kind target e body, a)
  | .block body =>
    let (body, a) := markedAll taken body
    (.block body, a)
  | .attempt body handler finalizer =>
    let (body, a) := markedAll taken body
    let (handler, b) := match handler with
      | some (p, h) =>
        let (h, b) := markedAll (handlerNames p ++ taken) h
        (some (p, h), b)
      | none => (none, [])
    let (finalizer, c) := match finalizer with
      | some f =>
        let (f, c) := markedAll taken f
        (some f, c)
      | none => (none, [])
    (.attempt body handler finalizer, a ++ b ++ c)
  | .switch e cases =>
    let (cases, a) := markedCases taken cases
    (.switch e cases, a)
  | .labeled label body =>
    let (body, a) := body.marked taken
    (.labeled label body, a)
  | s => (s, [])

/-- Marks the functions inside the statements of a block. -/
def markedAll (taken : List String) : List Stmt → List Stmt × List String
  | [] => ([], [])
  | s :: rest =>
    let own := s.unlabeled.lexicalNames.map (·.1)
    let (s, a) := s.marked taken
    let (rest, b) := markedAll (own ++ taken) rest
    (s :: rest, a ++ b)

/-- Marks the functions inside the cases of a switch, which are one block. -/
def markedCases (taken : List String) :
    List (Option Expr × List Stmt) → List (Option Expr × List Stmt) × List String
  | [] => ([], [])
  | (test, body) :: rest =>
    let own := (lexicalNames body).map (·.1)
    let (body, a) := markedAll taken body
    let (rest, b) := markedCases (own ++ taken) rest
    ((test, body) :: rest, a ++ b)

end

/-- Marks the functions inside the blocks of a body that are assigned to variables, and lists their
names.  Names of parameters and of what the body declares for itself are left alone. -/
def markEscapes (params : List String) (body : List Stmt) : List Stmt × List String :=
  let firm := ((lexicalNames body).filter fun e => e.2 != .func).map (·.1)
  let marked := body.map fun s =>
    match s.unlabeled with
    | .func .. => (s, [])
    | _ => s.marked (firm ++ params)
  (marked.map (·.1), marked.flatMap (·.2))

end ScriptBridge.Script
