import ScriptBridge.Text.Units

/-!
# Programs of the script language

The tree of a program.  Names are texts, because an identifier never holds half a surrogate pair;
property keys and text literals are script strings.
-/

namespace ScriptBridge.Script

/-- A literal. -/
inductive Literal
  | null
  | bool (b : Bool)
  | number (x : Float)
  | bigint (n : Nat)
  | string (s : Str)
deriving Inhabited

/-- An operator on one operand. -/
inductive UnaryOp
  | minus | plus | not | complement | typeof | void
deriving DecidableEq, Repr

/-- An operator on two operands. -/
inductive BinaryOp
  | add | sub | mul | div | rem | pow
  | looseEq | looseNe | strictEq | strictNe | lt | le | gt | ge
  | shiftLeft | shiftRight | shiftRightZero | bitAnd | bitOr | bitXor
  | isIn | instanceOf
deriving DecidableEq, Repr

/-- An operator that may leave its second operand alone. -/
inductive LogicalOp
  | and | or | coalesce
deriving DecidableEq, Repr

/-- How variables are declared. -/
inductive DeclKind
  | var | letVar | const
deriving DecidableEq, Repr

/-- What a function is. -/
inductive FuncKind
  | ordinary
  | arrow
  | method
  /-- A getter or setter. -/
  | accessor
  | baseConstructor
  | derivedConstructor
deriving DecidableEq, Repr, Inhabited

/-- What an accessor does. -/
inductive MethodKind
  | method | getter | setter
deriving DecidableEq, Repr

/-- What a loop over the contents of a value goes through. -/
inductive EachKind
  | keys
  | items
  /-- Items that are waited for. -/
  | awaited
deriving DecidableEq, Repr

/-- What is known of a function before its parameters and its body. -/
structure FuncInfo where
  /-- The name it was written with, if any. -/
  name : Option String
  kind : FuncKind
  isAsync : Bool
  /-- Whether a call makes an iterator that runs the body step by step. -/
  isGenerator : Bool
  isStrict : Bool
  /-- The source text. -/
  text : String
  /-- The number of parameters before the first that may be left out. -/
  length : Nat
  /-- Whether values are computed among its parameters, which then have a scope of their own. -/
  ownParams : Bool
  /-- The names that `var` declares anywhere in its body, and those that functions in blocks give
  to it. -/
  vars : List String
deriving Inhabited

mutual

/-- An expression. -/
inductive Expr
  | lit (l : Literal)
  | ident (name : String)
  | this
  | newTarget
  | importMeta
  | template (head : Str) (parts : List (Expr × Str))
  /-- A template behind a function.  Its pieces stand as their escapes write them, unless one is
  wrong, and as in the source; `site` numbers the templates of a program. -/
  | tagged (tag : Expr) (site : Nat) (pieces : List (Option Str × Str)) (args : List Expr)
  | array (items : List Item)
  | object (members : List Member)
  | func (f : Func)
  | klass (c : Class)
  | unary (op : UnaryOp) (e : Expr)
  | delete (e : Expr)
  /-- `++` or `--`, before or behind its operand. -/
  | update (up isBefore : Bool) (target : Expr)
  | binary (op : BinaryOp) (l r : Expr)
  | logical (op : LogicalOp) (l r : Expr)
  | cond (test yes no : Expr)
  | assign (target : Pattern) (value : Expr)
  | assignOp (op : BinaryOp) (target value : Expr)
  | assignLogical (op : LogicalOp) (target value : Expr)
  | comma (l r : Expr)
  /-- `e.name`; with `optional`, `e?.name`. -/
  | dot (e : Expr) (name : String) (optional : Bool)
  /-- `e.#name`; with `optional`, `e?.#name`. -/
  | hiddenDot (e : Expr) (name : String) (optional : Bool)
  /-- `#name in e`. -/
  | hiddenIn (name : String) (e : Expr)
  /-- `e[key]`; with `optional`, `e?.[key]`. -/
  | index (e key : Expr) (optional : Bool)
  | call (callee : Expr) (args : List Item) (optional : Bool)
  /-- The whole of a chain that has an optional link in it. -/
  | chain (e : Expr)
  | superDot (name : String)
  | superIndex (key : Expr)
  | superCall (args : List Item)
  | new (callee : Expr) (args : List Item)
  | await (e : Expr)
  | yield (e : Option Expr)
  /-- `yield*`. -/
  | yieldAll (e : Expr)
  | importCall (e : Expr)
  /-- An expression where a function without a name gets this one. -/
  | named (name : Str) (e : Expr)
  /-- A variable in parentheses, which gives no name to what is assigned to it. -/
  | group (e : Expr)

/-- An item of an array or of a list of arguments. -/
inductive Item
  | hole
  | one (e : Expr)
  | spread (e : Expr)

/-- The key of a property. -/
inductive PropName
  | static (s : Str)
  | computed (e : Expr)
  /-- The name of a private member, with its sign. -/
  | hidden (name : String)

/-- A member of an object literal. -/
inductive Member
  | value (key : PropName) (e : Expr)
  /-- `__proto__: e`. -/
  | proto (e : Expr)
  | method (kind : MethodKind) (key : PropName) (f : Func)
  | spread (e : Expr)

/-- What a value is bound or assigned to. -/
inductive Pattern
  | target (e : Expr)
  | withDefault (p : Pattern) (e : Expr)
  | array (items : List (Option Pattern)) (rest : Option Pattern)
  | object (fields : List (PropName × Pattern)) (rest : Option Pattern)

/-- A function. -/
inductive Func
  | mk (info : FuncInfo) (params : List Pattern) (rest : Option Pattern) (body : List Stmt)

/-- A class. -/
inductive Class
  | mk (name : Option String) (text : String) (parent : Option Expr) (ctor : Option Func)
    (members : List ClassMember)

/-- A member of a class. -/
inductive ClassMember
  | method (isStatic : Bool) (kind : MethodKind) (key : PropName) (f : Func)
  /-- A field, with a method that computes its value. -/
  | field (isStatic : Bool) (key : PropName) (init : Option Func)
  | block (f : Func)

/-- A statement. -/
inductive Stmt
  | expr (e : Expr)
  | decl (kind : DeclKind) (bindings : List (Pattern × Option Expr))
  /-- A function; `escapes` if it is also assigned to a variable of the function around it. -/
  | func (f : Func) (escapes : Bool)
  | klass (c : Class)
  | ret (e : Option Expr)
  | cond (test : Expr) (yes : Stmt) (no : Option Stmt)
  | loop (init : Option Stmt) (test update : Option Expr) (body : Stmt)
  | doWhile (body : Stmt) (test : Expr)
  /-- `for (kind target of e)` or `in e`. -/
  | forEach (each : EachKind) (kind : Option DeclKind) (target : Pattern) (e : Expr) (body : Stmt)
  | block (body : List Stmt)
  | leave (label : Option String)
  | again (label : Option String)
  | throw (e : Expr)
  | attempt (body : List Stmt) (handler : Option (Option Pattern × List Stmt))
    (finalizer : Option (List Stmt))
  | switch (e : Expr) (cases : List (Option Expr × List Stmt))
  | labeled (label : String) (body : Stmt)
  | empty
  /-- The value that a module exports by default. -/
  | exportDefault (e : Expr)

end

instance : Inhabited Expr := ⟨.this⟩
instance : Inhabited Stmt := ⟨.empty⟩
instance : Inhabited Pattern := ⟨.target .this⟩
instance : Inhabited Func := ⟨.mk default [] none []⟩
instance : Inhabited Class := ⟨.mk none "" none none []⟩

namespace Func

/-- What is known of a function before its parameters and its body. -/
def info : Func → FuncInfo
  | .mk info _ _ _ => info

/-- Whether `new` can be used with a function. -/
def isConstructor (f : Func) : Bool :=
  match f.info.kind with
  | .ordinary => !f.info.isAsync && !f.info.isGenerator
  | .baseConstructor | .derivedConstructor => true
  | _ => false

end Func

/-! ### Declared names -/

mutual

/-- The names that a pattern binds. -/
def Pattern.names : Pattern → List String
  | .target (.ident name) => [name]
  | .target _ => []
  | .withDefault p _ => p.names
  | .array items rest => itemNames items ++ (match rest with | some p => p.names | none => [])
  | .object fields rest => fieldNames fields ++ (match rest with | some p => p.names | none => [])

/-- The names that the items of a pattern bind. -/
def itemNames : List (Option Pattern) → List String
  | [] => []
  | none :: rest => itemNames rest
  | some p :: rest => p.names ++ itemNames rest

/-- The names that the fields of a pattern bind. -/
def fieldNames : List (PropName × Pattern) → List String
  | [] => []
  | (_, p) :: rest => p.names ++ fieldNames rest

end

/-- The names that declarations bind. -/
def bindingNames (bindings : List (Pattern × Option Expr)) : List String :=
  bindings.flatMap fun b => b.1.names

/-- How a name is declared in a block. -/
inductive LexicalKind
  | letVar | const | func | klass
deriving DecidableEq, Repr

/-- The names that a statement declares in the block it stands in. -/
def Stmt.lexicalNames : Stmt → List (String × LexicalKind)
  | .decl .letVar bindings => (bindingNames bindings).map (·, .letVar)
  | .decl .const bindings => (bindingNames bindings).map (·, .const)
  | .func f _ => (f.info.name.map (·, LexicalKind.func)).toList
  | .klass (.mk name _ _ _ _) => (name.map (·, LexicalKind.klass)).toList
  | _ => []

/-! ### Modules -/

/-- What one import statement asks of another module. -/
inductive ImportName
  /-- One of its exports. -/
  | named (name : Str)
  /-- Its namespace. -/
  | all
deriving DecidableEq, Repr

/-- A name that an import binds. -/
structure ImportEntry where
  /-- The place of the other module among the requested ones. -/
  source : Nat
  imported : ImportName
  name : String
deriving Repr

/-- A name that a module exports. -/
inductive ExportEntry
  /-- A variable of the module itself. -/
  | own (exported : Str) (name : String)
  /-- An export of another module. -/
  | passed (exported : Str) (source : Nat) (imported : ImportName)
  /-- All exports of another module but the default. -/
  | star (source : Nat)
deriving Repr

/-- A program. -/
structure Program where
  isModule : Bool
  isStrict : Bool
  body : List Stmt
  /-- The names that `var` declares anywhere in the program. -/
  vars : List String
  /-- The modules that are asked for, in order and without repetition. -/
  requests : List Str := []
  imports : List ImportEntry := []
  exports : List ExportEntry := []
  /-- Whether the program waits at its top level. -/
  waits : Bool := false
  /-- The number of templates in it that stand behind functions. -/
  sites : Nat := 0
deriving Inhabited

end ScriptBridge.Script
