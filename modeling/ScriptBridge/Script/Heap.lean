import ScriptBridge.Script.Native
import ScriptBridge.Script.Tree
import ScriptBridge.Script.Value

/-!
# The heap

Objects, scopes and symbols live on a heap and are named by their places; nothing is ever moved or
removed.  A `World` is the heap with the modules and the jobs that wait.
-/

namespace ScriptBridge.Script

/-! ### Properties -/

/-- What a property holds. -/
inductive Holding
  | data (v : Value)
  /-- The functions that read and write it. -/
  | accessor (get set : Value)
  /-- The variable of a module, which has no value yet. -/
  | unset (name : String)
  /-- The parameter of a call, in its object of arguments. -/
  | parameter (scope : ScopeRef) (name : String)
deriving Inhabited

/-- A property. -/
structure Property where
  holding : Holding
  writable : Bool
  enumerable : Bool
  configurable : Bool
deriving Inhabited

namespace Property

/-- A property as an assignment makes it. -/
def plain (v : Value) : Property := ⟨.data v, true, true, true⟩

/-- A property as the language makes it for its own methods. -/
def hidden (v : Value) : Property := ⟨.data v, true, false, true⟩

/-- A property that never changes. -/
def fixed (v : Value) : Property := ⟨.data v, false, false, false⟩

/-- Whether the property holds a value. -/
def isData (p : Property) : Bool :=
  match p.holding with
  | .accessor .. => false
  | _ => true

end Property

/-! ### Objects -/

/-- Where code runs: the innermost scope, and the file and the program that the code comes from. -/
structure Env where
  scope : ScopeRef
  file : String
  isStrict : Bool
  /-- The number of the program, of all that were run. -/
  program : Nat
deriving Inhabited

/-- A field that a constructor makes: its key and the method that computes its value, if any. -/
structure ClassField where
  key : Key
  init : Value

/-- What a class adds to a new object: the mark of its private methods, if it has any, and its
fields. -/
structure Additions where
  brand : Option Nat := none
  fields : List ClassField := []

/-- What the name of a private member stands for. -/
inductive HiddenMember
  /-- A field, under its own key. -/
  | field (id : Nat)
  /-- A method of the objects with a mark. -/
  | method (brand : Nat) (f : Value)
  /-- The functions that read and write for the objects with a mark. -/
  | accessor (brand : Nat) (get set : Option Value)

/-- A function with the scope it was made in. -/
structure Closure where
  func : Func
  env : Env
  /-- The object whose prototype `super` looks in. -/
  home : Option Ref
  /-- What it adds to the objects that it makes, if it is the constructor of a class. -/
  additions : Additions
  /-- Whether it is the constructor of a class. -/
  isClass : Bool

/-- A promise with the functions that settle it. -/
structure Capability where
  promise : Value
  resolve : Value
  reject : Value
deriving Inhabited

/-- What happens when a promise is settled. -/
inductive Handler
  /-- A function is called; a value that is none passes the settlement on. -/
  | call (f : Value)
  /-- The code that waits under this number goes on. -/
  | resume (id : Nat)

/-- A handler, and the promise that its outcome settles. -/
structure Reaction where
  capability : Option Capability
  handler : Handler

/-- The state of a promise. -/
inductive PromiseState
  | pending (fulfill reject : List Reaction)
  | fulfilled (v : Value)
  | rejected (v : Value)

/-- Whether a promise is not pending any more. -/
def PromiseState.isSettled : PromiseState → Bool
  | .pending .. => false
  | .fulfilled _ | .rejected _ => true

/-- What is left to iterate over. -/
inductive Iteration
  /-- The items of an array or a similar object from a place on. -/
  | items (source : Value) (next : Nat) (kind : IterationKind)
  /-- The entries of a map or a set from a place on. -/
  | entries (source : Ref) (next : Nat) (kind : IterationKind)
  /-- The characters of a text. -/
  | characters (rest : List Str)
  /-- What a function makes of the items that another iterator yields by `next`, of which `count`
  have passed or are still to pass; `inner` yields what was made of the last of them. -/
  | helped (how : IteratorFn) (source next f : Value) (count : Nat) (inner : Option Value)
  /-- What another iterator yields by `next`. -/
  | wrapped (source next : Value)
  | done

/-- How code that was put aside is to go on. -/
inductive Resumption
  | next
  /-- As if a value was thrown where it stopped. -/
  | fail
  /-- As if it returned where it stopped. -/
  | finish
deriving DecidableEq, Repr

/-- How far a generator has come. -/
inductive GeneratorState
  | fresh (body : List Stmt) (env : Env)
  /-- It was put aside under a number. -/
  | paused (id : Nat)
  | running
  /-- An async one waits for the value that it returns. -/
  | returning
  | finished

/-- What an async generator was asked for. -/
structure GeneratorDemand where
  how : Resumption
  value : Value
  capability : Capability

/-- What an object is. -/
inductive ObjectKind
  | plain
  /-- An array of the given length; `fixed` if the length cannot change. -/
  | array (length : Nat) (fixed : Bool)
  | function (c : Closure)
  /-- A built-in function with the values it captures. -/
  | native (code : Native) (captured : List Value)
  | bound (target this : Value) (args : List Value)
  | error
  /-- An object around a primitive value. -/
  | boxed (v : Value)
  | promise (state : PromiseState)
  /-- What the two functions that settle a promise share, and whether one of them was called. -/
  | settler (promise : Ref) (used : Bool)
  /-- The entries of a map or a set, with holes where some were removed. -/
  | collection (type : CollectionKind) (entries : Array (Option (Value × Value)))
  | iterator (state : Iteration)
  | generator (state : GeneratorState)
  | asyncGenerator (state : GeneratorState) (demands : List GeneratorDemand)
  /-- An async iterator over what another yields by its method `next`. -/
  | asyncFromSync (iterator next : Value)
  /-- What is thrown through code that is to return; no program sees it. -/
  | returning (v : Value)
  /-- The namespace of a module. -/
  | namespace (module : Nat) (exports : List (Str × ScopeRef × String))
  /-- A place for a value that built-in functions share. -/
  | cell (v : Value)
  | arguments
deriving Inhabited

/-- An object. -/
structure Object where
  kind : ObjectKind
  proto : Option Ref
  extensible : Bool := true
  /-- The properties in the order in which they were made. -/
  props : Array (Key × Property) := #[]
deriving Inhabited

namespace Object

/-- Where the property under a key is.  The items of an array that was filled in order are at their
own places, and none is behind its length. -/
def position? (o : Object) (k : Key) : Option Nat :=
  let search (_ : Unit) := o.props.findIdx? fun p => p.1 == k
  match o.kind, k with
  | .array n _, .index i =>
    if n ≤ i then none
    else if (o.props[i]?).any fun p => p.1 == k then some i
    else search ()
  | _, _ => search ()

/-- The property that an object has of its own under a key. -/
def find? (o : Object) (k : Key) : Option Property :=
  (o.position? k).bind fun i => (o.props[i]?).map (·.2)

/-- The object with a property replaced, or made. -/
def put (o : Object) (k : Key) (p : Property) : Object :=
  match o.position? k with
  | some i => { o with props := o.props.setIfInBounds i (k, p) }
  | none => { o with props := o.props.push (k, p) }

/-- The object without a property. -/
def erase (o : Object) (k : Key) : Object := { o with props := o.props.filter fun p => p.1 != k }

/-- Whether `new` can be used with an object. -/
def isConstructor (o : Object) : Bool :=
  match o.kind with
  | .function c => c.func.isConstructor
  | .native code _ => code.isConstructor
  | .bound .. => true
  | _ => false

/-- Whether an object can be called. -/
def isCallable (o : Object) : Bool :=
  match o.kind with
  | .function _ | .native .. | .bound .. => true
  | _ => false

/-- Whether an object is an error. -/
def isError (o : Object) : Bool :=
  match o.kind with
  | .error => true
  | _ => false

end Object

/-! ### Scopes -/

/-- A variable. -/
structure Binding where
  name : String
  /-- Its value, once it has one. -/
  value : Option Value
  /-- Whether it cannot be assigned to. -/
  isConst : Bool := false
  /-- Whether an assignment to it is passed over in code that is not strict. -/
  isQuiet : Bool := false
  /-- The variable of another module that it stands for. -/
  link : Option (ScopeRef × String) := none
deriving Inhabited

/-- What a call of a function knows of itself. -/
structure Activation where
  /-- The value of `this`, once it has one. -/
  this : Option Value
  func : Option Ref
  newTarget : Value
  home : Option Ref
  args : List Value
  /-- The generator whose body the call runs. -/
  generator : Option Ref := none
deriving Inhabited

/-- A scope. -/
structure Scope where
  vars : List Binding := []
  parent : Option ScopeRef
  /-- The call that the scope is the outermost one of. -/
  activation : Option Activation := none
  /-- Whether `var` declares variables in this scope. -/
  holdsVars : Bool := false
  /-- The private members that a class declares. -/
  hidden : List (String × HiddenMember) := []
deriving Inhabited

namespace Scope

/-- The variable of a name. -/
def find? (s : Scope) (name : String) : Option Binding := s.vars.find? fun b => b.name == name

/-- The scope with a variable replaced, or made. -/
def put (s : Scope) (b : Binding) : Scope :=
  if s.vars.any fun c => c.name == b.name then
    { s with vars := s.vars.map fun c => if c.name == b.name then b else c }
  else { s with vars := s.vars ++ [b] }

end Scope

/-! ### Modules and jobs -/

/-- Why a module cannot be had: the error that is thrown for it. -/
structure ModuleFault where
  type : ErrorType
  message : String
deriving DecidableEq, Repr

/-- A module that the engine knows. -/
structure ModuleRecord where
  name : String
  program : Program
  /-- The modules it asks for, once they are looked for. -/
  requested : Option (List Nat) := none
  isLinked : Bool := false
  /-- Why it is never linked, if it was given up. -/
  fault : Option ModuleFault := none
  /-- Whether the engine has dropped it, so that its name is free again. -/
  isDropped : Bool := false
deriving Inhabited

/-- The modules that the engine knows by their numbers, and where it finds others. -/
structure ModuleTable where
  records : Array ModuleRecord := #[]
  /-- The modules whose bodies were started, the last one first. -/
  started : List Nat := []
  /-- The payloads that imports can be served from, by name. -/
  store : List (String × List UInt8) := []
  /-- The names of the modules that imports brought in. -/
  imported : List String := []
deriving Inhabited

/-- How far the evaluation of a module has come. -/
inductive ModuleStatus
  | idle
  /-- Its body, or that of a module below it, is running. -/
  | evaluating
  /-- It waits for an async part to end. -/
  | evaluatingAsync
  | evaluated
deriving DecidableEq, Repr, Inhabited

/-- What a module has on the heap, and its evaluation. -/
structure ModuleState where
  /-- The scope of its variables. -/
  scope : ScopeRef := 0
  /-- The number of its program, of all that were run. -/
  programNumber : Nat := 0
  namespaceObject : Option Ref := none
  metaObject : Option Ref := none
  status : ModuleStatus := .idle
  /-- What its evaluation threw. -/
  failure : Option Value := none
  /-- The first module of the cycle it belongs to. -/
  cycleRoot : Option Nat := none
  /-- The promise for its evaluation, if it was evaluated for its own sake. -/
  promise : Option Capability := none
  /-- Its turn among the async modules. -/
  asyncOrder : Option Nat := none
  /-- The modules that wait for it. -/
  asyncParents : List Nat := []
  /-- The number of async modules that it waits for. -/
  pendingAsync : Nat := 0
  /-- The turn in which the evaluation came to it, and the earliest turn it leads back to. -/
  visit : Nat := 0
  ancestor : Nat := 0
deriving Inhabited

/-- Something to do when nothing else runs. -/
inductive Job
  /-- A settled promise runs a handler. -/
  | reaction (r : Reaction) (rejected : Bool) (v : Value)
  /-- The promise of a settler follows an object with a method `then`. -/
  | follow (settler : Ref) (thenable method : Value)
  | microtask (f : Value)
  /-- A module is imported by running code of the file `base`. -/
  | importModule (base : String) (specifier : Value) (capability : Capability)

/-- All that scripts share. -/
structure World where
  objects : Array Object
  scopes : Array Scope
  /-- The descriptions of the symbols. -/
  symbols : Array (Option Str)
  /-- The symbols that texts stand for everywhere. -/
  sharedSymbols : List (Str × Nat) := []
  /-- The states of modules, by the numbers of these. -/
  modules : Array ModuleState := #[]
  jobs : List Job := []
  /-- The next number for code that waits. -/
  nextWait : Nat := 0
  /-- The next turn of an async module. -/
  nextAsync : Nat := 0
  /-- The next number of a program. -/
  nextProgram : Nat := 0
  /-- The objects for the templates that were evaluated behind functions, by their programs and
  their numbers. -/
  templates : List ((Nat × Nat) × Ref) := []
  /-- What the next random number is made of. -/
  seed : Nat := 1
deriving Inhabited

end ScriptBridge.Script
