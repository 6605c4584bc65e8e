/-!
# Built-in functions

The names of the functions that the language comes with, sorted by the object they belong to.
-/

namespace ScriptBridge.Script

/-- The kinds of errors that the language makes. -/
inductive ErrorType
  | error | evalError | rangeError | referenceError | syntaxError | typeError | uriError
  | internalError | aggregateError
deriving DecidableEq, Repr

/-- The name of a kind of error. -/
def ErrorType.name : ErrorType → String
  | .error => "Error"
  | .evalError => "EvalError"
  | .rangeError => "RangeError"
  | .referenceError => "ReferenceError"
  | .syntaxError => "SyntaxError"
  | .typeError => "TypeError"
  | .uriError => "URIError"
  | .internalError => "InternalError"
  | .aggregateError => "AggregateError"

/-- Functions of objects in general. -/
inductive ObjectFn
  | make | keys | values | entries | assign | create | freeze | isFrozen | seal | isSealed
  | preventExtensions | isExtensible | defineProperty | defineProperties | getPrototypeOf
  | setPrototypeOf | getOwnPropertyNames | getOwnPropertySymbols | getOwnPropertyDescriptor
  | getOwnPropertyDescriptors | fromEntries | is | hasOwn | groupBy
  | hasOwnProperty | isPrototypeOf | propertyIsEnumerable | toString | toLocaleString | valueOf
  | getProto | setProto | defineGetter | defineSetter | lookupGetter | lookupSetter
deriving DecidableEq, Repr

/-- Functions that do what the syntax of objects does. -/
inductive ReflectFn
  | apply | construct | defineProperty | deleteProperty | get | getOwnPropertyDescriptor
  | getPrototypeOf | has | isExtensible | ownKeys | preventExtensions | set | setPrototypeOf
deriving DecidableEq, Repr

/-- Functions of functions. -/
inductive FunctionFn
  | make (isAsync isGenerator : Bool)
  | prototype | call | apply | bind | toString | hasInstance
  /-- Refuses to be called. -/
  | thrower
deriving DecidableEq, Repr

/-- Functions of arrays. -/
inductive ArrayFn
  | make | isArray | of | from | fromAsync
  | push | pop | shift | unshift | slice | splice | concat | join
  | reverse | indexOf | lastIndexOf | includes | forEach | map | filter | reduce | reduceRight
  | some | every | find | findIndex | findLast | findLastIndex | at | fill | sort | flat | flatMap
  | keys | values | entries | toString | toLocaleString | withItem | toReversed | toSorted
  | toSpliced | copyWithin
deriving DecidableEq, Repr

/-- What an iterator over a collection yields. -/
inductive IterationKind
  | keys | values | entries
deriving DecidableEq, Repr

/-- The elements of markup that a text can be put into. -/
inductive Markup
  | anchor | big | blink | bold | fixed | fontcolor | fontsize | italics | link | small | strike
  | sub | sup
deriving DecidableEq, Repr

namespace Markup

/-- The name of the function that makes an element. -/
def name : Markup → String
  | .anchor => "anchor"
  | .big => "big"
  | .blink => "blink"
  | .bold => "bold"
  | .fixed => "fixed"
  | .fontcolor => "fontcolor"
  | .fontsize => "fontsize"
  | .italics => "italics"
  | .link => "link"
  | .small => "small"
  | .strike => "strike"
  | .sub => "sub"
  | .sup => "sup"

/-- The tag of an element. -/
def tag : Markup → String
  | .anchor | .link => "a"
  | .bold => "b"
  | .fixed => "tt"
  | .fontcolor | .fontsize => "font"
  | .italics => "i"
  | m => m.name

/-- The attribute of an element, if it has one. -/
def attribute? : Markup → Option String
  | .anchor => some "name"
  | .fontcolor => some "color"
  | .fontsize => some "size"
  | .link => some "href"
  | _ => none

end Markup

/-- Functions of texts. -/
inductive StringFn
  | make | fromCharCode | fromCodePoint | raw | charAt | charCodeAt | codePointAt | indexOf
  | lastIndexOf | includes | startsWith | endsWith | slice | substring | substr | toUpperCase
  | toLowerCase | trim | trimStart | trimEnd | split | padStart | padEnd | repeat | concat
  | replace | replaceAll | matchFirst | matchAll | search | isWellFormed | toWellFormed
  | localeCompare | normalize
  | at | toString | iterator
  | markup (m : Markup)
deriving DecidableEq, Repr

/-- Functions of texts that name resources. -/
inductive UriFn
  | encode | encodeComponent | decode | decodeComponent | escape | unescape
deriving DecidableEq, Repr

/-- Functions of numbers. -/
inductive NumberFn
  | make | isInteger | isSafeInteger | isFinite | isNaN | parseInt | parseFloat | toString
  | valueOf | toFixed | toPrecision | toExponential | globalIsNaN | globalIsFinite
deriving DecidableEq, Repr

/-- Functions of other primitive values. -/
inductive PrimitiveFn
  | makeBoolean | booleanToString | booleanValueOf
  | makeSymbol | symbolFor | symbolKeyFor | symbolToString | symbolValueOf | symbolDescription
  | makeBigInt | bigintToString | bigintValueOf | bigintAsUnsigned | bigintAsSigned
deriving DecidableEq, Repr

/-- Functions of promises. -/
inductive PromiseFn
  | make | resolve | reject | all | allSettled | any | race | withResolvers | attempt
  | thenFn | catchFn | finallyFn
  /-- Settles the captured promise once; the second captured value is the flag. -/
  | resolving | rejecting
  /-- Keeps the functions of a capability that is being made. -/
  | executor
  /-- Receives one result of `all` and its kin. -/
  | allElement | settledFulfilled | settledRejected | anyElement
  /-- The two sides of `finally`, and what they continue with. -/
  | thenFinally | catchFinally | valueThunk | thrower
deriving DecidableEq, Repr

/-- The kinds of collections. -/
inductive CollectionKind
  | map | set | weakMap | weakSet
deriving DecidableEq, Repr, Inhabited

/-- The name of a kind of collections. -/
def CollectionKind.name : CollectionKind → String
  | .map => "Map"
  | .set => "Set"
  | .weakMap => "WeakMap"
  | .weakSet => "WeakSet"

/-- Functions of maps and sets. -/
inductive CollectionFn
  | make (kind : CollectionKind)
  /-- The functions of collections of a kind. -/
  | get (kind : CollectionKind) | set (kind : CollectionKind) | add (kind : CollectionKind)
  | has (kind : CollectionKind) | delete (kind : CollectionKind) | clear (kind : CollectionKind)
  | size (kind : CollectionKind) | forEach (kind : CollectionKind)
  | iterate (kind : CollectionKind) (what : IterationKind)
  | groupBy | union | intersection | difference | symmetricDifference | isSubsetOf | isSupersetOf
  | isDisjointFrom
deriving DecidableEq, Repr

/-- Functions of iterators. -/
inductive IteratorFn
  | make
  /-- The steps of the language's own iterators over arrays, maps, sets and texts. -/
  | ownNext (word : String)
  | self | from | wrapNext | wrapReturn
  | map | filter | take | drop | flatMap | helperNext | helperReturn
  | reduce | toArray | forEach | some | every | find
  | getTag | setTag | getConstructor | setConstructor
deriving DecidableEq, Repr

/-- Functions of generators and of async iterators. -/
inductive GeneratorFn
  | next | fail | finish
  | asyncNext | asyncFail | asyncFinish
  /-- Ends the wait for the value that an async generator returns. -/
  | returnMet | returnFailed
  /-- The steps of an async iterator over what another yields, and what unwraps a value. -/
  | fromSyncNext | fromSyncFail | fromSyncFinish
  | unwrap (done : Bool)
deriving DecidableEq, Repr

/-- Functions of numbers as such. -/
inductive MathFn
  | abs | floor | ceil | round | trunc | sign | sqrt | max | min | pow | acos | asin | atan | atan2
  | cos | exp | log | sin | tan | cosh | sinh | tanh | acosh | asinh | atanh | expm1 | log1p | log2
  | log10 | cbrt | hypot | random | fround | imul | clz32
deriving DecidableEq, Repr

/-- Functions of errors. -/
inductive ErrorFn
  | make (type : ErrorType)
  | toString | captureStackTrace
deriving DecidableEq, Repr

/-- A function that the language comes with. -/
inductive Native
  | object (f : ObjectFn)
  | reflect (f : ReflectFn)
  | function (f : FunctionFn)
  | array (f : ArrayFn)
  | string (f : StringFn)
  | uri (f : UriFn)
  | number (f : NumberFn)
  | primitive (f : PrimitiveFn)
  | promise (f : PromiseFn)
  | collection (f : CollectionFn)
  | iterator (f : IteratorFn)
  | generator (f : GeneratorFn)
  | math (f : MathFn)
  | error (f : ErrorFn)
  | jsonParse
  | jsonStringify
  /-- The constructor itself that it is asked of. -/
  | species
  | eval
  | queueMicrotask
  /-- The time since the engine was started. -/
  | now
  /-- Settles the evaluation of the module that is the captured number. -/
  | moduleDone
  | moduleFailed
  /-- Settles an import with the namespace of the captured module, or with the failure. -/
  | importDone
  | importFailed
  /-- Writes a line for the host. -/
  | print
  /-- Starts an async call of the host. -/
  | hostAsync
  /-- The function that the host installed under this number. -/
  | host (id : Nat) (arity : Nat)
deriving DecidableEq, Repr

/-- Whether calls of the function show up in stack traces: those that leave the language do not,
nor do the functions that settle promises; an error leaves its own making out. -/
def Native.isTraced : Native → Bool
  | .print | .hostAsync | .host .. | .error (.make _) => false
  | .moduleDone | .moduleFailed | .importDone | .importFailed => false
  | .generator f => match f with
    | .returnMet | .returnFailed | .unwrap _ => false
    | _ => true
  | .promise f => match f with
    | .resolving | .rejecting | .executor | .allElement | .settledFulfilled | .settledRejected
    | .anyElement | .thenFinally | .catchFinally | .valueThunk | .thrower => false
    | _ => true
  | _ => true

/-- Whether `new` can be used with the function. -/
def Native.isConstructor : Native → Bool
  | .object .make | .function (.make ..) | .array .make | .string .make | .number .make => true
  | .primitive .makeBoolean | .primitive .makeSymbol | .primitive .makeBigInt => true
  | .promise .make | .iterator .make | .collection (.make _) | .error (.make _) => true
  | _ => false

end ScriptBridge.Script
