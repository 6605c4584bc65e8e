import ScriptBridge.Script.Heap

/-!
# Intrinsic objects

The objects that the language needs to know by name: the prototypes of its own objects, the global
object, and the well-known symbols.  They stand at fixed places of the heap.
-/

namespace ScriptBridge.Script

namespace Intrinsic

/-- The prototype of objects. -/
def objectProto : Ref := 0
/-- The prototype of functions. -/
def functionProto : Ref := 1
/-- The prototype of arrays. -/
def arrayProto : Ref := 2
/-- The prototype of texts. -/
def stringProto : Ref := 3
/-- The prototype of numbers. -/
def numberProto : Ref := 4
/-- The prototype of truth values. -/
def booleanProto : Ref := 5
/-- The prototype of symbols. -/
def symbolProto : Ref := 6
/-- The prototype of large integers. -/
def bigintProto : Ref := 7
/-- The prototype of promises. -/
def promiseProto : Ref := 8
/-- The prototype of iterators. -/
def iteratorProto : Ref := 9
/-- The prototype of maps. -/
def mapProto : Ref := 10
/-- The prototype of sets. -/
def setProto : Ref := 11
/-- The prototype of maps with weak keys. -/
def weakMapProto : Ref := 12
/-- The prototype of sets with weak members. -/
def weakSetProto : Ref := 13
/-- The global object. -/
def global : Ref := 14
/-- The constructor of promises. -/
def promise : Ref := 15
/-- The prototype of async functions. -/
def asyncFunctionProto : Ref := 16

/-- The prototype of a kind of errors. -/
def errorProto : ErrorType → Ref
  | .error => 17
  | .evalError => 18
  | .rangeError => 19
  | .referenceError => 20
  | .syntaxError => 21
  | .typeError => 22
  | .uriError => 23
  | .internalError => 24
  | .aggregateError => 25

/-- The function that refuses to be called. -/
def thrower : Ref := 26
/-- The constructor of arrays. -/
def array : Ref := 27
/-- The function that runs a text as a program. -/
def eval : Ref := 28
/-- The prototype of iterators over arrays. -/
def arrayIteratorProto : Ref := 29
/-- The prototype of iterators over maps. -/
def mapIteratorProto : Ref := 30
/-- The prototype of iterators over sets. -/
def setIteratorProto : Ref := 31
/-- The prototype of iterators over texts. -/
def stringIteratorProto : Ref := 32
/-- The prototype of functions that make generators. -/
def generatorFunctionProto : Ref := 33
/-- The prototype of generators. -/
def generatorProto : Ref := 34
/-- The prototype of functions that make async generators. -/
def asyncGeneratorFunctionProto : Ref := 35
/-- The prototype of async generators. -/
def asyncGeneratorProto : Ref := 36
/-- The prototype of async iterators. -/
def asyncIteratorProto : Ref := 37
/-- The prototype of async iterators over what others yield. -/
def asyncFromSyncProto : Ref := 38
/-- The prototype of iterators over what functions make of others. -/
def iteratorHelperProto : Ref := 39
/-- The prototype of iterators around others. -/
def iteratorWrapProto : Ref := 40

/-- The number of fixed places. -/
def count : Nat := 41

/-- The scope of the global declarations. -/
def globalScope : ScopeRef := 0

end Intrinsic

namespace Symbols

/-- The symbol for the method that makes iterators. -/
def iterator : Nat := 0
/-- The symbol for the method that makes async iterators. -/
def asyncIterator : Nat := 1
/-- The symbol for the method that decides `instanceof`. -/
def hasInstance : Nat := 2
/-- The symbol for the method that makes primitive values. -/
def toPrimitive : Nat := 3
/-- The symbol for the name of the kind of an object. -/
def toStringTag : Nat := 4
/-- The symbol for whether `concat` spreads an object. -/
def isConcatSpreadable : Nat := 5
/-- The symbol for the constructor of what is made from an object. -/
def species : Nat := 6
/-- The symbol for the names that are no variables of an object. -/
def unscopables : Nat := 7
/-- The symbols for the methods that look for something in texts. -/
def match_ : Nat := 8
/-- The symbol for the method that finds all places in a text. -/
def matchAll : Nat := 9
/-- The symbol for the method that replaces parts of a text. -/
def replace : Nat := 10
/-- The symbol for the method that finds a place in a text. -/
def search : Nat := 11
/-- The symbol for the method that takes a text apart. -/
def split : Nat := 12

/-- The names of these symbols, in order. -/
def names : List String := [
  "iterator", "asyncIterator", "hasInstance", "toPrimitive", "toStringTag", "isConcatSpreadable",
  "species", "unscopables", "match", "matchAll", "replace", "search", "split"]

/-- The descriptions of these symbols, in order. -/
def descriptions : Array (Option Str) :=
  (names.map fun s => some (Str.ofString ("Symbol." ++ s))).toArray

end Symbols

end ScriptBridge.Script
