/-!
# Module names

A module is known by one name.  An import that starts with `./` or `../` is joined to the
directory of the importing module, and any other import already is a name.  `resolve` finds the
name that an import asks for, and `canonical` the name that a file is known by; both fold a path
to its list of segments.
-/

namespace ScriptBridge

namespace ModuleName

/-! ### Segments -/

/-- The parts of a path between its slashes: always at least one, possibly empty. -/
def segments : List Char → List (List Char)
  | [] => [[]]
  | c :: rest =>
    if c = '/' then [] :: segments rest
    else
      match segments rest with
      | [] => [[c]]
      | s :: more => (c :: s) :: more

/-- The path with the given segments. -/
def joinSegments (parts : List (List Char)) : List Char := ['/'].intercalate parts

/-- One step along a path: an empty segment or `.` stays, `..` goes up if it can, and any other
segment goes down. -/
def step (path : List (List Char)) (segment : List Char) : List (List Char) :=
  if segment = [] ∨ segment = ['.'] then path
  else if segment = ['.', '.'] then path.dropLast
  else path ++ [segment]

/-- The segments of the directory that holds `base`. -/
def directory (base : List Char) : List (List Char) :=
  (segments base).dropLast.filter (· ≠ [])

/-! ### Resolution -/

/-- Whether an import is relative to the module that makes it. -/
def isRelativeChars : List Char → Bool
  | '.' :: '/' :: _ => true
  | '.' :: '.' :: '/' :: _ => true
  | _ => false

/-- `resolve` on lists of characters. -/
def resolveChars (base specifier : List Char) : List Char :=
  if isRelativeChars specifier then
    let joined := joinSegments ((segments specifier).foldl step (directory base))
    if base.head? = some '/' then '/' :: joined else joined
  else specifier

/-- Whether a path has a `.` or `..` to fold. -/
def folds (name : List Char) : Bool :=
  isRelativeChars name || (segments name).any fun s => s = ['.'] || s = ['.', '.']

/-- A path that is not relative, written as one from the present directory. -/
def fromHere (path : List Char) : List Char :=
  if isRelativeChars path then path else '.' :: '/' :: path

/-- `canonical` on lists of characters. -/
def canonicalChars (name : List Char) : List Char :=
  if folds name then
    match name with
    | '/' :: rest => resolveChars ['/'] (fromHere rest)
    | _ => resolveChars [] (fromHere name)
  else name

/-- Whether an import is relative to the module that makes it. -/
def isRelative (specifier : String) : Bool := isRelativeChars specifier.toList

/-- The name that `specifier` asks for in the module named `base`. -/
def resolve (base specifier : String) : String :=
  String.ofList (resolveChars base.toList specifier.toList)

/-- The name that a module compiled from the file `name` is known by: the one that is asked for by
a relative import of that file from the top. -/
def canonical (name : String) : String := String.ofList (canonicalChars name.toList)

end ModuleName

end ScriptBridge
