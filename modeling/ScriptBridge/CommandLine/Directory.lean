import ScriptBridge.CommandLine.Program

/-!
# Runs in a directory

A `Directory` holds files by their paths.  `Directory.run` runs the program in one: it gives the
program the whole input and keeps the file that the program writes.
-/

namespace ScriptBridge.CommandLine

/-- The files of a directory and of those inside it, each under its path. -/
structure Directory where
  files : List (List String × List UInt8) := []

namespace Directory

/-- The parts of the path of a file. -/
def parts (path : String) : List String :=
  (path.splitOn "/").filter fun p => p ≠ "" ∧ p ≠ "."

/-- Why a path does not lead to what is wanted. -/
inductive PathFault
  | missing | notFolder | isFolder | tooLong | hasNul
deriving DecidableEq, Repr

/-- The wording of a fault. -/
def PathFault.message : PathFault → String
  | .missing => "No such file or directory (os error 2)"
  | .notFolder => "Not a directory (os error 20)"
  | .isFolder => "Is a directory (os error 21)"
  | .tooLong => "File name too long (os error 36)"
  | .hasNul => "file name contained an unexpected NUL byte"

/-- Whether a folder is at a place. -/
def hasFolder (d : Directory) (p : List String) : Bool :=
  p.isEmpty || d.files.any fun f => f.1 ≠ p && p.isPrefixOf f.1

/-- Whether a file is at a place. -/
def hasFile (d : Directory) (p : List String) : Bool := d.files.any fun f => f.1 == p

/-- The folder that a path leads to from the folder `start`; none is a folder around the directory,
where nothing else is known.  A path goes on only from a folder. -/
def enter (d : Directory) (start : Option (List String)) :
    List String → Except PathFault (Option (List String))
  | [] => .ok start
  | part :: rest =>
    if part = "" || part = "." then enter d start rest
    else if part = ".." then
      enter d (start.bind fun p => if p.isEmpty then none else some p.dropLast) rest
    else if 255 < part.utf8ByteSize then .error .tooLong
    else
      match start with
      | none => .error .missing
      | some p =>
        if d.hasFolder (p ++ [part]) then enter d (some (p ++ [part])) rest
        else .error (if d.hasFile (p ++ [part]) then .notFolder else .missing)

/-- The place that a path names, with the folder it is in: none is outside of the directory.  A path
whose end is no name leads to a folder. -/
def locate (d : Directory) (path : String) : Except PathFault (Option (List String)) := do
  if path.toList.contains '\x00' then throw .hasNul
  if path.isEmpty then throw .missing
  if 4095 < path.utf8ByteSize then throw .tooLong
  let parts := path.splitOn "/"
  let start := if path.startsWith "/" then none else some []
  let name := parts.getLastD ""
  let folder ← d.enter start parts.dropLast
  if name = "" || name = "." || name = ".." then throw .isFolder
  if 255 < name.utf8ByteSize then throw .tooLong
  return folder.map fun p => p ++ [name]

/-- Reads a file. -/
def read (d : Directory) : FileReader := fun path =>
  match d.locate path with
  | .error f => .error f.message
  | .ok none => .error PathFault.missing.message
  | .ok (some p) =>
    match d.files.lookup p with
    | some content => .ok content
    | none => .error (if d.hasFolder p then PathFault.isFolder else .missing).message

/-- The place that a path names where a file is to be written: a slash behind its name leads to a
folder, whether there is one or not. -/
def destination (d : Directory) (path : String) : Except PathFault (Option (List String)) :=
  match path.toList.reverse with
  | '/' :: rest =>
    match d.locate (String.ofList (rest.dropWhile (· = '/')).reverse) with
    | .error .missing => .error (if path.toList.all (· = '/') then .isFolder else .missing)
    | .error f => .error f
    | .ok _ => .error .isFolder
  | _ => d.locate path

/-- Writes a file, into a folder that exists. -/
def write (d : Directory) (path : String) (content : List UInt8) :
    Except String Unit × Directory :=
  match d.destination path with
  | .error f => (.error f.message, d)
  | .ok none => (.ok (), d)
  | .ok (some p) =>
    if d.hasFolder p then (.error PathFault.isFolder.message, d)
    else (.ok (), { files := (p, content) :: d.files.filter fun f => f.1 ≠ p })

/-- The lines of an input, each with its line feed. -/
def inputLines (input : List Char) : List String :=
  let rec go : List Char → List Char → List String
    | [], [] => []
    | acc, [] => [String.ofList acc.reverse]
    | acc, c :: rest =>
      if c = '\n' then String.ofList (c :: acc).reverse :: go [] rest else go (c :: acc) rest
  go [] input

/-- Runs the program: the lines that it writes, its code, and the files afterwards. -/
def run (d : Directory) (args : List String) (var : String → Option String) (input : String) :
    (List OutputLine × Nat) × Directory :=
  match Outcome.ofArgs args var d.read with
  | .finished lines code => ((lines, code), d)
  | .saving path content after =>
    let (r, d) := d.write path content
    (after r, d)
  | .session repl =>
    let (lines, _) := (repl.feedAll d.read (inputLines input.toList)).takeLines
    ((lines, success), d)

end Directory

end ScriptBridge.CommandLine
