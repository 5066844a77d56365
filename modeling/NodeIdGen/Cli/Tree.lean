import NodeIdGen.Cli.Path

/-!
# Trees of files

A tree holds files and directories by their location, the list of names that lead to them from the
root. Paths are followed name by name, so that each of the usual faults arises where it does in a
file system.

A tree has less than a file system. There is no working directory: every path starts at the root,
with a separator in front or without, and `..` leads from the root to the root. There are no links,
no permissions and no end of space, and of the limits on paths there is only that on a single name.
-/

namespace NodeIdGen.Cli

/-- Why a file or directory cannot be used. -/
inductive FileFault
  | notFound
  | exists
  | notDirectory
  | isDirectory
  | nameTooLong
  /-- A path holds a zero character. -/
  | zeroInPath
  /-- A file is no text. -/
  | notText
  /-- Anything else, in words. -/
  | other (message : String)
  deriving DecidableEq, Repr

def FileFault.message : FileFault → String
  | .notFound => "No such file or directory (os error 2)"
  | .exists => "File exists (os error 17)"
  | .notDirectory => "Not a directory (os error 20)"
  | .isDirectory => "Is a directory (os error 21)"
  | .nameTooLong => "File name too long (os error 36)"
  | .zeroInPath => "file name contained an unexpected NUL byte"
  | .notText => "stream did not contain valid UTF-8"
  | .other message => message

/-- What a location holds. -/
inductive Entry
  | file (content : ByteArray)
  | directory

/-- The names that lead to a place from the root. -/
abbrev Location := List String

/-- Files and directories by location; the root is always there. -/
structure Tree where
  entries : List (Location × Entry) := []

namespace Tree

def get? (t : Tree) (l : Location) : Option Entry :=
  if l = [] then some .directory else t.entries.lookup l

/-- The tree with something at a location. -/
def put (t : Tree) (l : Location) (e : Entry) : Tree :=
  ⟨(l, e) :: t.entries.filter (·.1 ≠ l)⟩

/-- The tree without what a location holds. -/
def erase (t : Tree) (l : Location) : Tree :=
  ⟨t.entries.filter (·.1 ≠ l)⟩

/-- The longest name that a location may have, in bytes. -/
def longestName : Nat := 255

/-- One step from a directory to a directory. -/
def enter (t : Tree) (l : Location) (name : String) : Except FileFault Location :=
  if name = "." then .ok l
  else if name = ".." then .ok l.dropLast
  else if longestName < name.utf8ByteSize then .error .nameTooLong
  else
    match t.get? (l ++ [name]) with
    | none => .error .notFound
    | some (.file _) => .error .notDirectory
    | some .directory => .ok (l ++ [name])

/-- Where a path leads: a directory, and the name in it that the path ends with, unless it ends with
`.` or `..`. -/
structure Spot where
  directory : Location
  name : Option String
  /-- The path ends with a separator. -/
  slash : Bool

/-- Where a path leads. -/
def spot (t : Tree) (path : String) : Except FileFault Spot :=
  let names := pathNames path
  if path.toList.contains '\x00' then .error .zeroInPath
  else if path = "" then .error .notFound
  else do
    let directory ← names.dropLast.foldlM t.enter []
    match names.getLast? with
    | none => return ⟨directory, none, true⟩
    | some name =>
      if name = "." ∨ name = ".." then
        return ⟨← t.enter directory name, none, true⟩
      else if longestName < name.utf8ByteSize then
        throw .nameTooLong
      else
        return ⟨directory, some name, path.toList.getLast? = some '/'⟩

def read (t : Tree) (path : String) : Except FileFault ByteArray := do
  let s ← t.spot path
  match s.name with
  | none => throw .isDirectory
  | some name =>
    match t.get? (s.directory ++ [name]) with
    | none => throw .notFound
    | some .directory => throw .isDirectory
    | some (.file content) => if s.slash then throw .notDirectory else return content

/-- The tree with the content in a file, which may be new. -/
def write (t : Tree) (path : String) (content : ByteArray) : Except FileFault Tree := do
  let s ← t.spot path
  match s.name with
  | none => throw .isDirectory
  | some name =>
    if s.slash then
      throw .isDirectory
    else
      match t.get? (s.directory ++ [name]) with
      | some .directory => throw .isDirectory
      | _ => return t.put (s.directory ++ [name]) (.file content)

def isDirectory (t : Tree) (path : String) : Bool :=
  match t.spot path with
  | .error _ => false
  | .ok s =>
    match s.name with
    | none => true
    | some name =>
      match t.get? (s.directory ++ [name]) with
      | some .directory => true
      | _ => false

def makeDirectory (t : Tree) (path : String) : Except FileFault Tree := do
  let s ← t.spot path
  match s.name with
  | none => throw .exists
  | some name =>
    match t.get? (s.directory ++ [name]) with
    | some _ => throw .exists
    | none => return t.put (s.directory ++ [name]) .directory

end Tree

end NodeIdGen.Cli
