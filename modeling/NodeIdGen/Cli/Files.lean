import NodeIdGen.Cli.Tree

/-!
# Use of files

Commands use files through the operations of `Files`, so that the same definitions run over a tree
(`Files.ofTree`) and over a file system. Printing and reading the clock are not among the
operations: what a command prints is in its outcome, and the time is one of its arguments.
-/

namespace NodeIdGen.Cli

/-- What commands do with files. -/
structure Files (m : Type → Type) where
  read : String → m (Except FileFault ByteArray)
  write : String → ByteArray → m (Except FileFault Unit)
  makeDirectory : String → m (Except FileFault Unit)
  isDirectory : String → m Bool

/-- A change of a tree as a step; a fault leaves the tree as it is. -/
def changeTree (change : Tree → Except FileFault Tree) : StateM Tree (Except FileFault Unit) :=
  modifyGet fun t =>
    match change t with
    | .ok t => (.ok (), t)
    | .error f => (.error f, t)

/-- Files in a tree, which is the state. -/
def Files.ofTree : Files (StateM Tree) where
  read path := return (← get).read path
  write path content := changeTree (·.write path content)
  makeDirectory path := changeTree (·.makeDirectory path)
  isDirectory path := return (← get).isDirectory path

section

variable {m : Type → Type} [Monad m] (fs : Files m)

/-- Makes a directory unless it is there. -/
def ensureDirectory (path : String) : m (Except FileFault Unit) := do
  match ← fs.makeDirectory path with
  | .ok () => return .ok ()
  | .error f => if ← fs.isDirectory path then return .ok () else return .error f

/-- Makes a directory and those that lead to it, as far as they are missing; the first argument
bounds their number. -/
def makeDirectories : Nat → String → m (Except FileFault Unit)
  | 0, _ => return .error (.other "failed to create whole tree")
  | n + 1, path => do
    if path = "" then
      return .ok ()
    match ← ensureDirectory fs path, parent? path with
    | .error .notFound, some parent =>
      match ← makeDirectories n parent with
      | .ok () => ensureDirectory fs path
      | .error f => return .error f
    | result, _ => return result

/-- Makes a directory and those that lead to it, as far as they are missing. Each step goes to a
shorter path, so that the length of the path bounds their number. -/
def createDirectories (path : String) : m (Except FileFault Unit) :=
  makeDirectories fs (path.length + 1) path

end

end NodeIdGen.Cli
