/-!
# Paths

A path is a text in which `/` separates names. Empty names and `.` add nothing, except that a path
may start with `.`.
-/

namespace NodeIdGen.Cli

/-- The characters between the separators. -/
def splitPath : List Char → List (List Char)
  | [] => [[]]
  | c :: cs =>
    match splitPath cs with
    | [] => [[c]]
    | p :: ps => if c = '/' then [] :: p :: ps else (c :: p) :: ps

/-- The names of a path, without those that are empty. -/
def pathNames (path : String) : List String :=
  ((splitPath path.toList).filter (· ≠ [])).map String.ofList

/-- The name that a path ends with, unless that is `.` or `..`. -/
def fileName? (path : String) : Option String :=
  match (pathNames path).filter (· ≠ ".") with
  | [] => none
  | n :: ns =>
    let last := (n :: ns).getLast (List.cons_ne_nil n ns)
    if last = ".." then none else some last

/-- What follows the last point of a name, if something stands before it. -/
def extension? (path : String) : Option String :=
  match fileName? path with
  | none => none
  | some name =>
    let backward := name.toList.reverse
    let ending := (backward.takeWhile (· ≠ '.')).reverse
    match backward.dropWhile (· ≠ '.') with
    | [] => none
    | [_] => none
    | _ :: _ :: _ => some (String.ofList ending)

/-- A path, last character first, without separators and `/.` at its end; one separator at the
start stays. -/
def trimBackward : List Char → List Char
  | ['/'] => ['/']
  | '/' :: cs => trimBackward cs
  | '.' :: '/' :: cs => trimBackward ('/' :: cs)
  | cs => cs

/-- The path without its last name, if it has one. -/
def parent? (path : String) : Option String :=
  match trimBackward path.toList.reverse with
  | [] => none
  | ['/'] => none
  | cs => some (String.ofList (trimBackward (cs.dropWhile (· ≠ '/'))).reverse)

end NodeIdGen.Cli
