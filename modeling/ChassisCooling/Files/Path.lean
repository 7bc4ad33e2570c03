/-!
# Paths

A path is a text of names between slashes. It is absolute if it starts with a slash.

* `Path.components`: the names, empty ones included.
* `Path.withoutEnd`: the names without slashes at the end.
* `Path.join`: a path below another one.
* `Path.parent?`: the path without its last name.
-/

namespace ChassisCooling.Files.Path

/-- The parts of a list between separators; there is one part more than there are separators. -/
def splitOn (sep : Char) : List Char → List (List Char)
  | [] => [[]]
  | c :: cs =>
    if c = sep then [] :: splitOn sep cs
    else
      match splitOn sep cs with
      | [] => [[c]]
      | part :: parts => (c :: part) :: parts

/-- The names of a path. A slash at the start, at the end or beside another one makes an empty
name. -/
def components (path : String) : List String := (splitOn '/' path.toList).map String.ofList

/-- The names without the empty ones that slashes at the end of a path leave. -/
def withoutEnd (names : List String) : List String :=
  (names.reverse.dropWhile (· == "")).reverse

def isAbsolute (path : String) : Bool := path.toList.head? == some '/'

/-- A path below a base. An absolute path stands for itself. -/
def join (base path : String) : String :=
  if isAbsolute path ∨ base.isEmpty then path
  else if base.toList.getLast? = some '/' then base ++ path
  else base ++ "/" ++ path

/-- The names of a path that lead somewhere: empty ones and dots lead nowhere, except that a dot
may stand first. -/
def steps (path : String) : List String :=
  match components path with
  | "." :: rest => "." :: rest.filter fun name => name ≠ "" ∧ name ≠ "."
  | names => names.filter fun name => name ≠ "" ∧ name ≠ "."

/-- The path without its last name; the root and the empty path have no parent. -/
def parent? (path : String) : Option String :=
  match steps path with
  | [] => none
  | names => some ((if isAbsolute path then "/" else "") ++ "/".intercalate names.dropLast)

end ChassisCooling.Files.Path
