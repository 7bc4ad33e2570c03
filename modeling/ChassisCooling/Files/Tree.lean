import ChassisCooling.Files.Failure
import ChassisCooling.Files.Path
import ChassisCooling.Text.Decoding

/-!
# File trees

A tree of files, directories and symbolic links. Its entries are listed by location, the names
from the root on, and a directory names its entries in the order of that list.

* `Tree.resolve`: where a path leads, links followed.
* `Tree.readText`, `Tree.showText`, `Tree.names`, `Tree.isDirectory`, `Tree.holds`: looking.
* `Tree.write`, `Tree.append`, `Tree.createDirectories`, `Tree.link`, `Tree.remove`: changing.
-/

namespace ChassisCooling.Files

/-- The names from the root to an entry. -/
abbrev Location := List String

inductive Node where
  | file (content : ByteArray)
  | directory
  | link (target : String)

structure Tree where
  entries : List (Location × Node)
  /-- Where relative paths start. -/
  start : Location

namespace Tree

/-- A tree whose start is an empty directory. -/
def blank : Tree := ⟨[(["work"], .directory)], ["work"]⟩

instance : Inhabited Tree := ⟨blank⟩

/-- What is at a location. The root is a directory. -/
def node? (t : Tree) (l : Location) : Option Node :=
  if l = [] then some .directory else t.entries.lookup l

/-- The entries with a node at a location, in place of what is there. -/
def setEntry (l : Location) (n : Node) : List (Location × Node) → List (Location × Node)
  | [] => [(l, n)]
  | e :: rest => if e.1 = l then (l, n) :: rest else e :: setEntry l n rest

def set (t : Tree) (l : Location) (n : Node) : Tree :=
  { t with entries := setEntry l n t.entries }

/-! ## Following a path -/

/-- Where a path leads. -/
inductive Target where
  | existing (l : Location) (n : Node)
  /-- Nothing is there, but it could be made. The path may end in a slash. -/
  | missing (l : Location) (slash : Bool)

/-- How far a path can be followed without following a link. -/
inductive Stop where
  | at (target : Target)
  /-- A link in a directory, and the names after it. -/
  | link (directory : Location) (target : String) (rest : List String)

/-- Longest name and longest path, in bytes. -/
def maxName : Nat := 255
def maxPath : Nat := 4095

/-- At most this many links are followed. -/
def maxLinks : Nat := 40

/-- Follows names from a directory up to the next link, or to the end. A link at the very end is
followed only if `follow` is set. -/
def advance (t : Tree) (follow : Bool) (l : Location) : List String → Except Failure Stop
  | [] => .ok (.at (.existing l .directory))
  | name :: rest =>
    if name = "" ∨ name = "." then advance t follow l rest
    else if name = ".." then advance t follow l.dropLast rest
    else if maxName < name.utf8ByteSize then .error .nameTooLong
    else
      match t.node? (l ++ [name]) with
      | none =>
        if rest.all (· == "") then .ok (.at (.missing (l ++ [name]) !rest.isEmpty))
        else .error .notFound
      | some .directory => advance t follow (l ++ [name]) rest
      | some (.file content) =>
        if rest.isEmpty then .ok (.at (.existing (l ++ [name]) (.file content)))
        else .error .notADirectory
      | some (.link target) =>
        if rest.isEmpty ∧ ¬follow then .ok (.at (.existing (l ++ [name]) (.link target)))
        else .ok (.link l target rest)

/-- Follows names from a directory, through a bounded number of links. -/
def walk (t : Tree) (follow : Bool) (links : Nat) (l : Location) (names : List String) :
    Except Failure Target := do
  match ← t.advance follow l names with
  | .at target => return target
  | .link directory target rest =>
    match links with
    | 0 => throw .tooManyLinks
    | links + 1 =>
      if target.isEmpty then throw .notFound
      else
        walk t follow links (if Path.isAbsolute target then [] else directory)
          (Path.components target ++ rest)

/-- Where the names of a path lead, or some of them. -/
def resolveNames (t : Tree) (follow : Bool) (path : String) (names : List String) :
    Except Failure Target :=
  if path.isEmpty then .error .notFound
  else if path.toList.contains '\x00' then .error .nulInPath
  else if maxPath < path.utf8ByteSize then .error .nameTooLong
  else t.walk follow maxLinks (if Path.isAbsolute path then [] else t.start) names

/-- Where a path leads. -/
def resolve (t : Tree) (follow : Bool) (path : String) : Except Failure Target :=
  t.resolveNames follow path (Path.components path)

/-- The place of a new entry. Slashes at the end of the path do not count here, so a file or a link
in that place is found even then. -/
def resolveEntry (t : Tree) (path : String) : Except Failure Target :=
  t.resolveNames false path (Path.withoutEnd (Path.components path))

/-! ## Looking -/

/-- Whether anything is where a path leads. -/
def holds (t : Tree) (path : String) : Bool :=
  match t.resolve true path with
  | .ok (.existing ..) => true
  | _ => false

def isDirectory (t : Tree) (path : String) : Bool :=
  match t.resolve true path with
  | .ok (.existing _ .directory) => true
  | _ => false

def readBytes (t : Tree) (path : String) : Except Failure ByteArray := do
  match ← t.resolve true path with
  | .existing _ (.file content) => return content
  | .existing _ .directory => throw .isADirectory
  | .existing _ (.link _) | .missing .. => throw .notFound

/-- The text of a file. -/
def readText (t : Tree) (path : String) : Except Failure String := do
  match String.fromUTF8? (← t.readBytes path) with
  | some text => return text
  | none => throw .undecodable

/-- The text of a file, with replacement characters where its bytes are no text. -/
def showText (t : Tree) (path : String) : Except Failure String := do
  return Text.decode (← t.readBytes path)

/-- The names of the entries at a location, in order. -/
def namesAt (t : Tree) (l : Location) : List String :=
  t.entries.filterMap fun e => if e.1.dropLast = l then e.1.getLast? else none

/-- The names in a directory, in the directory's order. -/
def names (t : Tree) (path : String) : Except Failure (List String) := do
  match ← t.resolve true path with
  | .existing l .directory => return t.namesAt l
  | .existing .. => throw .notADirectory
  | .missing .. => throw .notFound

/-! ## Changing -/

/-- The location of a file to write to, and what it holds; a file that is not there is empty. -/
def openFile (t : Tree) (path : String) : Except Failure (Location × ByteArray) := do
  match ← t.resolve true path with
  | .existing l (.file content) => return (l, content)
  | .existing _ .directory => throw .isADirectory
  | .existing _ (.link _) => throw .notFound
  | .missing l slash => if slash then throw .isADirectory else return (l, .empty)

/-- Replaces the content of a file, which is made if need be. A file that is there can always be
written to: of the reasons for which a device refuses a write, a directory in place of its file
stands for all, and the refusal lasts until someone else changes the tree. -/
def write (t : Tree) (path : String) (content : ByteArray) : Except Failure Tree := do
  let (l, _) ← t.openFile path
  return t.set l (.file content)

def writeText (t : Tree) (path text : String) : Except Failure Tree := t.write path text.toUTF8

/-- Adds to the end of a file, which is made if need be. -/
def append (t : Tree) (path : String) (content : ByteArray) : Except Failure Tree := do
  let (l, before) ← t.openFile path
  return t.set l (.file (before ++ content))

def appendText (t : Tree) (path text : String) : Except Failure Tree := t.append path text.toUTF8

/-- Puts a node where nothing is. -/
def create (t : Tree) (path : String) (n : Node) : Except Failure Tree := do
  match ← t.resolveEntry path with
  | .existing .. => throw .alreadyExists
  | .missing l _ => return t.set l n

def createDirectory (t : Tree) (path : String) : Except Failure Tree := t.create path .directory

/-- Makes a symbolic link. -/
def link (t : Tree) (path target : String) : Except Failure Tree := t.create path (.link target)

/-- Makes a directory, unless it is there already. -/
def ensureDirectory (t : Tree) (path : String) : Except Failure Tree :=
  match t.createDirectory path with
  | .ok t => .ok t
  | .error failure => if t.isDirectory path then .ok t else .error failure

/-- Makes a directory and those above it that are missing; `fuel` bounds their number. Those that
were made before a failure stay. -/
def createDirectoriesWith (t : Tree) : Nat → String → Except Failure Unit × Tree
  | 0, _ => (.error .noParent, t)
  | fuel + 1, path =>
    if path.isEmpty then (.ok (), t)
    else
      match t.ensureDirectory path with
      | .ok t => (.ok (), t)
      | .error failure =>
        if failure = .notFound then
          match Path.parent? path with
          | none => (.error .noParent, t)
          | some parent =>
            match createDirectoriesWith t fuel parent with
            | (.error failure, t) => (.error failure, t)
            | (.ok (), t) =>
              match t.ensureDirectory path with
              | .ok t => (.ok (), t)
              | .error failure => (.error failure, t)
        else (.error failure, t)

/-- Makes a directory and those above it that are missing. -/
def createDirectories (t : Tree) (path : String) : Except Failure Unit × Tree :=
  t.createDirectoriesWith (path.length + 1) path

/-- Removes an entry and all below it. -/
def remove (t : Tree) (path : String) : Except Failure Tree := do
  match ← t.resolve false path with
  | .existing l _ => return { t with entries := t.entries.filter fun e => ¬l.isPrefixOf e.1 }
  | .missing .. => throw .notFound

end Tree

end ChassisCooling.Files
