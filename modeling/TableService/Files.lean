/-
  The files that a service finds when it starts, and makes.

  * `Files.resolve` follows a path name by name; all names but the last have to be those of
    directories.
  * `Files.read` gives the text of a file, `Files.makeDirectories` makes the directories of a path
    that are not there; `node?_put` says what putting something at a path does.
  * `Files.parentOf` is the path of the directory that a path lies in.
-/
import TableService.Store.Table
import TableService.Text.Pieces

namespace TableService

/-- What stands at a path. -/
inductive FileNode where
  | directory
  | text (content : String)
  /-- A file that the embedded database has written. -/
  | store (content : Store.Contents)

/-- Files by the names that lead to them from the root. -/
structure Files where
  /-- Where paths begin that do not begin at the root. -/
  workingDirectory : List String
  nodes : List (List String × FileNode)

/-- Why files cannot be used as asked. -/
inductive FileFault where
  | missing
  | exists
  | notDirectory
  | isDirectory
  | notText
  /-- A path holds a character of code zero. -/
  | zeroCharacter
  deriving DecidableEq, Repr

/-- What is said of a fault. -/
def FileFault.message : FileFault → String
  | .missing => "No such file or directory (os error 2)"
  | .exists => "File exists (os error 17)"
  | .notDirectory => "Not a directory (os error 20)"
  | .isDirectory => "Is a directory (os error 21)"
  | .notText => "stream did not contain valid UTF-8"
  | .zeroCharacter => "file name contained an unexpected NUL byte"

namespace Files

/-! ## Nodes -/

/-- What stands at a place; the root and the working directory are always there. -/
def node? (files : Files) (place : List String) : Option FileNode :=
  if place.isEmpty ∨ place = files.workingDirectory then some .directory
  else files.nodes.lookup place

/-- Puts something at a place. -/
def put (files : Files) (place : List String) (node : FileNode) : Files :=
  { files with nodes := (place, node) :: files.nodes.filter (·.1 ≠ place) }

theorem node?_put (files : Files) {place : List String} (node : FileNode) (h : place ≠ [])
    (h' : place ≠ files.workingDirectory) : (files.put place node).node? place = some node := by
  simp [node?, put, h, h']

/-- The files below a place by their paths from there, ascending. -/
def below (files : Files) (place : List String) : List String :=
  let paths := files.nodes.filterMap fun (p, node) =>
    match node with
    | .directory => none
    | _ => if place.isPrefixOf p then some ("/".intercalate (p.drop place.length)) else none
  paths.mergeSort

/-! ## Paths -/

/-- The names in a path, some of them without meaning. -/
def namesOf (path : String) : List String := (Text.piecesAt '/' path.toList).map String.ofList

/-- Where a path begins. -/
def start (files : Files) (path : String) : List String :=
  if path.toList.head? = some '/' then [] else files.workingDirectory

/-- The place that names lead to. -/
def follow (files : Files) (place : List String) : List String → Except FileFault (List String)
  | [] => .ok place
  | name :: names =>
    match files.node? place with
    | none => .error .missing
    | some .directory =>
      if name = "" ∨ name = "." then files.follow place names
      else if name = ".." then files.follow place.dropLast names
      else files.follow (place ++ [name]) names
    | some _ => .error .notDirectory

/-- The place that a path leads to; nothing need be there. -/
def resolve (files : Files) (path : String) : Except FileFault (List String) :=
  if path = "" then .error .missing
  else if path.toList.any (·.toNat = 0) then .error .zeroCharacter
  else files.follow (files.start path) (namesOf path)

/-- A path without slashes at its end, and without names there that have no meaning; the path comes
reversed. -/
def withoutEnd : List Char → List Char
  | ['/'] => ['/']
  | '/' :: path => withoutEnd path
  | '.' :: '/' :: path => withoutEnd ('/' :: path)
  | path => path
termination_by path => path.length

/-- The path of the directory that a path lies in; empty for a single name. -/
def parentOf (path : String) : Option String :=
  match withoutEnd path.toList.reverse with
  | [] | ['/'] => none
  | path => some (String.ofList (withoutEnd (path.dropWhile (· ≠ '/'))).reverse)

/-! ## Use -/

/-- The text of a file. -/
def read (files : Files) (path : String) : Except FileFault String := do
  match files.node? (← files.resolve path) with
  | none => .error .missing
  | some .directory => .error .isDirectory
  | some (.text content) => .ok content
  | some (.store _) => .error .notText

/-- Makes the directories that names lead to where they are not there. -/
def makeFrom (files : Files) (place : List String) : List String → Except FileFault Files
  | [] => .ok files
  | name :: names =>
    if name = "" ∨ name = "." then files.makeFrom place names
    else if name = ".." then files.makeFrom place.dropLast names
    else
      let here := place ++ [name]
      match files.node? here with
      | some .directory => files.makeFrom here names
      | none => (files.put here .directory).makeFrom here names
      | some _ => .error (if names.isEmpty then .exists else .notDirectory)

/-- Makes the directories of a path where they are not there. -/
def makeDirectories (files : Files) (path : String) : Except FileFault Files :=
  if path.toList.any (·.toNat = 0) then .error .zeroCharacter
  else files.makeFrom (files.start path) (namesOf path)

end Files

end TableService
