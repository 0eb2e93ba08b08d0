/-
  Opening the embedded database at a path.

  * `connect` opens the file that settings name, after making the directories that it lies in; a
    file that is not there is made.
  * `Connection.keep` writes the store of a connection back to its file.
-/
import TableService.Files
import TableService.Settings.Basic
import TableService.Store.Connection

namespace TableService.Store

/-- The path that stands for a store without a file. -/
def memoryPath : String := ":memory:"

/-- A text without the occurrences of a part at its front. -/
def withoutFront (part cs : List Char) : List Char :=
  match part with
  | [] => cs
  | p :: ps =>
    if (p :: ps).isPrefixOf cs ∧ cs ≠ [] then withoutFront (p :: ps) (cs.drop (ps.length + 1))
    else cs
termination_by cs.length
decreasing_by
  rename_i h
  have := List.length_pos_iff.2 h.2
  simp only [List.length_drop]
  omega

/-- The path in settings, which may be written as a URL. -/
def plainPath (path : String) : String :=
  let scheme := "sqlite:".toList
  if scheme.isPrefixOf path.toList then
    String.ofList (withoutFront "//".toList (withoutFront scheme path.toList))
  else path

/-- Fails to open a path. -/
def failed (path reason : String) : Error :=
  .connection ("Failed to open SQLite database " ++ path ++ ": " ++ reason)

/-- What a connection to a file finds there; an empty file is an empty store. -/
def connectionOf? : Option FileNode → Option Connection
  | none => some (.open default)
  | some (.store s) => some (.open s)
  | some (.text content) => some (if content.isEmpty then .open default else .unreadable)
  | some .directory => none

/-- Keeps what a connection holds at a place among the files. -/
def Connection.keep (c : Connection) (place : List String) (files : Files) : Files :=
  match c with
  | .open s => files.put place (.store s)
  | _ => files

/-- Opens the file at a path. -/
def openFile (path : String) : Action Files Connection := do
  match path.toList.findIdx? (·.toNat = 0) with
  | some i =>
    let before := (String.ofList (path.toList.take i)).utf8ByteSize
    throw (failed path s!"nul byte found in provided data at position: {before}")
  | none =>
    let files ← Action.state
    let unable := failed path ("unable to open database file: " ++ path)
    let .ok place := files.resolve path | throw unable
    match connectionOf? (files.node? place) with
    | none => throw unable
    | some c =>
      Action.setState (c.keep place files)
      return c

/-- Makes the directories that a path lies in. -/
def makeParents (path : String) : Action Files Unit := do
  match Files.parentOf path with
  | none | some "" => return ()
  | some parent =>
    match (← Action.state).makeDirectories parent with
    | .ok files => Action.setState files
    | .error f =>
      throw (.connection ("Failed to create directory " ++ parent ++ ": " ++ f.message))

/-- Opens the store at a path; an empty path stands for a store without a file, too. -/
def openPath (path : String) : Action Files Connection := do
  if path = memoryPath ∨ path = "" then return .open default
  makeParents path
  openFile path

/-- Opens the store that settings name. -/
def connect (s : DatabaseSettings) : Action Files Connection := do
  match s.path with
  | none => throw (.connection "SQLite driver requires database.path")
  | some path =>
    let path := plainPath path
    let c ← openPath path
    Action.info ("Opened SQLite database at " ++ path)
    return c

end TableService.Store
