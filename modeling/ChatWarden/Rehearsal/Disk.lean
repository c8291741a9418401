import ChatWarden.Store.Database
import ChatWarden.Text.Path
import ChatWarden.Work.Failure

/-!
# The disk of a rehearsal

What stands at the places of a working directory, as far as opening stores and reading files
depends on it.

Results:
* `Disk.openStore` makes the directories that lead to a store and the store itself.
* `Disk.read` yields the content of a file.
-/

namespace ChatWarden.Rehearsal

/-- A place, by the steps that lead to it. -/
abbrev Place := List (List Char)

/-- What stands at a place. -/
inductive Disk.Entry where
  | directory
  | database
  | file (content : List UInt8)
  deriving DecidableEq, Repr

/-- The places where something stands, other than the working directory, and the path of the store
    that all parts share, once it is open. -/
structure Disk where
  entries : List (Place × Disk.Entry) := []
  shared : Option String := none
  deriving DecidableEq, Repr

namespace Disk

/-- What stands at a place, if something does. -/
def entry? (disk : Disk) (place : Place) : Option Entry :=
  if place.isEmpty then some .directory else disk.entries.lookup place

/-- The disk with something else at a place. -/
def withPlace (disk : Disk) (place : Place) (entry : Entry) : Disk :=
  { disk with entries := (place, entry) :: disk.entries.filter (·.1 != place) }

/-- Makes the directories of a path behind those of `parent` that are there. What is no directory
    is in the way; it depends on its place what this is called. -/
def makeDirectories (disk : Disk) (parent : Place) :
    List (List Char) → Except Fault Disk
  | [] => .ok disk
  | step :: rest =>
    let place := parent ++ [step]
    match disk.entry? place with
    | none => (disk.withPlace place .directory).makeDirectories place rest
    | some .directory => disk.makeDirectories place rest
    | some _ => .error (if rest.isEmpty then .fileExists else .notADirectory)

/-- Opens the store of one table at a path that needs no more directories. -/
def openPlace (disk : Disk) (path : String) (table : Store.TableName) :
    Except Failure Unit × Disk :=
  let place := Text.Path.steps path
  let opened := (.ok (), disk.withPlace place .database)
  match disk.entry? place with
  | none => opened
  | some .database => opened
  | some .directory => (.error (.store (.because (.openAt path) .unopenable)), disk)
  | some (.file []) => opened
  | some (.file _) => (.error (.store (.because (.migrate table) .notADatabase)), disk)

/-- Whether a path stands for a store that is on no disk. -/
def isPrivate (path : String) : Bool := path.isEmpty || path == ":memory:"

/-- Opens the store of one table at a path, with all directories that lead to it. -/
def openStore (disk : Disk) (path : String) (table : Store.TableName) :
    Except Failure Unit × Disk :=
  if isPrivate path then (.ok (), disk)
  else
    let directory := Text.Path.directory path
    if Text.Path.isBad directory then (.error (.fault .badPath), disk)
    else match disk.makeDirectories [] (Text.Path.steps directory) with
      | .error fault => (.error (.fault fault), disk)
      | .ok disk =>
        if Text.Path.isBad path then (.error (.fault .badPath), disk)
        else disk.openPlace path table

/-- Whether a file stands at a path. -/
def isFile (disk : Disk) (path : String) : Bool :=
  if isPrivate path then false
  else match disk.entry? (Text.Path.steps path) with
    | some .database => true
    | some (.file _) => true
    | _ => false

/-- Whether something that is no directory stands on the way to a place. -/
def isBlocked (disk : Disk) (place : Place) : Bool :=
  disk.entries.any fun (other, entry) =>
    entry != .directory && other.isPrefixOf place && other != place

/-- The content of the file at a path. A database reads as bytes that are no text. -/
def read (disk : Disk) (path : String) : Except Fault (List UInt8) :=
  if path.isEmpty then .error .missingFile
  else if Text.Path.isBad path then .error .badPath
  else
    let place := Text.Path.steps path
    match disk.entry? place with
    | some (.file content) =>
      if path.toList.getLast? == some '/' then .error .notADirectory else .ok content
    | some .database => .ok [0xFF]
    | some .directory => .error .isDirectory
    | none => .error (if disk.isBlocked place then .notADirectory else .missingFile)

end Disk

end ChatWarden.Rehearsal
