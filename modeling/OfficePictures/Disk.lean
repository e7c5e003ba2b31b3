import OfficePictures.Text.Segments
import OfficePictures.Text.Utf8

/-!
# Disk — a tree of directories and files

The tree is kept flat: a list of places, each with what is there, where a place is the names on the
way from the root.  The root itself is always a directory.  Paths are texts with slashes; a path is
followed name by name, so every place on its way has to be a directory.

Operations say whether they succeed.  A directory is made together with the directories on its way,
and those that were made stay if a later one cannot be made.
-/

namespace OfficePictures

abbrev Place := List (List Char)

/-- What is at a place. -/
inductive Item
  | directory
  | file (content : Bytes)
  deriving DecidableEq, Repr

/-- A tree of directories and files. -/
structure Disk where
  items : List (Place × Item)
  deriving DecidableEq, Repr

namespace Disk

/-- The tree with nothing but its root. -/
def empty : Disk :=
  ⟨[]⟩

/-! ## Places -/

/-- What is at a place, if there is anything. -/
def find? (disk : Disk) (place : Place) : Option Item :=
  if place = [] then some .directory else disk.items.lookup place

/-- The tree with `item` at a place. -/
def put (disk : Disk) (place : Place) (item : Item) : Disk :=
  ⟨(place, item) :: disk.items.filter (·.1 ≠ place)⟩

/-- The tree without a place and all that is below it. -/
def erase (disk : Disk) (place : Place) : Disk :=
  ⟨disk.items.filter fun (other, _) => !place.isPrefixOf other⟩

/-- Whether something new can have the name: it has at most 255 bytes. -/
def fits (name : List Char) : Bool :=
  (Text.Utf8.encode name).length ≤ 255

/-! ## Paths -/

/-- Whether a segment of a path is no name of its own: nothing, or one or two dots. -/
def isSpecial (segment : List Char) : Bool :=
  segment = [] || segment = ['.'] || segment = ['.', '.']

/-- The place of a segment of a path, seen from a directory; nothing is above the root. -/
def place? (directory : Place) (segment : List Char) : Option Place :=
  if segment = [] ∨ segment = ['.'] then some directory
  else if segment = ['.', '.'] then if directory = [] then none else some directory.dropLast
  else some (directory ++ [segment])

def enter? (disk : Disk) (directory : Place) (segment : List Char) : Option Place := do
  let place ← place? directory segment
  if disk.find? place = some .directory then some place else none

/-- The directory and the last segment of a path, if its way leads through directories. -/
def locate? (disk : Disk) (path : String) : Option (Place × List Char) := do
  let segments := Text.split '/' path.toList
  guard (!path.toList.contains '\x00')
  let directory ← segments.dropLast.foldlM disk.enter? []
  return (directory, segments.getLastD [])

/-- What a path leads to, and where it is. -/
def lookup? (disk : Disk) (path : String) : Option (Place × Item) := do
  let (directory, segment) ← disk.locate? path
  let place ← place? directory segment
  let item ← disk.find? place
  return (place, item)

def pathExists (disk : Disk) (path : String) : Bool :=
  (disk.lookup? path).isSome

def fileContent? (disk : Disk) (path : String) : Option Bytes :=
  match disk.lookup? path with
  | some (_, .file content) => some content
  | _ => none

/-! ## Changes -/

/-- Makes the directories along the segments of a path, seen from a directory. -/
def makeAlong (disk : Disk) (directory : Place) : List (List Char) → Bool × Disk
  | [] => (true, disk)
  | segment :: segments =>
      match place? directory segment with
      | none => (false, disk)
      | some place =>
          match disk.find? place with
          | some .directory => disk.makeAlong place segments
          | some (.file _) => (false, disk)
          | none =>
              if fits segment then (disk.put place .directory).makeAlong place segments
              else (false, disk)

def makeDirectory (disk : Disk) (path : String) : Bool × Disk :=
  if path.toList.contains '\x00' then (false, disk)
  else disk.makeAlong [] (Text.split '/' path.toList)

/-- Writes a file, in place of one that may be there. -/
def writeFile (disk : Disk) (path : String) (content : Bytes) : Bool × Disk :=
  match disk.locate? path with
  | none => (false, disk)
  | some (directory, name) =>
      let place := directory ++ [name]
      -- A path that ends in a slash or in dots names no file.
      if isSpecial name || !fits name || disk.find? place = some .directory then (false, disk)
      else (true, disk.put place (.file content))

def removeDirectory (disk : Disk) (path : String) : Bool × Disk :=
  match disk.lookup? path with
  | some (place, .directory) => (true, disk.erase place)
  | _ => (false, disk)

/-! ## Listing -/

def pathOf (place : Place) : String :=
  String.ofList (Text.join '/' place)

/-- Every path but that of the root, with a slash behind those of directories, and the content of
each file. -/
def listing (disk : Disk) : List (String × Option Bytes) :=
  disk.items.map fun (place, item) =>
    match item with
    | .directory => (pathOf place ++ "/", none)
    | .file content => (pathOf place, some content)

end Disk
end OfficePictures
