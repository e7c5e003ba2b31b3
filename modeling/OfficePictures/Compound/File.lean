import OfficePictures.Compound.Directory
import OfficePictures.Limits
import OfficePictures.Text.Path

/-!
# File — compound files and their streams

`File.open?` reads the tables and the directory of a compound file and checks them.
`File.readStream` gives the bytes of a stream: short streams lie in mini sectors of 64 bytes within
the stream of the root, the others in sectors of the file.

The declared length of a stream is checked against the limit before anything is read.
-/

namespace OfficePictures
namespace Compound

/-- A compound file whose tables and directory are sound. -/
structure File where
  sectors : Sectors
  table : Table
  miniTable : Table
  directory : Directory

/-! ## Opening -/

/-- The sectors listed in the index sectors from `sector` on, with the index sectors themselves. -/
def indexSectors? (sectors : Sectors) : (fuel : Nat) → (sector : Nat) → (seen : List Nat) →
    Option (List Nat × List Nat)
  | fuel, sector, seen =>
      if sector = endOfChain ∨ sector = freeSector then
        some ([], [])
      else if seen.contains sector then
        none
      else
        match fuel, sectors.getWhole? sector with
        | fuel + 1, some bytes => do
            let entries := fields bytes
            let listed := entries.dropLast
            guard (listed.all fun entry => entry = freeSector || entry ≤ maxSector)
            let (more, others) ←
              indexSectors? sectors fuel (entries.getLastD endOfChain) (sector :: seen)
            return (listed ++ more, sector :: others)
        | _, _ => none

/-- A list without the last elements that satisfy `p`. -/
def dropLastWhile (p : Nat → Bool) (entries : List Nat) : List Nat :=
  (entries.reverse.dropWhile p).reverse

/-- The table of a file: what its table sectors hold, less what is behind the last sector in use. -/
def table? (sectors : Sectors) (header : Header) : Option Table := do
  let (listed, indexes) ← indexSectors? sectors sectors.count header.firstIndexSector []
  let tableSectors := dropLastWhile (· = freeSector) (header.tableSectors ++ listed)
  let parts ← tableSectors.mapM sectors.getWhole?
  let entries := (parts.map fields).flatten
  -- Zeros behind the last sector of the file are filling.
  let beyond := (dropLastWhile (· = 0) (entries.drop sectors.count))
  let entries := dropLastWhile (· = freeSector) (entries.take sectors.count ++ beyond)
  guard (entries.length ≤ sectors.count)
  guard (indexes.all (· < entries.length) && tableSectors.all (· < entries.length))
  -- The sectors that hold the table are marked as such, whatever it says of them.
  let marked := indexes.foldl (fun table i => table.setIfInBounds i indexSector) entries.toArray
  let table := tableSectors.foldl (fun table i => table.setIfInBounds i tableSector) marked
  guard (Table.isSound table (· ≠ invalidSector))
  return table

def directory? (sectors : Sectors) (table : Table) (header : Header) : Option Directory := do
  let chain ← table.chain? header.firstDirectorySector
  let parts ← chain.mapM fun sector => do
    entriesOf? header.version (← sectors.getWhole? sector)
  let directory := parts.flatten.toArray
  guard (Directory.isSound directory)
  return directory

def miniTable? (sectors : Sectors) (table : Table) (directory : Directory) (header : Header) :
    Option Table := do
  let chain ← table.chain? header.firstMiniTableSector
  let parts ← chain.mapM sectors.getWhole?
  let entries := dropLastWhile (· = freeSector) ((parts.map fields).flatten)
  let root ← directory[0]?
  guard (entries.length ≤ root.length / 64)
  guard (Table.isSound entries.toArray fun _ => true)
  return entries.toArray

namespace File

def open? (bytes : Bytes) : Option File := do
  let header ← Header.ofBytes? (bytes.take headerLength)
  let sectors : Sectors := ⟨⟨bytes.toArray⟩, header.version.sectorLength⟩
  guard (sectors.length ≤ sectors.file.size)
  let table ← table? sectors header
  let directory ← directory? sectors table header
  let miniTable ← miniTable? sectors table directory header
  return { sectors, table, miniTable, directory }

/-! ## Streams -/

def stream? (file : File) (name : String) : Option Entry := do
  let names ← Text.follow? [] name.toList
  let entry ← file.directory.descend (← file.directory[0]?) names
  if entry.kind = .stream then some entry else none

def hasStream (file : File) (name : String) : Bool :=
  (file.stream? name).isSome

/-- The bytes of a mini sector, given the chain of the root's stream. -/
def miniSector? (file : File) (rootChain : Array Nat) (number : Nat) : Option Bytes := do
  let perSector := file.sectors.length / 64
  let sector ← rootChain[number / perSector]?
  return ((file.sectors.get sector).drop (number % perSector * 64)).take 64

/-- All the bytes of a stream, if they are in the file. -/
def streamBytes? (file : File) (entry : Entry) : Option Bytes :=
  -- An empty stream has no chain, whatever its first sector is said to be.
  if entry.length = 0 then
    some []
  else if entry.length < miniStreamCutoff then do
    let chain ← file.miniTable.chain? entry.start
    let root ← file.directory[0]?
    let rootChain ← file.table.chain? root.start
    collect 64 (file.miniSector? rootChain.toArray) entry.length chain
  else do
    let chain ← file.table.chain? entry.start
    collect file.sectors.length (fun sector => some (file.sectors.get sector)) entry.length chain

/-- The bytes of the stream with the given name, within the limit. -/
def readStream (file : File) (limits : Limits) (name : String) : Except Fault Bytes :=
  match file.stream? name with
  | none => .error (.notOpened (.streamMissing name))
  | some entry =>
      if limits.maxStreamBytes < entry.length then
        .error (.tooLarge limits.maxStreamBytes)
      else
        match file.streamBytes? entry with
        | none => .error (.notOpened (.streamUnreadable name))
        | some bytes => .ok bytes

/-- The bytes of the stream with the given name, within the limit, if there is such a stream. -/
def readStreamIfPresent (file : File) (limits : Limits) (name : String) :
    Except Fault (Option Bytes) :=
  if file.hasStream name then (file.readStream limits name).map some else .ok none

/-- Opens a compound file, or says that it is none. -/
def ofBytes (bytes : Bytes) : Except Fault File :=
  match open? bytes with
  | some file => .ok file
  | none => .error (.notOpened .notCompound)

end File
end Compound
end OfficePictures
