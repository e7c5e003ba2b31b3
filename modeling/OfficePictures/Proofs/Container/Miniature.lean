import OfficePictures.Proofs.Art.RecordLayout
import OfficePictures.Proofs.Container

/-!
# Miniature — small documents of the binary formats

A compound file all of whose streams are short: they lie in the stream of the root, one after the
other.  Behind the header come the stream of the root, the table of the mini sectors, the directory
and the table, each in whole sectors.

* `Miniature.IsReadable` — what has to be checked of a miniature;
* `Miniature.IsReadable.ofBytes_bytes` — its bytes open as a compound file.
-/

namespace OfficePictures

namespace Container

open Compound

/-- The streams of a small compound file with their names, in falling order of names. -/
structure Miniature where
  streams : List (String × Bytes)

namespace Miniature

/-! ## Layout -/

/-- The bytes, and filling up to a multiple of `length`. -/
def filled (length : Nat) (filling : UInt8) (bytes : Bytes) : Bytes :=
  bytes ++ List.replicate ((length - bytes.length % length) % length) filling

/-- The number of mini sectors of a stream. -/
def pieces (bytes : Bytes) : Nat :=
  (bytes.length + 63) / 64

/-- The links of a chain of `count` sectors that follow one another. -/
def chainFrom (start count : Nat) : List Nat :=
  (List.range' (start + 1) (count - 1)) ++ [endOfChain]

def miniTableFrom : (start : Nat) → List (String × Bytes) → List Nat
  | _, [] => []
  | start, (_, bytes) :: streams =>
      chainFrom start (pieces bytes) ++ miniTableFrom (start + pieces bytes) streams

/-- The entries of streams; each has the next one on its left. -/
def entriesFrom : (number start : Nat) → List (String × Bytes) → List Entry
  | _, _, [] => []
  | number, start, (name, bytes) :: streams =>
      { name := name.toList
        kind := .stream
        left := if streams = [] then noEntry else number + 1
        right := noEntry
        child := noEntry
        classId := List.replicate 16 0
        start
        length := bytes.length } :: entriesFrom (number + 1) (start + pieces bytes) streams

variable (miniature : Miniature)

/-- The stream of the root. -/
def content : Bytes :=
  (miniature.streams.map fun (_, bytes) => filled 64 0 bytes).flatten

/-- The number of sectors of the stream of the root. -/
def pages : Nat :=
  (miniature.content.length + 511) / 512

def root : Entry where
  name := "Root Entry".toList
  kind := .root
  left := noEntry
  right := noEntry
  child := 1
  classId := List.replicate 16 0
  start := 0
  length := miniature.content.length

def unused : Entry where
  name := []
  kind := .unallocated
  left := noEntry
  right := noEntry
  child := noEntry
  classId := List.replicate 16 0
  start := 0
  length := 0

/-- The directory, filled up to a multiple of four entries. -/
def directory : List Entry :=
  let entries := miniature.root :: entriesFrom 1 0 miniature.streams
  entries ++ List.replicate ((4 - entries.length % 4) % 4) unused

def table : List Nat :=
  chainFrom 0 miniature.pages ++ [endOfChain] ++
    chainFrom (miniature.pages + 1) (miniature.directory.length / 4) ++ [tableSector]

def header : Header where
  version := .three
  firstDirectorySector := miniature.pages + 1
  firstMiniTableSector := miniature.pages
  firstIndexSector := endOfChain
  tableSectors := [miniature.table.length - 1]

def kindNumber : ObjectKind → UInt8
  | .unallocated => 0
  | .storage => 1
  | .stream => 2
  | .root => 5

def headerBytes : Bytes :=
  let header := miniature.header
  signature ++ List.replicate 16 0 ++ [0x3E, 0, 3, 0, 0xFE, 0xFF, 9, 0, 6, 0] ++
    List.replicate 10 0 ++ Bytes.ofNat 4 1 ++ Bytes.ofNat 4 header.firstDirectorySector ++
    Bytes.ofNat 4 0 ++ Bytes.ofNat 4 miniStreamCutoff ++
    Bytes.ofNat 4 header.firstMiniTableSector ++ Bytes.ofNat 4 1 ++
    Bytes.ofNat 4 header.firstIndexSector ++ Bytes.ofNat 4 0 ++
    (header.tableSectors.map (Bytes.ofNat 4)).flatten ++ List.replicate 432 0xFF

def bytes : Bytes :=
  miniature.headerBytes ++ filled 512 0 miniature.content ++
    filled 512 0xFF ((miniTableFrom 0 miniature.streams).map (Bytes.ofNat 4)).flatten ++
    (miniature.directory.map fun entry =>
      entryBytes (String.ofList entry.name) (kindNumber entry.kind) entry.left entry.child
        entry.start entry.length).flatten ++
    filled 512 0xFF (miniature.table.map (Bytes.ofNat 4)).flatten

/-- The miniature as it is when it is open. -/
def file : File where
  sectors := ⟨⟨miniature.bytes.toArray⟩, 512⟩
  table := miniature.table.toArray
  miniTable := (miniTableFrom 0 miniature.streams).toArray
  directory := miniature.directory.toArray

/-! ## Opening and reading -/

variable {miniature}

theorem length_headerBytes (miniature : Miniature) : miniature.headerBytes.length = 512 := by
  have htable : (miniature.header.tableSectors.map (Bytes.ofNat 4)).flatten.length = 4 := rfl
  simp only [headerBytes, signature, List.length_append, List.length_cons, List.length_nil,
    List.length_replicate, Bytes.length_ofNat, htable]

/-- The table of the mini sectors can be read: it fits in its sector and covers no more than the
stream of the root, and its pointers rise. -/
def HasMiniTable (miniature : Miniature) : Prop :=
  miniature.file.table.chain? miniature.pages = some [miniature.pages] ∧
    (miniature.file.sectors.wholeSlice? miniature.pages).map
        (fun part => dropLastWhile (· = freeSector) (fields part)) =
      some (miniTableFrom 0 miniature.streams) ∧
    (miniTableFrom 0 miniature.streams).length ≤ miniature.root.length / 64 ∧
    miniature.file.miniTable.all (fun entry =>
      if entry ≤ maxSector then decide (entry < miniature.file.miniTable.size) else true) = true ∧
    (miniature.file.miniTable.toList.filter (· ≤ maxSector)).Pairwise (· < ·)

instance (miniature : Miniature) : Decidable miniature.HasMiniTable :=
  inferInstanceAs (Decidable (_ ∧ _ ∧ _ ∧ _ ∧ _))

theorem HasMiniTable.miniTable?_eq_some (h : miniature.HasMiniTable) :
    miniTable? miniature.file.sectors miniature.file.table miniature.file.directory
      miniature.header = some miniature.file.miniTable := by
  rcases h with ⟨hchain, hpart, hfits, hlinks, hrise⟩
  rcases Option.map_eq_some_iff.1 hpart with ⟨part, hpart, hentries⟩
  have hparts : [miniature.pages].mapM miniature.file.sectors.getWhole? = some [part] := by
    rw [Sectors.getWhole?_eq_wholeSlice?, List.mapM_cons, hpart]
    rfl
  have hfields : dropLastWhile (· = freeSector) (([part].map fields).flatten) =
      miniTableFrom 0 miniature.streams := by
    rw [List.map_singleton, List.flatten_singleton]
    exact hentries
  have hroot : miniature.file.directory[0]? = some miniature.root := by
    simp [file, directory]
  have hsound := Table.isSound_of_pairwise hlinks hrise
  exact Compound.miniTable?_eq_some hchain hparts hfields hroot hfits hsound

/-- The parts of a miniature can be read: each table fits in a sector, and the names are in
order. -/
structure IsReadable (miniature : Miniature) : Prop where
  header : Header.ofBytes? (miniature.bytes.take headerLength) = some miniature.header
  table : table? miniature.file.sectors miniature.header = some miniature.file.table
  directory : directory? miniature.file.sectors miniature.file.table miniature.header =
    some miniature.file.directory
  miniTable : miniature.HasMiniTable

theorem IsReadable.ofBytes_bytes (h : miniature.IsReadable) :
    File.ofBytes miniature.bytes = .ok miniature.file := by
  have hsectors : miniature.file.sectors =
      ⟨⟨miniature.bytes.toArray⟩, miniature.header.version.sectorLength⟩ := rfl
  have hlength : miniature.file.sectors.length ≤ miniature.file.sectors.file.size := by
    have hheader : 512 ≤ miniature.bytes.length := by
      simp only [bytes, List.length_append, length_headerBytes]
      omega
    exact hheader
  have hopen : File.open? miniature.bytes = some miniature.file :=
    File.open?_eq_some h.header hsectors hlength h.table h.directory h.miniTable.miniTable?_eq_some
  rw [File.ofBytes, hopen]

end Miniature

/-- A bitmap of four bytes, as it is stored. -/
def smallBitmap : Art.CompleteRecord where
  version := ⟨0, by decide⟩
  instanceId := ⟨0x6E0, by decide⟩
  recType := 0xF01E
  body := List.replicate 16 0 ++ [0xFF, 0x50, 0x4E, 0x47, 0x21]
  body_lt := by decide +kernel

end Container
end OfficePictures
