import OfficePictures.Compound.File

/-!
# File — the bytes of sectors and streams

* `Sectors.get_eq_slice` — a sector is a slice of the file;
* `File.length_streamBytes?` — a stream that is read has the length that the directory declares;
* `File.length_readStream_le` — and never more bytes than the limit;
* `File.readStreamIfPresent_eq_some` — a stream within the limit whose bytes are there is read.
-/

namespace OfficePictures
namespace Compound

/-! ## Sectors -/

namespace Sectors

/-- The bytes of a sector, cut out of the bytes of the file. -/
def slice (sectors : Sectors) (sector : Nat) : Bytes :=
  (sectors.file.data.toList.drop ((sector + 1) * sectors.length)).take sectors.length

theorem get_eq_slice : get = slice := by
  funext sectors sector
  simp [get, slice, ByteArray.data_extract]

def wholeSlice? (sectors : Sectors) (sector : Nat) : Option Bytes :=
  if sector < sectors.count ∧ (sectors.slice sector).length = sectors.length then
    some (sectors.slice sector)
  else
    none

theorem getWhole?_eq_wholeSlice? : getWhole? = wholeSlice? := by
  funext sectors sector
  simp only [getWhole?, wholeSlice?, get_eq_slice]

end Sectors

/-! ## Tables -/

theorem all_zip_tail_of_pairwise {pointers : List Nat} (h : pointers.Pairwise (· < ·)) :
    (pointers.zip pointers.tail).all (fun (pointer, next) => pointer ≠ next) = true := by
  induction pointers with
  | nil => rfl
  | cons first rest ih =>
      cases rest with
      | nil => rfl
      | cons second rest =>
          rcases List.pairwise_cons.1 h with ⟨hfirst, hrest⟩
          have hne : first ≠ second := Nat.ne_of_lt (hfirst second (List.mem_cons_self ..))
          rw [List.tail_cons, List.zip_cons_cons, List.all_cons, Bool.and_eq_true]
          exact ⟨decide_eq_true hne, ih hrest⟩

/-- A table whose pointers rise is sound if its entries are. -/
theorem Table.isSound_of_pairwise {table : Table} {marks : Nat → Bool}
    (hentries : table.all (fun entry =>
      if entry ≤ maxSector then decide (entry < table.size) else marks entry) = true)
    (hrise : (table.toList.filter (· ≤ maxSector)).Pairwise (· < ·)) :
    table.isSound marks = true := by
  have hsorted : (table.toList.filter (· ≤ maxSector)).mergeSort (· ≤ ·) =
      table.toList.filter (· ≤ maxSector) :=
    List.mergeSort_of_pairwise (hrise.imp fun hlt => decide_eq_true (Nat.le_of_lt hlt))
  unfold Table.isSound
  dsimp only
  rw [hsorted, hentries, all_zip_tail_of_pairwise hrise]
  rfl

theorem miniTable?_eq_some {sectors : Sectors} {table : Table} {directory : Directory}
    {header : Header} {chain : List Nat} {parts : List Bytes} {entries : List Nat} {root : Entry}
    (hchain : table.chain? header.firstMiniTableSector = some chain)
    (hparts : chain.mapM sectors.getWhole? = some parts)
    (hentries : dropLastWhile (· = freeSector) ((parts.map fields).flatten) = entries)
    (hroot : directory[0]? = some root) (hfits : entries.length ≤ root.length / 64)
    (hsound : Table.isSound entries.toArray (fun _ => true) = true) :
    miniTable? sectors table directory header = some entries.toArray := by
  subst hentries
  refine Option.bind_eq_some_iff.2 ⟨chain, hchain, ?_⟩
  refine Option.bind_eq_some_iff.2 ⟨parts, hparts, ?_⟩
  refine Option.bind_eq_some_iff.2 ⟨root, hroot, ?_⟩
  refine Option.bind_eq_some_iff.2 ⟨(), if_pos hfits, ?_⟩
  exact Option.bind_eq_some_iff.2 ⟨(), if_pos hsound, rfl⟩

/-! ## Files -/

/-- A file opens if its header, its tables and its directory can be read. -/
theorem File.open?_eq_some {bytes : Bytes} {header : Header} {sectors : Sectors}
    {table miniTable : Table} {directory : Directory}
    (hheader : Header.ofBytes? (bytes.take headerLength) = some header)
    (hsectors : sectors = ⟨⟨bytes.toArray⟩, header.version.sectorLength⟩)
    (hlength : sectors.length ≤ sectors.file.size) (htable : table? sectors header = some table)
    (hdirectory : directory? sectors table header = some directory)
    (hminiTable : miniTable? sectors table directory header = some miniTable) :
    File.open? bytes = some ⟨sectors, table, miniTable, directory⟩ := by
  subst hsectors
  refine Option.bind_eq_some_iff.2 ⟨header, hheader, ?_⟩
  refine Option.bind_eq_some_iff.2 ⟨(), if_pos hlength, ?_⟩
  refine Option.bind_eq_some_iff.2 ⟨table, htable, ?_⟩
  refine Option.bind_eq_some_iff.2 ⟨directory, hdirectory, ?_⟩
  refine Option.bind_eq_some_iff.2 ⟨miniTable, hminiTable, ?_⟩
  rfl

/-! ## Streams -/

/-- What is collected from a chain has the length that was asked for. -/
theorem length_collect {pieceLength : Nat} {piece : Nat → Option Bytes} {length : Nat}
    {chain : List Nat} {bytes : Bytes} (h : collect pieceLength piece length chain = some bytes) :
    bytes.length = length := by
  -- Each piece that is not the last one is whole, or nothing is collected.
  induction chain generalizing length bytes with
  | nil =>
      cases length with
      | zero =>
          cases h
          rfl
      | succ length => cases h
  | cons sector chain ih =>
      cases length with
      | zero =>
          cases h
          rfl
      | succ length =>
          simp only [collect, Option.bind_eq_bind, Option.bind_eq_some_iff] at h
          rcases h with ⟨found, -, h⟩
          split at h
          · cases h
          · rename_i hlong
            rcases Option.bind_eq_some_iff.1 h with ⟨more, hmore, hbytes⟩
            cases hbytes
            have hrest := ih hmore
            rw [List.length_take] at hlong
            rw [List.length_append, List.length_take, hrest]
            omega

namespace File

theorem length_streamBytes? {file : File} {entry : Entry} {bytes : Bytes}
    (h : file.streamBytes? entry = some bytes) : bytes.length = entry.length := by
  unfold streamBytes? at h
  split at h
  · rename_i hempty
    cases h
    exact hempty.symm
  · split at h
    · rcases Option.bind_eq_some_iff.1 h with ⟨chain, -, h⟩
      rcases Option.bind_eq_some_iff.1 h with ⟨root, -, h⟩
      rcases Option.bind_eq_some_iff.1 h with ⟨rootChain, -, h⟩
      exact length_collect h
    · rcases Option.bind_eq_some_iff.1 h with ⟨chain, -, h⟩
      exact length_collect h

/-- A stream that is read is within the limit. -/
theorem length_readStream_le {file : File} {limits : Limits} {name : String} {bytes : Bytes}
    (h : file.readStream limits name = .ok bytes) : bytes.length ≤ limits.maxStreamBytes := by
  unfold readStream at h
  split at h
  · cases h
  · rename_i entry _
    split at h
    · cases h
    · rename_i hfits
      split at h
      · cases h
      · rename_i found hfound
        cases h
        rw [length_streamBytes? hfound]
        exact Nat.le_of_not_lt hfits

theorem hasStream_of_readStream {file : File} {limits : Limits} {name : String} {bytes : Bytes}
    (h : file.readStream limits name = .ok bytes) : file.hasStream name = true := by
  unfold readStream at h
  split at h
  · cases h
  · rename_i entry hentry
    rw [hasStream, hentry]
    rfl

/-- A stream that is read if it is there was there. -/
theorem readStream_of_ifPresent {file : File} {limits : Limits} {name : String} {bytes : Bytes}
    (h : file.readStreamIfPresent limits name = .ok (some bytes)) :
    file.readStream limits name = .ok bytes := by
  unfold readStreamIfPresent at h
  split at h
  · cases hread : file.readStream limits name with
    | error fault =>
        rw [hread] at h
        cases h
    | ok found =>
        rw [hread] at h
        cases h
        rfl
  · cases h

/-- The file holds a stream of the given name and bytes. -/
def Holds (file : File) (name : String) (bytes : Bytes) : Prop :=
  (file.stream? name).bind file.streamBytes? = some bytes

theorem Holds.readStream {file : File} {name : String} {bytes : Bytes} (h : file.Holds name bytes)
    {limits : Limits} (hfits : bytes.length ≤ limits.maxStreamBytes) :
    file.readStream limits name = .ok bytes := by
  rcases Option.bind_eq_some_iff.1 h with ⟨entry, hentry, hbytes⟩
  rw [length_streamBytes? hbytes] at hfits
  simp only [File.readStream, hentry, if_neg (Nat.not_lt.2 hfits), hbytes]

theorem Holds.readStreamIfPresent {file : File} {name : String} {bytes : Bytes}
    (h : file.Holds name bytes) {limits : Limits} (hfits : bytes.length ≤ limits.maxStreamBytes) :
    file.readStreamIfPresent limits name = .ok (some bytes) := by
  rcases Option.bind_eq_some_iff.1 h with ⟨entry, hentry, -⟩
  have hpresent : file.hasStream name = true := by
    rw [hasStream, hentry]
    rfl
  rw [File.readStreamIfPresent, if_pos hpresent, h.readStream hfits]
  rfl

theorem readStreamIfPresent_eq_some {file : File} {limits : Limits} {name : String}
    {entry : Entry} {bytes : Bytes} (hentry : file.stream? name = some entry)
    (hfits : entry.length ≤ limits.maxStreamBytes) (hbytes : file.streamBytes? entry = some bytes) :
    file.readStreamIfPresent limits name = .ok (some bytes) := by
  have hholds : file.Holds name bytes := Option.bind_eq_some_iff.2 ⟨entry, hentry, hbytes⟩
  rw [← length_streamBytes? hbytes] at hfits
  exact hholds.readStreamIfPresent hfits

theorem readStreamIfPresent_eq_none {file : File} {limits : Limits} {name : String}
    (habsent : file.hasStream name = false) :
    file.readStreamIfPresent limits name = .ok none := by
  rw [readStreamIfPresent, habsent]
  rfl

end File
end Compound
end OfficePictures
