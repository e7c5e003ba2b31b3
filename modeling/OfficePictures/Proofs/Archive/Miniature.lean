import OfficePictures.Archive.Directory
import OfficePictures.Proofs.Archive.Entry

/-!
# Miniature — small archives

The writer's side of an archive: a local header and the stored bytes for each file, and behind them
the directory with the end record.

* `crc32_eq_crcFrom` — the checksum, worked out step by step;
* `Packing` — a content and what is stored for it;
* `StoredFile.holds_entry` — the entry of a stored file holds its content.
-/

namespace OfficePictures

/-! ## Checksums -/

/-- The checksum of bytes behind others; `r` is the remainder that these leave, worked out before
the next step is taken. -/
def Checksum.crcFrom : (r : Nat) → Bytes → UInt32
  | r, [] => UInt32.ofNat r ^^^ 0xFFFFFFFF
  | r, b :: rest =>
      match (crcByte (UInt32.ofNat r) b).toNat with
      | 0 => crcFrom 0 rest
      | r + 1 => crcFrom (r + 1) rest

theorem Checksum.crcFrom_eq (r : Nat) (bytes : Bytes) :
    crcFrom r bytes = bytes.foldl crcByte (UInt32.ofNat r) ^^^ 0xFFFFFFFF := by
  induction bytes generalizing r with
  | nil => rfl
  | cons b rest ih =>
      have hstep : ∀ n, (match n with
          | 0 => crcFrom 0 rest
          | r + 1 => crcFrom (r + 1) rest) = crcFrom n rest := by
        intro n
        cases n <;> rfl
      rw [crcFrom, hstep, ih, UInt32.ofNat_toNat, List.foldl_cons]

theorem Checksum.crc32_eq_crcFrom (bytes : Bytes) : crc32 bytes = crcFrom 0xFFFFFFFF bytes := by
  rw [crcFrom_eq]
  rfl

namespace Archive

variable [Toolkit]

/-! ## Files -/

/-- The bytes of a text of ASCII characters. -/
def asciiBytes (text : String) : Bytes :=
  text.toUTF8.data.toList

/-- What is stored for a content: bytes from which the decoder of the method gets it back. -/
structure Packing (content : Bytes) where
  method : Nat
  stored : Bytes
  delivers : ∃ decode, Decoder.ofMethod? method = some decode ∧
    ∀ count, decode stored content.length count = some (content.take count)
  deriving DecidableEq

/-- The content itself. -/
def Packing.plain (content : Bytes) : Packing content :=
  ⟨0, content, Decoder.plain, rfl, fun _ => rfl⟩

/-- A file to be stored, with a name of ASCII characters. -/
structure StoredFile where
  name : String
  content : Bytes
  packing : Packing content := .plain content
  checksum : UInt32
  length_lt : content.length < UInt16.size
  checksum_eq : Checksum.crc32 content = checksum
  deriving DecidableEq

namespace StoredFile

/-- The fields that both headers of a file have: it is not encrypted, and as old as files can be. -/
def fields (file : StoredFile) : Bytes :=
  Bytes.ofNat 2 20 ++ List.replicate 2 0 ++ Bytes.ofNat 2 file.packing.method ++
    List.replicate 2 0 ++ Bytes.ofNat 2 33 ++ Bytes.ofU32 file.checksum ++
    Bytes.ofNat 4 file.packing.stored.length ++ Bytes.ofNat 4 file.content.length ++
    Bytes.ofNat 2 (asciiBytes file.name).length ++ Bytes.ofNat 2 0

def localBytes (file : StoredFile) : Bytes :=
  localMark ++ file.fields ++ asciiBytes file.name ++ file.packing.stored

/-- The directory header of a file whose local header is at `offset`. -/
def directoryBytes (file : StoredFile) (offset : Nat) : Bytes :=
  directoryMark ++ Bytes.ofNat 2 20 ++ file.fields ++ List.replicate 10 0 ++ Bytes.ofNat 4 offset ++
    asciiBytes file.name

/-- The entry of a file whose local header is at `offset`. -/
def entry (file : StoredFile) (offset : Nat) : Entry where
  name := file.name.toList
  isEncrypted := false
  method := file.packing.method
  checksum := file.checksum
  length := file.content.length
  headerOffset := offset
  time := some ⟨1980, 1, 1, 0, 0, 0⟩
  stored := file.packing.stored

@[simp] theorem name_entry (file : StoredFile) (offset : Nat) :
    (file.entry offset).name = file.name.toList :=
  rfl

theorem holds_entry (file : StoredFile) (offset : Nat) : (file.entry offset).Holds file.content where
  exists_decoder := file.packing.delivers
  length_lt := Nat.lt_trans file.length_lt (by decide)
  checksum_eq := file.checksum_eq

theorem read_entry {file : StoredFile} {limit : Nat} (h : file.content.length ≤ limit)
    (offset : Nat) : (file.entry offset).read limit = .ok file.content := by
  rw [(file.holds_entry offset).read]
  exact if_pos ⟨h, h⟩

end StoredFile

/-! ## Archives -/

/-- The entries of files that follow one another, the first of them at `offset`. -/
def entriesOf : (offset : Nat) → List StoredFile → List Entry
  | _, [] => []
  | offset, file :: files => file.entry offset :: entriesOf (offset + file.localBytes.length) files

/-- The directory headers of files that follow one another, the first of them at `offset`. -/
def directoryOf : (offset : Nat) → List StoredFile → Bytes
  | _, [] => []
  | offset, file :: files =>
      file.directoryBytes offset ++ directoryOf (offset + file.localBytes.length) files

/-- The archive of the files. -/
def archiveBytes (files : List StoredFile) : Bytes :=
  let contents := files.flatMap (·.localBytes)
  let directory := directoryOf 0 files
  contents ++ directory ++ endMark ++ Bytes.ofNat 4 0 ++ Bytes.ofNat 2 files.length ++
    Bytes.ofNat 2 files.length ++ Bytes.ofNat 4 directory.length ++ Bytes.ofNat 4 contents.length ++
    Bytes.ofNat 2 0

end Archive
end OfficePictures
