import OfficePictures.Proofs.Art.Location
import OfficePictures.Proofs.Container.Miniature
import OfficePictures.Proofs.Word.Document
import OfficePictures.Toolkit.BuiltIn

/-!
# Location — what the names of the pictures of a Word document tell

A picture of a Word document is named for the place where its stored bytes begin.  The place counts
from the start of the stream that holds them, which is the table stream, the document stream, or the
data stream.

* `isFromBlock_of_inlinePictures` — an inline picture is located inside its block;
* `isNamedForPlace_of_pictures` — a stream of the document holds the stored bytes of a picture at
  the place that its name tells;
* `offsets_locate` — all of it together.
-/

namespace OfficePictures
namespace Word

open Compound

variable {limits : Limits} {stream : Bytes}

/-! ## Blocks -/

/-- The picture is that of a block at one of the locations.  It comes from a record between the
header and the end of the block, or it is all that stands there. -/
def IsFromBlock (blip : Art.Blip) (stream : Bytes) (locations : List UInt32) : Prop :=
  ∃ location ∈ locations, ∃ blockEnd, blockEnd? stream location.toNat = some blockEnd ∧
    ((∃ record, record.header.isBlip = true ∧
        location.toNat + blockHeaderLength ≤ record.offset ∧
          record.offset + record.size ≤ blockEnd ∧ blip.Located record stream 0) ∨
      blip.kind = .wmf ∧ blip.offset = location.toNat + blockHeaderLength ∧
        Bytes.StandsAt blip.data stream 0 blip.offset ∧
          blip.offset + blip.data.length = blockEnd)

/-- The record of a picture lies wherever the record that yields it lies. -/
theorem liesIn_of_recordPictures {record : Art.Record} {list : List Art.Blip} {blip : Art.Blip}
    {source : Bytes} {base : Nat} (h : recordPictures limits record = .ok list)
    (hmem : blip ∈ list) (hlies : record.LiesIn source base) :
    ∃ picture, picture.header.isBlip = true ∧ picture.LiesIn source base ∧
      Art.Blip.decode limits picture = .ok blip := by
  rcases mem_recordPictures h hmem with
    ⟨entry, picture, -, hentry, hembedded, hdecode⟩ | ⟨hblip, hdecode⟩
  · rcases Art.StoreEntry.liesIn_of_embedded hentry hembedded with ⟨hblip, hinner⟩
    exact ⟨picture, hblip, hinner.of_body hlies, hdecode⟩
  · exact ⟨record, hblip, hlies, hdecode⟩

theorem isFromBlock_of_inlinePictures {locations : List UInt32} {list : List Art.Blip}
    {blip : Art.Blip} (h : inlinePictures stream locations limits = .ok list)
    (hmem : blip ∈ list) : IsFromBlock blip stream locations := by
  rcases mem_inlinePictures h hmem with ⟨location, hlocation, blockEnd, hend, found, hfound, hblip⟩
  rcases blockEnd?_bounds hend with ⟨hheader, hinside⟩
  refine ⟨location, hlocation, blockEnd, hend, ?_⟩
  have hlength : (blockAt stream location.toNat blockEnd).length = blockEnd - location.toNat := by
    rw [blockAt, List.length_take, List.length_drop]
    omega
  rcases mem_blockPictures hfound hblip with
    ⟨start, hstart, record, hrecord, yielded, hyielded, hblip⟩ | ⟨rfl, -⟩
  · left
    rcases liesIn_of_recordPictures hyielded hblip (Art.Record.liesIn_of_mem_scan hrecord) with
      ⟨picture, hisBlip, hlies, hdecode⟩
    -- The record lies in what follows the header, which bounds it in front, and in the whole block,
    -- which bounds it behind.
    have hblock : picture.LiesIn (blockAt stream location.toNat blockEnd) location.toNat :=
      hlies.of_drop rfl
    have hfront := hlies.base_le
    have hback := hblock.end_le
    have hstream : picture.LiesIn stream 0 := hblock.of_take.of_drop (Nat.zero_add _).symm
    refine ⟨picture, hisBlip, ?_, ?_, Art.Blip.located_of_decode hdecode hstream⟩
    · omega
    · rw [hlength] at hback
      omega
  · right
    have hstands := Bytes.standsAt_drop_take stream 0
      (Nat.le_trans hheader hinside) (blockEnd - location.toNat - blockHeaderLength)
    refine ⟨rfl, rfl, ?_, ?_⟩
    · rw [Nat.zero_add] at hstands
      rw [bareMetafile, blockAt, List.drop_take, List.drop_drop]
      exact hstands
    · rw [bareMetafile, List.length_drop, hlength]
      dsimp only
      omega

/-! ## Documents -/

/-- The stored bytes of a picture stand in a stream at the offset of the picture. -/
def IsStoredIn (blip : Art.Blip) (stream : Bytes) : Prop :=
  (∃ record, record.header.isBlip = true ∧ blip.Located record stream 0) ∨
    blip.kind = .wmf ∧ Bytes.StandsAt blip.data stream 0 blip.offset

theorem IsFromBlock.isStoredIn {blip : Art.Blip} {locations : List UInt32}
    (h : IsFromBlock blip stream locations) : IsStoredIn blip stream := by
  rcases h with ⟨_, -, _, -, ⟨record, hblip, -, -, hlocated⟩ | ⟨hkind, -, hstands, -⟩⟩
  · exact .inl ⟨record, hblip, hlocated⟩
  · exact .inr ⟨hkind, hstands⟩

/-- A picture of a drawing group in the table stream, which delays pictures to the document stream,
is stored in one of the two. -/
theorem isStoredIn_of_isFromStore {blip : Art.Blip} {table group : Bytes} {range : TableRange}
    (hslice : range.slice? table = some group)
    (h : blip.IsFromStore group range.offset (some ⟨stream, 0⟩)) :
    IsStoredIn blip table ∨ IsStoredIn blip stream := by
  rcases h with ⟨_, _, record, -, -, -, hblip, ⟨-, hlocated⟩ | ⟨delay, hdelay, -, -, hlocated⟩⟩
  · left
    unfold TableRange.slice? Bytes.slice? at hslice
    split at hslice
    · rename_i hinside
      cases hslice
      exact .inl ⟨record, hblip, hlocated.of_part (by omega) (Nat.zero_add _).symm⟩
    · cases hslice
  · cases hdelay
    exact .inr (.inl ⟨record, hblip, hlocated⟩)

/-- The name of the picture is the place, in lower-case hexadecimal digits, where a stream of the
document holds its stored bytes. -/
def IsNamedForPlace (picture : Picture) (content : Bytes) (limits : Limits) : Prop :=
  ∃ (reading : Reading content limits) (blip : Art.Blip) (extension name : String) (stream : Bytes),
    picture.name = some (Text.hex blip.offset ++ "." ++ extension) ∧
      picture.kind = blip.kind ∧ picture.data = blip.data ∧
        (name = reading.fib.tableStream.name ∨ name = "WordDocument" ∨ name = "Data") ∧
          reading.file.readStream limits name = .ok stream ∧ IsStoredIn blip stream

theorem isNamedForPlace_of_pictures [Toolkit] {content : Bytes} {list : List Picture}
    {picture : Picture} (h : pictures content limits = .ok list) (hmem : picture ∈ list) :
    IsNamedForPlace picture content limits := by
  rcases mem_pictures h hmem with ⟨reading, blip, rfl, hblip⟩
  have hstream : ∃ name stream, (name = reading.fib.tableStream.name ∨ name = "WordDocument" ∨
      name = "Data") ∧ reading.file.readStream limits name = .ok stream ∧
        IsStoredIn blip stream := by
    rcases hblip with
      ⟨range, group, blips, -, hslice, hblips, hmem⟩ | ⟨data, blips, hread, hblips, hmem⟩
    · have hstore := Art.isFromStore_of_blipStorePictures hblips hmem
      rcases isStoredIn_of_isFromStore hslice hstore with htable | hdocument
      · exact ⟨_, _, .inl rfl, reading.readTable, htable⟩
      · exact ⟨_, _, .inr (.inl rfl), reading.readStream, hdocument⟩
    · have hblock := isFromBlock_of_inlinePictures hblips hmem
      exact ⟨_, _, .inr (.inr rfl), hread, hblock.isStoredIn⟩
  rcases hstream with ⟨name, stream, hname, hread, hstored⟩
  exact ⟨reading, blip, _, name, stream, rfl, rfl, rfl, hname, hread, hstored⟩

/-- Offsets locate pictures: those of a drawing group in the group or in the stream of delayed
pictures, those of a data stream in their blocks, and those of a document, of which names are made,
in the streams of the document. -/
theorem offsets_locate [Toolkit] :
    (∀ data base delay limits list, Art.blipStorePictures data base delay limits = .ok list →
      ∀ blip ∈ list, blip.IsFromStore data base delay) ∧
    (∀ stream locations limits list, inlinePictures stream locations limits = .ok list →
      ∀ blip ∈ list, IsFromBlock blip stream locations) ∧
    (∀ content limits list, pictures content limits = .ok list →
      ∀ picture ∈ list, IsNamedForPlace picture content limits) :=
  ⟨fun _ _ _ _ _ h _ hmem => Art.isFromStore_of_blipStorePictures h hmem,
    fun _ _ _ _ h _ hmem => isFromBlock_of_inlinePictures h hmem,
    fun _ _ _ h _ hmem => isNamedForPlace_of_pictures h hmem⟩

/-! ## A letter with three pictures -/

/-- A metafile of one byte. -/
def letterMetafile : Art.CompleteRecord where
  version := Container.smallBitmap.version
  instanceId := ⟨0x216, by decide⟩
  recType := 0xF01B
  body := List.replicate 48 0 ++ [0xFE, 0xFE, 0x57]
  body_lt := by decide +kernel

/-- An entry in use without a name. -/
def letterEntry (size delayOffset : Nat) (rest : Bytes) : Bytes :=
  let body := List.replicate 20 0 ++ Bytes.ofNat 4 size ++ Bytes.ofNat 4 1 ++
    Bytes.ofNat 4 delayOffset ++ List.replicate 4 0 ++ rest
  [0x02, 0, 0x07, 0xF0] ++ Bytes.ofNat 4 body.length ++ body

/-- The metafile in the group, and the bitmap delayed to the place 446 of the document stream. -/
def letterGroup : Bytes :=
  let store := letterEntry 59 0 letterMetafile.bytes ++ letterEntry 29 446 []
  [0x0F, 0, 0x00, 0xF0] ++ Bytes.ofNat 4 (8 + store.length) ++
    [0x2F, 0, 0x01, 0xF0] ++ Bytes.ofNat 4 store.length ++ store

/-- The table of pages, with the page of number zero only, and the group behind it. -/
def letterTable : Bytes :=
  Bytes.ofNat 4 0 ++ Bytes.ofNat 4 1 ++ Bytes.ofNat 4 0 ++ letterGroup

/-- The document stream.  It is its own page of properties, with the list of one run, which stands
for the picture at the place 2 of the data stream. -/
def letterStream : Bytes :=
  [0xEC, 0xA5, 0xC1, 0, 0, 0, 0, 0, 0xEE, 0, 0, 2] ++ List.replicate 24 0 ++ [51, 0] ++
    List.replicate 96 0 ++ Bytes.ofNat 4 0 ++ Bytes.ofNat 4 12 ++ List.replicate 296 0 ++
    Bytes.ofNat 4 12 ++ Bytes.ofNat 4 letterGroup.length ++ Container.smallBitmap.bytes ++
    [0, 9, 0x55, 0x08, 1, 0x03, 0x6A, 2, 0, 0, 0] ++ List.replicate 25 0 ++ [1]

/-- A bare metafile of three bytes, in a block behind two bytes. -/
def letterData : Bytes :=
  [0, 0] ++ Bytes.ofNat 4 71 ++ [68, 0, 8, 0] ++ List.replicate 60 0 ++ [1, 2, 3]

def letter : Container.Miniature :=
  ⟨[("WordDocument", letterStream), ("1Table", letterTable), ("Data", letterData)]⟩

def letterLimits : Limits :=
  ⟨4, 512⟩

def letterStored : List Art.Blip :=
  [⟨.wmf, Art.placeableHeader (List.replicate 34 0) ++ [0x57], 130⟩,
    ⟨.png, [0x50, 0x4E, 0x47, 0x21], 471⟩]

def letterInlined : List Art.Blip :=
  [⟨.wmf, [1, 2, 3], 70⟩]

theorem stored_letter :
    Art.blipStorePictures letterGroup 12 (some ⟨letterStream, 0⟩) letterLimits =
      .ok letterStored :=
  Result.ok_of_toOption (by decide +kernel)

theorem inlined_letter : inlinePictures letterData [2] letterLimits = .ok letterInlined :=
  Result.ok_of_toOption (by decide +kernel)

theorem isReadable_letter : letter.IsReadable where
  header := by decide +kernel
  table := by
    unfold table?
    rw [Sectors.getWhole?_eq_wholeSlice?]
    decide +kernel
  directory := by
    unfold directory?
    rw [Sectors.getWhole?_eq_wholeSlice?]
    decide +kernel
  miniTable := by decide +kernel

theorem holds_letter :
    letter.file.Holds "WordDocument" letterStream ∧ letter.file.Holds "1Table" letterTable ∧
      letter.file.Holds "Data" letterData := by
  unfold File.Holds File.streamBytes? File.miniSector?
  rw [Sectors.get_eq_slice]
  decide +kernel

def letterFib : Fib :=
  ⟨.one, some ⟨0, 12⟩, some ⟨12, letterGroup.length⟩⟩

def letterReading : Reading letter.bytes letterLimits where
  file := letter.file
  stream := letterStream
  fib := letterFib
  table := letterTable
  locations := [2]
  ofBytes := isReadable_letter.ofBytes_bytes
  readStream := holds_letter.1.readStream (by decide +kernel)
  readFib := Result.ok_of_toOption (by decide +kernel)
  readTable := holds_letter.2.1.readStream (by decide +kernel)
  inlineLocations := Result.ok_of_toOption (by decide +kernel)

theorem drawingGroupPictures_letter :
    drawingGroupPictures letterLimits letterFib letterStream letterTable = .ok letterStored := by
  have hrange : letterFib.drawingGroup = some ⟨12, letterGroup.length⟩ := rfl
  have hgroup : tablePart .drawingGroup letterFib.tableStream letterTable
      ⟨12, letterGroup.length⟩ = .ok letterGroup := Result.ok_of_toOption (by decide +kernel)
  rw [drawingGroupPictures_eq hrange hgroup]
  exact stored_letter

theorem dataPictures_letter :
    dataPictures letterLimits letter.file [2] = .ok letterInlined := by
  have hdata : letter.file.readStreamIfPresent letterLimits "Data" = .ok (some letterData) :=
    holds_letter.2.2.readStreamIfPresent (by decide +kernel)
  rw [dataPictures_eq (List.cons_ne_nil _ _) hdata]
  exact inlined_letter

theorem pictures_letter [Toolkit] :
    pictures letter.bytes letterLimits = .ok ((letterStored ++ letterInlined).map toPicture) :=
  letterReading.pictures_eq_ok drawingGroupPictures_letter dataPictures_letter

theorem offsets_locate_letter :
    (∀ blip ∈ letterStored, blip.IsFromStore letterGroup 12 (some ⟨letterStream, 0⟩)) ∧
    (∀ blip ∈ letterInlined, IsFromBlock blip letterData [2]) ∧
    (∀ picture ∈ (letterStored ++ letterInlined).map toPicture,
      IsNamedForPlace picture letter.bytes letterLimits) :=
  ⟨offsets_locate.1 _ _ _ _ _ stored_letter, offsets_locate.2.1 _ _ _ _ inlined_letter,
    offsets_locate.2.2 _ _ _ pictures_letter⟩

end Word
end OfficePictures
