import OfficePictures.Proofs.Art.BlipStore
import OfficePictures.Proofs.Bytes
import OfficePictures.Word.InlinePicture

/-!
# InlinePicture — what the pictures of a block come from

* `mem_recordPictures` — a picture comes from an entry with its own picture, or from a record that
  is one;
* `HasBlock`, `blockEnd?_eq_some_iff` — a block and its length;
* `mem_blockPictures` — a picture of a block comes from one of its art records, or is the block
  without its header;
* `mem_inlinePictures` — a picture of a data stream is that of a block at one of the locations;
* `tightened_inlinePictures` — tighter limits give the same pictures or refuse them.
-/

namespace OfficePictures
namespace Word

variable {limits tight wide : Limits} {record : Art.Record} {blip : Art.Blip}
  {list : List Art.Blip} {stream block : Bytes} {position length : Nat}

/-! ## Records -/

theorem recordPictures_eq (limits : Limits) (record : Art.Record) :
    recordPictures limits record =
      if record.header.recType = Art.storeEntryType then Art.entryPictures limits none record
      else if record.header.isBlip then Art.decoded limits record
      else .ok [] := by
  unfold recordPictures Art.decoded
  cases Art.Blip.decode limits record <;> rfl

theorem mem_recordPictures (h : recordPictures limits record = .ok list) (hmem : blip ∈ list) :
    (∃ entry picture, record.header.recType = Art.storeEntryType ∧
      Art.StoreEntry.ofRecord record = .ok entry ∧ entry.embedded = some picture ∧
        Art.Blip.decode limits picture = .ok blip) ∨
      record.header.isBlip = true ∧ Art.Blip.decode limits record = .ok blip := by
  rw [recordPictures_eq] at h
  split at h
  · rename_i htype
    rcases Art.mem_entryPictures h hmem with ⟨entry, picture, hentry, hresolve, hdecode⟩
    -- Without a stream of delayed pictures only the entry itself can hold the record.
    rcases Art.StoreEntry.mem_resolve hresolve with hembedded | ⟨stream, hnone, -⟩
    · exact .inl ⟨entry, picture, htype, hentry, hembedded, hdecode⟩
    · cases hnone
  · split at h
    · rename_i hblip
      exact .inr ⟨hblip, Art.mem_decoded h hmem⟩
    · cases h
      cases hmem

/-! ## Blocks and their length -/

/-- A block begins at `position`: its header tells the length, and the stream has all of it. -/
structure HasBlock (stream : Bytes) (position length : Nat) : Prop where
  length_field : stream.Holds position 4 length
  header_field : stream.Holds (position + 4) 2 blockHeaderLength
  header_le : blockHeaderLength ≤ length
  le_length : position + length ≤ stream.length

instance (stream : Bytes) (position length : Nat) : Decidable (HasBlock stream position length) :=
  decidable_of_iff
    (stream.Holds position 4 length ∧ stream.Holds (position + 4) 2 blockHeaderLength ∧
      blockHeaderLength ≤ length ∧ position + length ≤ stream.length)
    ⟨fun ⟨hlength, hheader, hle, hinside⟩ => ⟨hlength, hheader, hle, hinside⟩,
      fun ⟨hlength, hheader, hle, hinside⟩ => ⟨hlength, hheader, hle, hinside⟩⟩

theorem blockEnd?_eq_some_iff {blockEnd : Nat} :
    blockEnd? stream position = some blockEnd ↔
      ∃ length, HasBlock stream position length ∧ blockEnd = position + length := by
  constructor
  · intro h
    rcases Option.bind_eq_some_iff.1 h with ⟨told, htold, h⟩
    rcases Option.bind_eq_some_iff.1 h with ⟨header, hheader, h⟩
    rcases Option.ite_none_left_eq_some.1 h with ⟨hvalid, h⟩
    rcases Option.ite_none_left_eq_some.1 h with ⟨hinside, h⟩
    have hlength : header.toNat = blockHeaderLength ∧ blockHeaderLength ≤ told.toNat := by
      omega
    refine ⟨told.toNat, ⟨Bytes.u32?_eq_some_iff.1 htold, ?_, hlength.2, Nat.not_lt.1 hinside⟩,
      (Option.some.inj h).symm⟩
    rw [← hlength.1]
    exact Bytes.u16?_eq_some_iff.1 hheader
  · rintro ⟨length, hblock, rfl⟩
    -- A length that stands in four bytes is the number of such a field.
    have htold : (UInt32.ofNat length).toNat = length :=
      UInt32.toNat_ofNat_of_lt' hblock.length_field.lt
    have hfield : Bytes.u32? stream position = some (UInt32.ofNat length) := by
      apply Bytes.u32?_eq_some_iff.2
      rw [htold]
      exact hblock.length_field
    have hheader : Bytes.u16? stream (position + 4) = some 68 :=
      Bytes.u16?_eq_some_iff.2 hblock.header_field
    have hvalid : ¬ ((68 : UInt16).toNat ≠ blockHeaderLength ∨ length < blockHeaderLength) := by
      intro h
      rcases h with h | h
      · exact h rfl
      · exact Nat.not_lt.2 hblock.header_le h
    unfold blockEnd?
    simp only [hfield, hheader, htold, bind, Option.bind_some]
    rw [if_neg hvalid, if_neg (Nat.not_lt.2 hblock.le_length)]

theorem blockEnd?_bounds {blockEnd : Nat} (h : blockEnd? stream position = some blockEnd) :
    position + blockHeaderLength ≤ blockEnd ∧ blockEnd ≤ stream.length := by
  rcases blockEnd?_eq_some_iff.1 h with ⟨length, hblock, rfl⟩
  exact ⟨Nat.add_le_add_left hblock.header_le _, hblock.le_length⟩

/-! ## The pictures of a block -/

/-- The length of the name of a file in front of the art records, with the byte that tells it; no
name reaches behind its block. -/
def nameLength (content : Bytes) : Nat :=
  min (1 + (content.head?.getD 0).toNat) content.length

/-- The picture that a block without art records holds: all behind its header. -/
def bareMetafile (block : Bytes) (position : Nat) : Art.Blip where
  kind := .wmf
  data := block.drop blockHeaderLength
  offset := position + blockHeaderLength

theorem blockPictures_eq (limits : Limits) (block : Bytes) (position : Nat) :
    blockPictures limits block position =
      if (Bytes.u16? block 6).getD 0 = namedShapeForm then
        shapePictures limits
          (block.drop (blockHeaderLength + nameLength (block.drop blockHeaderLength)))
          (position + (blockHeaderLength + nameLength (block.drop blockHeaderLength)))
      else if (Bytes.u16? block 6).getD 0 = shapeForm then
        shapePictures limits (block.drop blockHeaderLength) (position + blockHeaderLength)
      else if block.drop blockHeaderLength = [] then
        .ok []
      else
        (limits.check (block.drop blockHeaderLength).length).map fun _ =>
          [bareMetafile block position] := by
  unfold blockPictures
  rw [← List.drop_drop, ← Nat.add_assoc]
  dsimp only [nameLength, bareMetafile]
  cases limits.check (block.drop blockHeaderLength).length <;> rfl

theorem mem_blockPictures (h : blockPictures limits block position = .ok list)
    (hmem : blip ∈ list) :
    (∃ start, blockHeaderLength ≤ start ∧
      ∃ record ∈ (Art.Record.scan (block.drop start) (position + start)).items,
        ∃ found, recordPictures limits record = .ok found ∧ blip ∈ found) ∨
      blip = bareMetafile block position ∧ blip.data.length ≤ limits.maxPictureBytes := by
  rw [blockPictures_eq] at h
  split at h
  · exact .inl ⟨_, Nat.le_add_right _ _, Walk.mem_of_gather h hmem⟩
  · split at h
    · exact .inl ⟨_, Nat.le_refl _, Walk.mem_of_gather h hmem⟩
    · split at h
      · cases h
        cases hmem
      · rcases Result.exists_of_map h with ⟨_, hcheck, rfl⟩
        cases List.mem_singleton.1 hmem
        exact .inr ⟨rfl, Limits.fits_of_check hcheck⟩

/-- The bytes of the block at `position` that ends at `blockEnd`. -/
def blockAt (stream : Bytes) (position blockEnd : Nat) : Bytes :=
  (stream.drop position).take (blockEnd - position)

/-- A field of the header of a block is a field of the stream. -/
theorem u16?_blockAt {stop offset : Nat} (h : position + offset + 2 ≤ stop) :
    Bytes.u16? (blockAt stream position stop) offset = Bytes.u16? stream (position + offset) := by
  rw [Bytes.u16?, Bytes.u16?, blockAt, Bytes.natAt?_take _ (by omega), Bytes.natAt?_drop]

theorem drop_blockAt (stream : Bytes) (position stop count : Nat) :
    (blockAt stream position stop).drop count =
      (stream.drop (position + count)).take (stop - (position + count)) := by
  rw [blockAt, List.drop_take, List.drop_drop, Nat.sub_sub]

/-- The art records behind the name of a file begin at the end of the name, or there are none and
the block ends there.  Where the block has a header only, the length of the name is read behind the
block; that does not matter. -/
theorem add_nameLength {start stop : Nat} (hstart : start ≤ stop)
    (hstop : stop ≤ stream.length) :
    start + nameLength ((stream.drop start).take (stop - start)) =
      min (start + 1 + (stream[start]?.getD 0).toNat) stop := by
  have hlength : ((stream.drop start).take (stop - start)).length = stop - start := by
    rw [Bytes.length_take_drop]
    omega
  unfold nameLength
  rw [hlength]
  rcases Nat.eq_or_lt_of_le hstart with rfl | hlt
  · omega
  · have hhead : ((stream.drop start).take (stop - start)).head? = stream[start]? := by
      rw [List.head?_take, if_neg (by omega), List.head?_drop]
    rw [hhead]
    omega

theorem mem_inlinePictures {locations : List UInt32}
    (h : inlinePictures stream locations limits = .ok list) (hmem : blip ∈ list) :
    ∃ location ∈ locations, ∃ blockEnd, blockEnd? stream location.toNat = some blockEnd ∧
      ∃ found, blockPictures limits (blockAt stream location.toNat blockEnd) location.toNat =
        .ok found ∧ blip ∈ found := by
  rcases Walk.mem_of_gatherItems h hmem with ⟨location, hlocation, found, hfound, hblip⟩
  unfold locationPictures at hfound
  dsimp only at hfound
  split at hfound
  · cases hfound
    cases hblip
  · rename_i blockEnd hend
    exact ⟨location, hlocation, blockEnd, hend, found, hfound, hblip⟩

/-! ## Tighter limits -/

section Tightened

open Result

theorem tightened_shapePictures (hle : tight.maxPictureBytes ≤ wide.maxPictureBytes)
    (content : Bytes) (offset : Nat) :
    Tightened (· = .tooLarge tight.maxPictureBytes) (shapePictures tight content offset)
      (shapePictures wide content offset) := by
  refine Walk.tightened_gather (fun record => ?_) _
  rw [recordPictures_eq, recordPictures_eq]
  split
  · exact Art.tightened_entryPictures hle none record
  · split
    · exact Art.tightened_decoded hle record
    · exact .refl _

theorem tightened_blockPictures (hle : tight.maxPictureBytes ≤ wide.maxPictureBytes)
    (block : Bytes) (position : Nat) :
    Tightened (· = .tooLarge tight.maxPictureBytes) (blockPictures tight block position)
      (blockPictures wide block position) := by
  rw [blockPictures_eq, blockPictures_eq]
  split
  · exact tightened_shapePictures hle _ _
  · split
    · exact tightened_shapePictures hle _ _
    · split
      · exact .refl _
      · exact (Limits.tightened_check hle _).map _

theorem tightened_inlinePictures (hle : tight.maxPictureBytes ≤ wide.maxPictureBytes)
    (stream : Bytes) (locations : List UInt32) :
    Tightened (· = .tooLarge tight.maxPictureBytes) (inlinePictures stream locations tight)
      (inlinePictures stream locations wide) := by
  refine Walk.tightened_gatherItems (fun location => ?_) locations
  unfold locationPictures
  dsimp only
  split
  · exact .refl _
  · exact tightened_blockPictures hle _ _

end Tightened

end Word
end OfficePictures
