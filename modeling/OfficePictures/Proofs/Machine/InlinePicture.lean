import OfficePictures.Proofs.Machine.BlipStore
import OfficePictures.Proofs.Word.Location

/-!
# InlinePicture — picture blocks read in machine words

Blocks are read in place: positions count from the start of the data stream, and what lies in a
block is cut out of the stream.  The name of a file may tell a length that leaves its block, or be
told by a byte that does; the block ends it in both cases.

* `blockPictures_eq` — the pictures of one block;
* `inlinePictures_eq` — those of all blocks.
-/

namespace OfficePictures
namespace Machine

open Art Word

/-! ## Blocks -/

/-- Where the block at `position` ends, if there is one that lies inside the stream. -/
def blockEnd? (stream : Bytes) (position : Nat) : Guarded (Option Nat) := do
  match ← u32? stream position with
  | none => return none
  | some length =>
      match add? position 4 with
      | none => return none
      | some place =>
          match ← u16? stream place with
          | none => return none
          | some headerLength =>
              if headerLength.toNat ≠ blockHeaderLength ∨ length.toNat < blockHeaderLength then
                return none
              else
                return (add? position length.toNat).filter (· ≤ stream.length)

/-- Takes the picture of an art record in a block behind those found before. -/
def takeRecord (limits : Limits) (blips : List Blip) (record : Record) : Attempt (List Blip) :=
  if record.header.recType = storeEntryType then
    takeEntry limits none blips record
  else if record.header.isBlip then do
    let blip ← decode limits record
    return blips ++ [blip]
  else
    return blips

/-- The pictures of the art records from `start` up to `stop`. -/
def shapePictures (limits : Limits) (stream : Bytes) (start stop : Nat) : Attempt (List Blip) := do
  let content ← part stream start stop
  walk content start (takeRecord limits) [] 0

/-- The pictures of the block from `position` up to `stop`. -/
def blockPictures (limits : Limits) (stream : Bytes) (position stop : Nat) :
    Attempt (List Blip) := do
  let form ← u16? stream (← add position 6)
  let content ← add position blockHeaderLength
  if form.getD 0 = namedShapeForm then
    let name ← add content 1
    let nameEnd ← add name (stream[content]?.getD 0).toNat
    shapePictures limits stream (min nameEnd stop) stop
  else if form.getD 0 = shapeForm then
    shapePictures limits stream content stop
  else if content < stop then
    let data ← part stream content stop
    Attempt.of (limits.check data.length)
    return [{ kind := .wmf, data, offset := content }]
  else
    return []

def takeBlock (stream : Bytes) (limits : Limits) (blips : List Blip) (location : UInt32) :
    Attempt (List Blip) := do
  let position := location.toNat
  match ← blockEnd? stream position with
  | none => return blips
  | some stop =>
      let found ← blockPictures limits stream position stop
      return blips ++ found

def inlinePictures (stream : Bytes) (locations : List UInt32) (limits : Limits) :
    Attempt (List Blip) :=
  locations.foldlM (takeBlock stream limits) []

section Blocks

variable {limits : Limits} {stream : Bytes} {position start stop : Nat}

theorem blockEnd?_eq (hstream : stream.length < 2 ^ 63) (hposition : position < 2 ^ 63) :
    blockEnd? stream position = .ok (Word.blockEnd? stream position) := by
  unfold blockEnd? Word.blockEnd?
  rw [Guarded.bind_eq (u32?_eq (.inr (by omega)))]
  cases hlength : Bytes.u32? stream position with
  | none => rfl
  | some length =>
      have hsmall : length.toNat < 2 ^ 32 := length.toNat_lt
      dsimp only
      rw [add?_eq (by omega)]
      dsimp only
      rw [Guarded.bind_eq (u16?_eq (.inr (by omega)))]
      simp only [bind, Option.bind_some]
      cases Bytes.u16? stream (position + 4) with
      | none => rfl
      | some headerLength =>
          simp only [Option.bind_some]
          split
          · rfl
          · rw [filter_add?_eq (by omega)]
            by_cases hinside : position + length.toNat ≤ stream.length
            · rw [if_pos hinside, if_neg (Nat.not_lt.2 hinside)]
              rfl
            · rw [if_neg hinside, if_pos (Nat.lt_of_not_le hinside)]
              rfl

theorem takeRecord_eq {record : Record} (hoffset : record.offset < 2 ^ 63)
    (hroom : HasRoom record.body record.bodyOffset) (blips : List Blip) :
    takeRecord limits blips record =
      .of (Walk.appending (recordPictures limits) blips record) := by
  rw [takeRecord, Walk.appending, recordPictures_eq, apply_ite (Except.map (blips ++ ·)),
    apply_ite (Except.map (blips ++ ·))]
  refine Attempt.ite_of (fun _ => ?_) fun _ => Attempt.ite_of (fun _ => ?_) fun _ => ?_
  · exact takeEntry_eq hroom (fun _ h => absurd h (Option.not_mem_none _)) blips
  · rw [decode_eq hoffset, decoded]
    cases Blip.decode limits record <;> rfl
  · exact Attempt.of_nothing blips

theorem shapePictures_eq (hstream : stream.length < 2 ^ 62) (hstart : start ≤ stop)
    (hstop : stop ≤ stream.length) :
    shapePictures limits stream start stop =
      .of (Word.shapePictures limits ((stream.drop start).take (stop - start)) start) := by
  have hroom : HasRoom ((stream.drop start).take (stop - start)) start := by
    unfold HasRoom
    rw [Bytes.length_take_drop]
    omega
  unfold shapePictures Word.shapePictures
  rw [Attempt.lift_bind (part_eq hstart hstop), walk_eq hroom ?_ [] (Nat.zero_le _),
    Walk.fold_appending, List.drop_zero, Nat.add_zero]
  · cases (Record.scan _ start).gather (recordPictures limits) <;> rfl
  · intro blips record hlies
    exact takeRecord_eq (hroom.offset_lt hlies) (hroom.body hlies) blips

/-- The pictures of a block inside a small stream are found without a trap. -/
theorem blockPictures_eq (hstream : stream.length < 2 ^ 62)
    (hheader : position + blockHeaderLength ≤ stop) (hstop : stop ≤ stream.length) :
    blockPictures limits stream position stop =
      .of (Word.blockPictures limits (blockAt stream position stop) position) := by
  have hlength : blockHeaderLength = 68 := rfl
  unfold blockPictures
  rw [Attempt.lift_bind (add_eq (by omega)), Attempt.lift_bind (u16?_eq (.inl (by omega))),
    Attempt.lift_bind (add_eq (by omega)), Word.blockPictures_eq, u16?_blockAt (by omega),
    drop_blockAt _ _ _ blockHeaderLength]
  refine Attempt.ite_of (fun _ => ?_) fun _ => ?_
  · have hbyte : (stream[position + blockHeaderLength]?.getD 0).toNat < 256 := UInt8.toNat_lt _
    refine (Attempt.lift_bind (add_eq (by omega)) _).trans ?_
    refine (Attempt.lift_bind (add_eq (by omega)) _).trans ?_
    rw [drop_blockAt, ← Nat.add_assoc, add_nameLength hheader hstop]
    exact shapePictures_eq hstream (Nat.min_le_right _ _) hstop
  refine Attempt.ite_of (fun _ => shapePictures_eq hstream hheader hstop) fun _ => ?_
  by_cases hempty : position + blockHeaderLength < stop
  · have hsome : (stream.drop (position + blockHeaderLength)).take
        (stop - (position + blockHeaderLength)) ≠ [] := by
      rw [← List.length_pos_iff, Bytes.length_take_drop]
      omega
    rw [if_pos hempty, if_neg hsome]
    refine (Attempt.lift_bind (part_eq hheader hstop) _).trans ?_
    rw [bareMetafile, drop_blockAt]
    cases limits.check ((stream.drop (position + blockHeaderLength)).take
      (stop - (position + blockHeaderLength))).length <;> rfl
  · have hnone : stop - (position + blockHeaderLength) = 0 := by omega
    rw [if_neg hempty, hnone, List.take_zero, if_pos rfl]
    rfl

theorem takeBlock_eq (hstream : stream.length < 2 ^ 62) (blips : List Blip) (location : UInt32) :
    takeBlock stream limits blips location =
      .of (Walk.appending (locationPictures stream limits) blips location) := by
  have hlocation : location.toNat < 2 ^ 32 := location.toNat_lt
  unfold takeBlock Walk.appending locationPictures
  dsimp only
  rw [Attempt.lift_bind (blockEnd?_eq (by omega) (by omega))]
  cases hend : Word.blockEnd? stream location.toNat with
  | none => exact Attempt.of_nothing blips
  | some stop =>
      rcases blockEnd?_bounds hend with ⟨hheader, hstop⟩
      dsimp only
      rw [blockPictures_eq hstream hheader hstop, blockAt]
      cases Word.blockPictures limits ((stream.drop location.toNat).take (stop - location.toNat))
        location.toNat <;> rfl

/-- The pictures of a small data stream are found without a trap, wherever runs say that they
lie. -/
theorem inlinePictures_eq (hstream : stream.length < 2 ^ 62) (locations : List UInt32) :
    inlinePictures stream locations limits =
      .of (Word.inlinePictures stream locations limits) := by
  unfold inlinePictures Word.inlinePictures
  rw [Attempt.foldlM_of (takeBlock_eq hstream), Walk.foldlM_appending]
  cases Walk.gatherItems (locationPictures stream limits) locations <;> rfl

end Blocks

end Machine
end OfficePictures
