import OfficePictures.Proofs.Machine.Record

/-!
# Blip — pictures decoded in machine words

The identifiers and headers in front of a picture are skipped by position, and the header that a
placeable metafile lacks is filled in word by word.

* `placeableHeader_eq` — the ten words and their checksum fit the header;
* `metafileBytes_eq` — the header of a metafile has the byte that tells of its compression;
* `decode_eq` — a picture is decoded without a trap.
-/

namespace OfficePictures
namespace Machine

open Art

/-! ## Placeable headers -/

/-- Puts words into a buffer, the first of them as its word of the given number. -/
def putWords (data : Bytes) (number : Nat) : List UInt16 → Guarded Bytes
  | [] => return data
  | word :: words => do
      let start ← mul number 2
      let stop ← add start 2
      let data ← put data start stop (Bytes.ofU16 word)
      putWords data (number + 1) words

/-- A bound of a metafile, cut to 16 bits; zero if the header does not hold it. -/
def bound (metafileHeader : Bytes) (offset : Nat) : Guarded UInt16 := do
  let found ← u32? metafileHeader offset
  return (found.getD 0).toUInt16

def placeableHeader (metafileHeader : Bytes) : Guarded Bytes := do
  let left ← bound metafileHeader 4
  let top ← bound metafileHeader 8
  let right ← bound metafileHeader 12
  let bottom ← bound metafileHeader 16
  let words : List UInt16 := [0xCDD7, 0x9AC6, 0, left, top, right, bottom, 72, 0, 0]
  let header ← putWords (List.replicate 22 0) 0 words
  put header 20 22 (Bytes.ofU16 (words.foldl (· ^^^ ·) 0))

/-- Words are put into a buffer that is long enough, behind those that are there. -/
theorem putWords_eq {words : List UInt16} {number : Nat} {front back : Bytes}
    (hfront : front.length = 2 * number) (hback : 2 * words.length ≤ back.length)
    (hword : front.length + back.length < 2 ^ 64) :
    putWords (front ++ back) number words =
      .ok (front ++ words.flatMap Bytes.ofU16 ++ back.drop (2 * words.length)) := by
  induction words generalizing number front back with
  | nil => exact congrArg Except.ok (by simp)
  | cons word words ih =>
      rw [List.length_cons] at hback
      -- The next two bytes of the buffer make way for the word.
      rcases back with _ | ⟨first, _ | ⟨second, rest⟩⟩
      · rw [List.length_nil] at hback
        omega
      · rw [List.length_cons, List.length_nil] at hback
        omega
      · rw [List.length_cons, List.length_cons] at hback hword
        have hstart : number * 2 = front.length := by omega
        have hput : put (front ++ ([first, second] ++ rest)) front.length (front.length + 2)
            (Bytes.ofU16 word) = .ok (front ++ (Bytes.ofU16 word ++ rest)) :=
          put_append (Bytes.length_ofU16 word)
        have hnext : (front ++ Bytes.ofU16 word).length = 2 * (number + 1) := by
          rw [List.length_append, Bytes.length_ofU16]
          omega
        have hmore := ih hnext (by omega : 2 * words.length ≤ rest.length) (by omega)
        rw [putWords, Guarded.bind_eq (mul_eq (by omega)), hstart,
          Guarded.bind_eq (add_eq (by omega))]
        refine (Guarded.bind_eq hput _).trans ?_
        rw [← List.append_assoc, hmore, List.flatMap_cons, List.length_cons, Nat.mul_succ,
          ← List.append_assoc]
        rfl

/-- The ten words and their checksum fill the header. -/
theorem placeableHeader_eq (metafileHeader : Bytes) :
    placeableHeader metafileHeader = .ok (Art.placeableHeader metafileHeader) := by
  have hbound : ∀ offset, offset + 4 < 2 ^ 64 → bound metafileHeader offset =
      .ok ((Bytes.u32? metafileHeader offset).getD 0).toUInt16 := by
    intro offset hword
    exact Guarded.bind_eq (u32?_eq (.inl hword)) _
  have hlength : (placeableWords metafileHeader).length = 10 := rfl
  have hwords : putWords ([] ++ List.replicate 22 0) 0 (placeableWords metafileHeader) =
      .ok ((placeableWords metafileHeader).flatMap Bytes.ofU16 ++ [0, 0]) := by
    refine putWords_eq rfl ?_ ?_
    · rw [hlength, List.length_replicate]
      decide
    · rw [List.length_replicate]
      decide
  -- The words take twenty bytes, so the last two are left for the checksum.
  have hbytes : ((placeableWords metafileHeader).flatMap Bytes.ofU16).length = 20 := rfl
  have hchecksum (checksum : UInt16) :
      put ((placeableWords metafileHeader).flatMap Bytes.ofU16 ++ ([0, 0] ++ [])) 20 22
        (Bytes.ofU16 checksum) =
      .ok ((placeableWords metafileHeader).flatMap Bytes.ofU16 ++ (Bytes.ofU16 checksum ++ [])) :=
    put_append (Bytes.length_ofU16 checksum)
  rw [placeableHeader, Guarded.bind_eq (hbound 4 (by decide)),
    Guarded.bind_eq (hbound 8 (by decide)), Guarded.bind_eq (hbound 12 (by decide)),
    Guarded.bind_eq (hbound 16 (by decide))]
  refine (Guarded.bind_eq hwords _).trans ((hchecksum _).trans ?_)
  rw [Art.placeableHeader, List.flatMap_append]
  rfl

/-! ## Pictures -/

/-- The number of identifiers in front of a picture.  Instances are words of 16 bits. -/
def idCount (header : Header) : Guarded Nat :=
  match singleIdInstance? header.recType with
  | some single =>
      if single + 1 < 2 ^ 16 then .ok (if header.instanceId.val = single + 1 then 2 else 1)
      else .error .overflow
  | none => add 1 (header.instanceId.val % 2)

/-- The file of a metafile whose stored bytes are `data`. -/
def place (kind : PictureKind) (metafileHeader data : Bytes) : Guarded Bytes :=
  match kind with
  | .wmf => do
      if (← u32? data 0) ≠ some placeableKey then
        let placed ← placeableHeader metafileHeader
        return placed ++ data
      else
        return data
  | .pict => return List.replicate 512 0 ++ data
  | _ => return data

/-- The decompressed form of a metafile, whose damage is a fault of its record. -/
def inflated (limits : Limits) (offset : Nat) (payload : Bytes) : Except Fault Bytes :=
  match inflateWithin limits payload with
  | .error (.tooLarge limit) => .error (.tooLarge limit)
  | .error _ => .error (.record offset .undecodable)
  | .ok data => .ok data

/-- The bytes of a metafile, decompressed if its header says so. -/
def metafileBytes (limits : Limits) (offset : Nat) (metafileHeader payload : Bytes) :
    Attempt Bytes := do
  let compression ← (entry metafileHeader 32 : Guarded UInt8)
  if compression = 0 then
    .of (inflated limits offset payload)
  else do
    Attempt.of (limits.check payload.length)
    return payload

def decodeMetafile (limits : Limits) (record : Record) (kind : PictureKind) (idsLength : Nat) :
    Attempt Blip := do
  let dataStart ← add idsLength metafileHeaderLength
  match part? record.body idsLength dataStart, part? record.body dataStart record.body.length with
  | some metafileHeader, some payload =>
      let stored ← metafileBytes limits record.offset metafileHeader payload
      let data ← place kind metafileHeader stored
      let bodyOffset ← bodyOffset record
      let offset ← add bodyOffset dataStart
      return { kind, data, offset }
  | _, _ => throw (.record record.offset .metafileHeaderTruncated)

def decodeBitmap (limits : Limits) (record : Record) (kind : PictureKind) (idsLength : Nat) :
    Attempt Blip := do
  let headerLength ← add idsLength 1
  match part? record.body headerLength record.body.length with
  | none => throw (.record record.offset .bitmapWithoutData)
  | some data =>
      Attempt.of (limits.check data.length)
      let bodyOffset ← bodyOffset record
      let offset ← add bodyOffset headerLength
      return { kind, data, offset }

def decode (limits : Limits) (record : Record) : Attempt Blip := do
  let kind := PictureKind.ofRecordType record.header.recType
  let ids ← idCount record.header
  let idsLength ← mul 16 ids
  if kind.isMetafile then decodeMetafile limits record kind idsLength
  else decodeBitmap limits record kind idsLength

theorem idCount_eq (header : Header) : idCount header = .ok header.idCount := by
  unfold idCount Header.idCount
  cases hsingle : singleIdInstance? header.recType with
  | none => exact add_eq (by omega)
  | some single =>
      -- All the instances that are known are far below the greatest word of 16 bits.
      have hsmall : single + 1 < 2 ^ 16 := by
        have hknown : ∀ found ∈ singleIdInstance? header.recType, found + 1 < 2 ^ 16 := by
          intro found hfound
          unfold singleIdInstance? at hfound
          repeat' split at hfound
          all_goals first | (cases hfound; done) | (cases hfound; decide)
        exact hknown single hsingle
      exact if_pos hsmall

theorem idCount_le (header : Header) : header.idCount ≤ 2 := by
  unfold Header.idCount
  split
  · split <;> decide
  · omega

theorem place_eq (kind : PictureKind) (metafileHeader data : Bytes) :
    place kind metafileHeader data = .ok (filePreamble kind metafileHeader data ++ data) := by
  cases kind with
  | wmf =>
      rw [place, Guarded.bind_eq (u32?_eq (.inl (by decide))), filePreamble]
      by_cases hkey : Bytes.u32? data 0 = some placeableKey
      · rw [if_neg (fun hne => hne hkey), if_pos hkey]
        rfl
      · rw [if_pos hkey, if_neg hkey, Guarded.bind_eq (placeableHeader_eq metafileHeader)]
        rfl
  | _ => rfl

section Decoding

variable {limits : Limits} {record : Record} {data : Bytes} {base : Nat}

theorem metafileBytes_eq {metafileHeader : Bytes} (hlength : 32 < metafileHeader.length)
    (offset : Nat) (payload : Bytes) :
    metafileBytes limits offset metafileHeader payload =
      .of (metafilePayload limits offset metafileHeader payload) := by
  unfold metafileBytes metafilePayload
  rw [Attempt.lift_bind (entry_eq hlength), List.getElem?_eq_getElem hlength]
  by_cases hdeflated : metafileHeader[32] = 0
  · rw [if_pos hdeflated, if_pos (congrArg some hdeflated)]
    rfl
  · rw [if_neg hdeflated, if_neg (fun h => hdeflated (Option.some.inj h))]
    cases limits.check payload.length <;> rfl

theorem decodeMetafile_eq (kind : PictureKind) (hoffset : record.offset < 2 ^ 63) :
    decodeMetafile limits record kind record.header.idsLength =
      .of (Blip.decodeMetafile limits record kind) := by
  have hids : record.header.idsLength ≤ 32 := Nat.mul_le_mul_left 16 (idCount_le record.header)
  have hbody : record.bodyOffset = record.offset + 8 := rfl
  have hheaderLength : metafileHeaderLength = 34 := rfl
  unfold decodeMetafile Blip.decodeMetafile
  rw [Attempt.lift_bind (add_eq (by omega)), part?_add, Bytes.slice?, part?_length]
  have hlength :=
    Bytes.length_take_drop record.body record.header.idsLength metafileHeaderLength
  by_cases hinside : record.header.idsLength + metafileHeaderLength ≤ record.body.length
  · rw [if_pos hinside, if_pos hinside]
    dsimp only
    rw [if_neg (by omega), metafileBytes_eq (by omega), List.drop_drop]
    cases metafilePayload limits record.offset
        ((record.body.drop record.header.idsLength).take metafileHeaderLength)
        (record.body.drop (record.header.idsLength + metafileHeaderLength)) with
    | error fault => rfl
    | ok payload =>
        refine (Attempt.lift_bind (place_eq kind _ payload) _).trans ?_
        refine (Attempt.lift_bind (bodyOffset_eq hoffset) _).trans ?_
        rw [Nat.add_assoc record.bodyOffset]
        exact Attempt.lift_bind (add_eq (by omega)) _
  · rw [if_neg hinside]
    dsimp only
    rw [if_pos (by omega)]
    rfl

theorem decodeBitmap_eq (kind : PictureKind) (hoffset : record.offset < 2 ^ 63) :
    decodeBitmap limits record kind record.header.idsLength =
      .of (Blip.decodeBitmap limits record kind) := by
  have hids : record.header.idsLength ≤ 32 := Nat.mul_le_mul_left 16 (idCount_le record.header)
  have hbody : record.bodyOffset = record.offset + 8 := rfl
  unfold decodeBitmap Blip.decodeBitmap
  rw [Attempt.lift_bind (add_eq (by omega)), part?_length]
  by_cases hinside : record.header.idsLength + 1 ≤ record.body.length
  · rw [if_pos hinside]
    dsimp only
    rw [if_neg (by omega)]
    cases limits.check (record.body.drop (record.header.idsLength + 1)).length with
    | error fault => rfl
    | ok _ =>
        refine (Attempt.lift_bind (bodyOffset_eq hoffset) _).trans ?_
        exact Attempt.lift_bind (add_eq (by omega)) _
  · rw [if_neg hinside]
    dsimp only
    rw [if_pos (by omega)]
    rfl

/-- A picture is decoded without a trap, wherever its record lies in a small stream. -/
theorem decode_eq (hoffset : record.offset < 2 ^ 63) :
    decode limits record = .of (Blip.decode limits record) := by
  have hids := idCount_le record.header
  unfold decode Blip.decode
  rw [Attempt.lift_bind (idCount_eq record.header), Attempt.lift_bind (mul_eq (by omega))]
  dsimp only
  split
  · exact decodeMetafile_eq _ hoffset
  · exact decodeBitmap_eq _ hoffset

end Decoding

end Machine
end OfficePictures
