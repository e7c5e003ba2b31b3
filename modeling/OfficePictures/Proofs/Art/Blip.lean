import OfficePictures.Art.Blip
import OfficePictures.Proofs.Deflate.Inflated
import OfficePictures.Proofs.Limits

/-!
# Blip — what decoding makes of a picture record

Behind its identifiers and its header a picture record has a payload.  The payload is the picture
itself or a compressed form of it; a limit can only refuse the picture.  What a file of its kind
begins with comes in front afterwards, whatever the limit.

* `Record.Stores` — the picture that a record stores, without a word about limits;
* `Record.Stores.decode`, `Record.stores_of_decode` — decoding gives that picture with what files
  of its kind begin with, if the picture itself is within the limit;
* `Blip.tightened_decode` — a tighter limit gives the same picture or refuses it.
-/

namespace OfficePictures

namespace Art

/-! ## The payload of a record -/

namespace Record

def kind (record : Record) : PictureKind :=
  PictureKind.ofRecordType record.header.recType

/-- The header in front of the payload of a metafile. -/
def metafileHeader (record : Record) : Bytes :=
  (record.body.drop record.header.idsLength).take metafileHeaderLength

/-- Where the payload begins in the body: behind the identifiers and the header of a metafile, or
one byte of any other picture. -/
def payloadStart (record : Record) : Nat :=
  record.header.idsLength + if record.kind.isMetafile then metafileHeaderLength else 1

def payload (record : Record) : Bytes :=
  record.body.drop record.payloadStart

/-- The record says that its payload is a compressed metafile. -/
def IsDeflated (record : Record) : Prop :=
  record.kind.isMetafile = true ∧ record.metafileHeader[32]? = some 0

/-- The picture that a record stores: its payload, or what its payload is decompressed to. -/
inductive Stores (record : Record) : Bytes → Prop
  | plain (hplain : ¬ record.IsDeflated) : Stores record record.payload
  | deflated {content : Bytes} (hdeflated : record.IsDeflated)
      (hwhole : (Deflate.inflateZlib record.payload).IsWhole content) : Stores record content

/-- What is listed of a record that stores `content`. -/
def blip (record : Record) (content : Bytes) : Blip where
  kind := record.kind
  data := filePreamble record.kind record.metafileHeader content ++ content
  offset := record.bodyOffset + record.payloadStart

end Record

/-! ## Metafiles -/

theorem inflateWithin_eq {payload content : Bytes}
    (h : (Deflate.inflateZlib payload).IsWhole content) (limits : Limits) :
    inflateWithin limits payload =
      if content.length ≤ limits.maxPictureBytes then .ok content
      else .error (.tooLarge limits.maxPictureBytes) := by
  unfold inflateWithin
  rw [h.read?]
  dsimp only
  rw [Limits.check_eq]
  by_cases hfits : content.length ≤ limits.maxPictureBytes
  · rw [List.take_of_length_le (Nat.le_succ_of_le hfits), if_pos hfits, if_pos hfits]
  · -- One byte more than allowed is enough to refuse.
    have hlong : ¬ (content.take (limits.maxPictureBytes + 1)).length ≤ limits.maxPictureBytes := by
      rw [List.length_take]
      omega
    rw [if_neg hlong, if_neg hfits]

theorem isWhole_of_inflateWithin {limits : Limits} {payload content : Bytes}
    (h : inflateWithin limits payload = .ok content) :
    (Deflate.inflateZlib payload).IsWhole content := by
  unfold inflateWithin at h
  split at h
  · cases h
  · rename_i found hfound
    rw [Limits.check_eq] at h
    by_cases hfits : found.length ≤ limits.maxPictureBytes
    · rw [if_pos hfits] at h
      cases h
      exact Deflate.Inflated.isWhole_of_read? hfound (Nat.lt_succ_of_le hfits)
    · rw [if_neg hfits] at h
      cases h

/-! ## Decoding -/

/-- Bitmaps get nothing in front. -/
theorem filePreamble_of_not_isMetafile {kind : PictureKind} (h : kind.isMetafile = false)
    (header content : Bytes) : filePreamble kind header content = [] := by
  cases kind with
  | emf | wmf | pict => cases h
  | jpeg | png | dib | tiff | unknown => rfl

namespace Record

variable {record : Record} {content : Bytes} {limits : Limits}

/-- The picture that a record stores, if it is within the limit. -/
def storedWithin (limits : Limits) (record : Record) : Except Fault Bytes :=
  if record.kind.isMetafile then
    metafilePayload limits record.offset record.metafileHeader record.payload
  else
    (limits.check record.payload.length).map fun _ => record.payload

theorem Stores.storedWithin (h : record.Stores content) (limits : Limits) :
    record.storedWithin limits =
      if content.length ≤ limits.maxPictureBytes then .ok content
      else .error (.tooLarge limits.maxPictureBytes) := by
  unfold Record.storedWithin
  cases h with
  | plain hplain =>
      rw [metafilePayload, Limits.check_eq]
      by_cases hkind : record.kind.isMetafile = true
      · have hheader : ¬ record.metafileHeader[32]? = some 0 := fun h => hplain ⟨hkind, h⟩
        rw [if_pos hkind, if_neg hheader]
        by_cases hfits : record.payload.length ≤ limits.maxPictureBytes
        · simp only [if_pos hfits]
        · simp only [if_neg hfits]
      · rw [if_neg hkind, apply_ite (Except.map fun _ => record.payload)]
        rfl
  | deflated hdeflated hwhole =>
      rw [if_pos hdeflated.1, metafilePayload, if_pos hdeflated.2, inflateWithin_eq hwhole]
      by_cases hfits : content.length ≤ limits.maxPictureBytes
      · simp only [if_pos hfits]
      · simp only [if_neg hfits]

theorem stores_of_storedWithin (h : record.storedWithin limits = .ok content) :
    record.Stores content ∧ content.length ≤ limits.maxPictureBytes := by
  have hstores : record.Stores content := by
    unfold Record.storedWithin at h
    by_cases hkind : record.kind.isMetafile = true
    · rw [if_pos hkind, metafilePayload] at h
      by_cases hheader : record.metafileHeader[32]? = some 0
      · rw [if_pos hheader] at h
        split at h
        · cases h
        · cases h
        · rename_i found hfound
          cases h
          exact .deflated ⟨hkind, hheader⟩ (isWhole_of_inflateWithin hfound)
      · rw [if_neg hheader] at h
        split at h
        · cases h
        · cases h
          exact .plain fun hdeflated => hheader hdeflated.2
    · rw [if_neg hkind] at h
      rcases Result.exists_of_map h with ⟨_, _, rfl⟩
      exact .plain fun hdeflated => hkind hdeflated.1
  refine ⟨hstores, ?_⟩
  rw [hstores.storedWithin] at h
  split at h
  · assumption
  · cases h

/-- The fault of a record that ends in front of its payload. -/
def missingPayload (record : Record) : Fault :=
  .record record.offset
    (if record.kind.isMetafile then .metafileHeaderTruncated else .bitmapWithoutData)

theorem payloadStart_of_isMetafile (hkind : record.kind.isMetafile = true) :
    record.payloadStart = record.header.idsLength + metafileHeaderLength := by
  rw [payloadStart, if_pos hkind]

theorem decodeMetafile_eq (limits : Limits) (hkind : record.kind.isMetafile = true) :
    Blip.decodeMetafile limits record record.kind =
      if record.body.length < record.payloadStart then .error record.missingPayload
      else (record.storedWithin limits).map record.blip := by
  have hstart := payloadStart_of_isMetafile hkind
  have hpayload : (record.body.drop record.header.idsLength).drop metafileHeaderLength =
      record.payload := by
    rw [List.drop_drop, payload, hstart]
  have hoffset : record.bodyOffset + record.header.idsLength + metafileHeaderLength =
      record.bodyOffset + record.payloadStart := by
    rw [hstart, Nat.add_assoc]
  have hshort : record.metafileHeader.length < metafileHeaderLength ↔
      record.body.length < record.payloadStart := by
    rw [metafileHeader, hstart, List.length_take, List.length_drop, metafileHeaderLength]
    omega
  have hheader : (record.body.drop record.header.idsLength).take metafileHeaderLength =
      record.metafileHeader := rfl
  unfold Blip.decodeMetafile storedWithin
  dsimp only
  rw [hpayload, hoffset, hheader, if_pos hkind]
  refine ite_congr (propext hshort) (fun _ => ?_) fun _ => ?_
  · rw [missingPayload, if_pos hkind]
  · cases metafilePayload limits record.offset record.metafileHeader record.payload with
    | error fault => rfl
    | ok content => rfl

theorem decodeBitmap_eq (limits : Limits) (hkind : ¬ record.kind.isMetafile = true) :
    Blip.decodeBitmap limits record record.kind =
      if record.body.length < record.payloadStart then .error record.missingPayload
      else (record.storedWithin limits).map record.blip := by
  have hstart : record.header.idsLength + 1 = record.payloadStart := by
    rw [payloadStart, if_neg hkind]
  have hpayload : record.body.drop record.payloadStart = record.payload := rfl
  have hblip : record.blip record.payload =
      ⟨record.kind, record.payload, record.bodyOffset + record.payloadStart⟩ := by
    rw [blip, filePreamble_of_not_isMetafile (Bool.eq_false_iff.2 hkind), List.nil_append]
  unfold Blip.decodeBitmap storedWithin
  dsimp only
  rw [hstart, hpayload, if_neg hkind, ← hblip]
  refine ite_congr rfl (fun _ => ?_) fun _ => ?_
  · rw [missingPayload, if_neg hkind]
  · cases limits.check record.payload.length with
    | error fault => rfl
    | ok _ => rfl

/-- Decoding looks for the payload first, and then at the limit. -/
theorem decode_eq (limits : Limits) (record : Record) :
    Blip.decode limits record =
      if record.body.length < record.payloadStart then .error record.missingPayload
      else (record.storedWithin limits).map record.blip := by
  by_cases hkind : record.kind.isMetafile = true
  · rw [← decodeMetafile_eq limits hkind]
    exact if_pos hkind
  · rw [← decodeBitmap_eq limits hkind]
    exact if_neg hkind

theorem Stores.decode (h : record.Stores content)
    (hstart : record.payloadStart ≤ record.body.length) (limits : Limits) :
    Blip.decode limits record =
      if content.length ≤ limits.maxPictureBytes then .ok (record.blip content)
      else .error (.tooLarge limits.maxPictureBytes) := by
  rw [decode_eq, if_neg (Nat.not_lt.2 hstart), h.storedWithin, apply_ite (Except.map record.blip)]
  rfl

theorem stores_of_decode {blip : Blip} (h : Blip.decode limits record = .ok blip) :
    record.payloadStart ≤ record.body.length ∧
      ∃ content, record.Stores content ∧ content.length ≤ limits.maxPictureBytes ∧
        blip = record.blip content := by
  rw [decode_eq] at h
  split at h
  · cases h
  · rename_i hstart
    rcases Result.exists_of_map h with ⟨content, hcontent, rfl⟩
    rcases stores_of_storedWithin hcontent with ⟨hstores, hfits⟩
    exact ⟨Nat.le_of_not_lt hstart, content, hstores, hfits, rfl⟩

end Record

/-- A tighter limit gives the same picture, or refuses it as too large. -/
theorem Blip.tightened_decode {tight wide : Limits}
    (hle : tight.maxPictureBytes ≤ wide.maxPictureBytes) (record : Record) :
    Result.Tightened (· = .tooLarge tight.maxPictureBytes) (Blip.decode tight record)
      (Blip.decode wide record) where
  keeps := by
    intro blip h
    rcases Record.stores_of_decode h with ⟨hstart, content, hstores, hfits, rfl⟩
    rw [hstores.decode hstart, if_pos (Nat.le_trans hfits hle)]
  refuses := by
    intro blip h
    rcases Record.stores_of_decode h with ⟨hstart, content, hstores, -, rfl⟩
    rw [hstores.decode hstart]
    split
    · exact .inl rfl
    · exact .inr ⟨_, rfl, rfl⟩

end Art
end OfficePictures
