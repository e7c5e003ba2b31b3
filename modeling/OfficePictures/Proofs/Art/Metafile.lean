import OfficePictures.Proofs.Art.Blip
import OfficePictures.Proofs.Bytes

/-!
# Metafile — the files that metafiles become

The record of a metafile stores what follows the beginning of a file.  A file of drawing commands
needs nothing more, a PICT file begins with zeros, and a placeable metafile with a header, unless
what is stored has one already.

* `IsPlaceableHeader`, `isPlaceableHeader_placeableHeader` — the header of a placeable metafile, and
  its checksum;
* `IsFileOf` — the file of a metafile, by its kind;
* `Record.HasParts`, `IsPayloadOf` — what a record stores, part by part;
* `Record.HasParts.decode_rewrapped` — a file that is stored again is left as it is;
* `decoded_metafiles_are_files` — all of it together.
-/

namespace OfficePictures
namespace Art

/-! ## Placeable headers -/

def StartsWithKey (bytes : Bytes) : Prop :=
  Bytes.ofU32 placeableKey <+: bytes

/-- The word of 16 bits with that index. -/
def wordAt (bytes : Bytes) (index : Nat) : Nat :=
  bytes.valueAt (2 * index) 2

/-- The bytes are the header of a placeable metafile that has the bounds of the metafile header.
Bounds are numbers with a sign; of each the header keeps the low 16 bits. -/
structure IsPlaceableHeader (metafileHeader bytes : Bytes) : Prop where
  length_eq : bytes.length = 22
  key : StartsWithKey bytes
  handle : wordAt bytes 2 = 0
  bounds : ∀ index < 4,
    wordAt bytes (3 + index) = metafileHeader.valueAt (4 + 4 * index) 4 % 0x10000
  unitsPerInch : wordAt bytes 7 = 72
  reserved : wordAt bytes 8 = 0 ∧ wordAt bytes 9 = 0
  checksum : ((List.range 11).map (wordAt bytes)).foldl (· ^^^ ·) 0 = 0

theorem StartsWithKey.append {bytes : Bytes} (h : StartsWithKey bytes) (rest : Bytes) :
    StartsWithKey (bytes ++ rest) :=
  h.trans (List.prefix_append bytes rest)

section PlaceableHeader

variable (metafileHeader : Bytes)

/-- The words of a placeable header with the checksum that closes them. -/
def closedWords : List UInt16 :=
  placeableWords metafileHeader ++ [(placeableWords metafileHeader).foldl (· ^^^ ·) 0]

theorem length_placeableHeader : (placeableHeader metafileHeader).length = 22 :=
  rfl

theorem wordAt_placeableHeader {index n : Nat}
    (hword : ((closedWords metafileHeader).map UInt16.toNat)[index]? = some n) :
    wordAt (placeableHeader metafileHeader) index = n := by
  have hdrop : (placeableHeader metafileHeader).drop 0 =
      (closedWords metafileHeader).flatMap Bytes.ofU16 ++ [] :=
    (List.append_nil _).symm
  rw [List.getElem?_map, Option.map_eq_some_iff] at hword
  rcases hword with ⟨word, hword, rfl⟩
  have hholds := Bytes.holds_of_drop_flatMap_u16 hdrop hword
  rw [Nat.zero_add] at hholds
  exact hholds.1

/-- A number with itself gives zero, so the checksum cancels the words in front of it. -/
theorem foldl_xor_closedWords : (closedWords metafileHeader).foldl (· ^^^ ·) 0 = 0 := by
  rw [closedWords, List.foldl_append]
  exact UInt16.xor_self

theorem toNat_foldl_xor (words : List UInt16) (sum : UInt16) :
    (words.foldl (· ^^^ ·) sum).toNat = (words.map UInt16.toNat).foldl (· ^^^ ·) sum.toNat := by
  induction words generalizing sum with
  | nil => rfl
  | cons word words ih =>
      rw [List.foldl_cons, ih, List.map_cons, List.foldl_cons, UInt16.toNat_xor]

theorem map_wordAt_placeableHeader :
    (List.range 11).map (wordAt (placeableHeader metafileHeader)) =
      (closedWords metafileHeader).map UInt16.toNat := by
  have hlength : (closedWords metafileHeader).length = 11 := rfl
  apply List.ext_getElem
  · rw [List.length_map, List.length_map, List.length_range, hlength]
  · intro index hleft hright
    rw [List.getElem_map, List.getElem_range]
    exact wordAt_placeableHeader metafileHeader (List.getElem?_eq_getElem hright)

variable {metafileHeader}

theorem toNat_bound {offset : Nat} (hinside : offset + 4 ≤ metafileHeader.length) :
    ((Bytes.u32? metafileHeader offset).getD 0).toUInt16.toNat =
      metafileHeader.valueAt offset 4 % 0x10000 := by
  have hvalue : (UInt32.ofNat (metafileHeader.valueAt offset 4)).toNat =
      metafileHeader.valueAt offset 4 :=
    UInt32.toNat_ofNat_of_lt' (Bytes.valueAt_lt metafileHeader offset 4)
  have hfield : Bytes.u32? metafileHeader offset =
      some (UInt32.ofNat (metafileHeader.valueAt offset 4)) := by
    apply Bytes.u32?_eq_some_iff.2
    rw [hvalue]
    exact ⟨rfl, hinside⟩
  rw [hfield, Option.getD_some, UInt32.toNat_toUInt16, hvalue]

theorem isPlaceableHeader_placeableHeader
    (hlength : metafileHeader.length = metafileHeaderLength) :
    IsPlaceableHeader metafileHeader (placeableHeader metafileHeader) where
  length_eq := length_placeableHeader metafileHeader
  key := ⟨(placeableHeader metafileHeader).drop 4, rfl⟩
  handle := wordAt_placeableHeader metafileHeader rfl
  bounds := by
    have hlong : metafileHeader.length = 34 := hlength
    intro index hindex
    -- Each bound is a word of its own, and the header is long enough for all four.
    have hword : ((closedWords metafileHeader).map UInt16.toNat)[3 + index]? =
        some ((Bytes.u32? metafileHeader (4 + 4 * index)).getD 0).toUInt16.toNat := by
      match index, hindex with
      | 0, _ | 1, _ | 2, _ | 3, _ => rfl
    rw [wordAt_placeableHeader metafileHeader hword]
    exact toNat_bound (by omega)
  unitsPerInch := wordAt_placeableHeader metafileHeader rfl
  reserved := ⟨wordAt_placeableHeader metafileHeader rfl, wordAt_placeableHeader metafileHeader rfl⟩
  checksum := by
    calc
      ((List.range 11).map (wordAt (placeableHeader metafileHeader))).foldl (· ^^^ ·) 0 =
          ((closedWords metafileHeader).map UInt16.toNat).foldl (· ^^^ ·) 0 := by
        rw [map_wordAt_placeableHeader]
      _ = ((closedWords metafileHeader).foldl (· ^^^ ·) 0).toNat :=
        (toNat_foldl_xor (closedWords metafileHeader) 0).symm
      _ = 0 := by
        rw [foldl_xor_closedWords]
        rfl

end PlaceableHeader

/-! ## Files -/

/-- The file of a metafile of each kind, from the header and the payload of its record. -/
inductive IsFileOf (metafileHeader payload : Bytes) : PictureKind → Bytes → Prop
  | emf : IsFileOf metafileHeader payload .emf payload
  | pict : IsFileOf metafileHeader payload .pict (List.replicate 512 0 ++ payload)
  /-- A payload that is placeable is a file already. -/
  | keyed (hkey : StartsWithKey payload) : IsFileOf metafileHeader payload .wmf payload
  /-- Any other payload becomes one, be it shorter than the key. -/
  | placed {placed : Bytes} (hkey : ¬ StartsWithKey payload)
      (hplaced : IsPlaceableHeader metafileHeader placed) :
      IsFileOf metafileHeader payload .wmf (placed ++ payload)

theorem filePreamble_of_startsWithKey {payload : Bytes} (hkey : StartsWithKey payload)
    (metafileHeader : Bytes) : filePreamble .wmf metafileHeader payload = [] :=
  if_pos (Bytes.u32?_zero_eq_some_iff.2 hkey)

theorem isFileOf_filePreamble {kind : PictureKind} {metafileHeader : Bytes}
    (hkind : kind.isMetafile = true) (hlength : metafileHeader.length = metafileHeaderLength)
    (payload : Bytes) :
    IsFileOf metafileHeader payload kind (filePreamble kind metafileHeader payload ++ payload) := by
  cases kind with
  | emf => exact .emf
  | pict => exact .pict
  | wmf =>
      by_cases hkey : StartsWithKey payload
      · rw [filePreamble_of_startsWithKey hkey]
        exact .keyed hkey
      · have hpreamble : filePreamble .wmf metafileHeader payload =
            placeableHeader metafileHeader :=
          if_neg fun h => hkey (Bytes.u32?_zero_eq_some_iff.1 h)
        rw [hpreamble]
        exact .placed hkey (isPlaceableHeader_placeableHeader hlength)
  | jpeg | png | dib | tiff | unknown => cases hkind

theorem IsFileOf.startsWithKey {metafileHeader payload data : Bytes}
    (h : IsFileOf metafileHeader payload .wmf data) : StartsWithKey data := by
  cases h with
  | keyed hkey => exact hkey
  | placed _ hplaced => exact hplaced.key.append payload

/-! ## Records part by part -/

/-- The payload of a metafile from what is stored behind its header: decompressed if the compression
byte of the header is zero, and as it is otherwise. -/
def IsPayloadOf (metafileHeader stored payload : Bytes) : Prop :=
  if metafileHeader[32]? = some 0 then (Deflate.inflateZlib stored).IsWhole payload
  else payload = stored

namespace Record

/-- The parts of the body of a metafile record: identifiers, as many as its type and its instance
tell, the header, and what is stored. -/
structure HasParts (record : Record) (ids metafileHeader stored : Bytes) : Prop where
  body_eq : record.body = ids ++ (metafileHeader ++ stored)
  length_ids : ids.length = record.header.idsLength
  length_header : metafileHeader.length = metafileHeaderLength

variable {record : Record} {ids metafileHeader stored payload : Bytes} {limits : Limits}
  {blip : Blip}

/-- A body that is long enough has these parts. -/
theorem exists_hasParts (hkind : record.kind.isMetafile = true)
    (hstart : record.payloadStart ≤ record.body.length) :
    record.HasParts (record.body.take record.header.idsLength) record.metafileHeader
      record.payload := by
  rw [payloadStart_of_isMetafile hkind] at hstart
  constructor
  · rw [payload, payloadStart_of_isMetafile hkind, metafileHeader, ← List.drop_drop,
      List.take_append_drop, List.take_append_drop]
  · exact List.length_take_of_le (Nat.le_trans (Nat.le_add_right _ _) hstart)
  · rw [metafileHeader, List.length_take, List.length_drop]
    omega

namespace HasParts

theorem metafileHeader_eq (h : record.HasParts ids metafileHeader stored) :
    record.metafileHeader = metafileHeader := by
  rw [Record.metafileHeader, h.body_eq, List.drop_left' h.length_ids,
    List.take_left' h.length_header]

theorem payload_eq (h : record.HasParts ids metafileHeader stored)
    (hkind : record.kind.isMetafile = true) : record.payload = stored := by
  rw [payload, payloadStart_of_isMetafile hkind, ← List.drop_drop, h.body_eq,
    List.drop_left' h.length_ids, List.drop_left' h.length_header]

theorem payloadStart_le (h : record.HasParts ids metafileHeader stored)
    (hkind : record.kind.isMetafile = true) : record.payloadStart ≤ record.body.length := by
  rw [payloadStart_of_isMetafile hkind, h.body_eq, ← h.length_ids, ← h.length_header,
    List.length_append, List.length_append]
  exact Nat.add_le_add_left (Nat.le_add_right _ _) _

theorem stores_iff (h : record.HasParts ids metafileHeader stored)
    (hkind : record.kind.isMetafile = true) :
    record.Stores payload ↔ IsPayloadOf metafileHeader stored payload := by
  -- For a metafile it is the compression byte alone that tells how the payload is stored.
  have hdeflated : record.IsDeflated ↔ metafileHeader[32]? = some 0 := by
    rw [IsDeflated, h.metafileHeader_eq]
    exact and_iff_right hkind
  unfold IsPayloadOf
  constructor
  · intro hstores
    cases hstores with
    | plain hplain =>
        rw [if_neg fun hbyte => hplain (hdeflated.2 hbyte)]
        exact h.payload_eq hkind
    | deflated hbyte hwhole =>
        rw [if_pos (hdeflated.1 hbyte), ← h.payload_eq hkind]
        exact hwhole
  · intro hpayload
    by_cases hbyte : metafileHeader[32]? = some 0
    · rw [if_pos hbyte, ← h.payload_eq hkind] at hpayload
      exact .deflated (hdeflated.2 hbyte) hpayload
    · rw [if_neg hbyte] at hpayload
      rw [hpayload, ← h.payload_eq hkind]
      exact .plain fun hdeflate => hbyte (hdeflated.1 hdeflate)

/-- A record whose payload is within the limit is decoded to the file of that payload. -/
theorem exists_decode (h : record.HasParts ids metafileHeader stored)
    (hkind : record.kind.isMetafile = true) (hpayload : IsPayloadOf metafileHeader stored payload)
    (hfits : payload.length ≤ limits.maxPictureBytes) :
    ∃ blip, Blip.decode limits record = .ok blip ∧ blip.kind = record.kind ∧
      IsFileOf metafileHeader payload blip.kind blip.data := by
  refine ⟨record.blip payload, ?_, rfl, ?_⟩
  · rw [((h.stores_iff hkind).2 hpayload).decode (h.payloadStart_le hkind), if_pos hfits]
  · rw [← h.metafileHeader_eq]
    apply isFileOf_filePreamble hkind
    rw [h.metafileHeader_eq]
    exact h.length_header

/-- A placeable file that is stored without compression is decoded to itself. -/
theorem decode_rewrapped (h : record.HasParts ids metafileHeader stored)
    (htype : record.header.recType = 0xF01B) (hplain : metafileHeader[32]? ≠ some 0)
    (hkey : StartsWithKey stored) (hfits : stored.length ≤ limits.maxPictureBytes) :
    Blip.decode limits record =
      .ok ⟨.wmf, stored, record.bodyOffset + ids.length + metafileHeader.length⟩ := by
  have hkind : record.kind = .wmf := by
    rw [kind, htype]
    rfl
  have hmetafile : record.kind.isMetafile = true := by
    rw [hkind]
    rfl
  have hpayload : IsPayloadOf metafileHeader stored stored := by
    unfold IsPayloadOf
    rw [if_neg hplain]
  have hoffset : record.bodyOffset + record.payloadStart =
      record.bodyOffset + ids.length + metafileHeader.length := by
    rw [payloadStart_of_isMetafile hmetafile, h.length_ids, h.length_header, Nat.add_assoc]
  rw [((h.stores_iff hmetafile).2 hpayload).decode (h.payloadStart_le hmetafile), if_pos hfits,
    Record.blip, hkind, filePreamble_of_startsWithKey hkey, List.nil_append, hoffset]

end HasParts

/-- What is decoded is the file of a payload that the record stores. -/
theorem isFileOf_of_decode (hkind : record.kind.isMetafile = true)
    (h : Blip.decode limits record = .ok blip) :
    ∃ ids metafileHeader stored payload, record.HasParts ids metafileHeader stored ∧
      IsPayloadOf metafileHeader stored payload ∧ payload.length ≤ limits.maxPictureBytes ∧
        blip.kind = record.kind ∧ IsFileOf metafileHeader payload blip.kind blip.data := by
  rcases stores_of_decode h with ⟨hstart, payload, hstores, hfits, rfl⟩
  have hparts := exists_hasParts hkind hstart
  exact ⟨_, _, _, payload, hparts, (hparts.stores_iff hkind).1 hstores, hfits, rfl,
    isFileOf_filePreamble hkind hparts.length_header payload⟩

theorem startsWithKey_of_decode (h : Blip.decode limits record = .ok blip)
    (hkind : blip.kind = .wmf) : StartsWithKey blip.data := by
  have hrecord : record.kind = .wmf := by
    rcases stores_of_decode h with ⟨-, _, -, -, rfl⟩
    exact hkind
  have hmetafile : record.kind.isMetafile = true := by
    rw [hrecord]
    rfl
  rcases isFileOf_of_decode hmetafile h with ⟨_, _, _, _, -, -, -, -, hfile⟩
  rw [hkind] at hfile
  exact hfile.startsWithKey

end Record

/-- A metafile is decoded exactly if its payload can be had within the limit, and becomes a file of
its kind.  A placeable metafile begins with the key, so what was decoded once stays as it is however
often it is stored and decoded again. -/
theorem decoded_metafiles_are_files :
    (∀ limits record blip, record.kind.isMetafile = true →
      Blip.decode limits record = .ok blip →
        ∃ ids metafileHeader stored payload, record.HasParts ids metafileHeader stored ∧
          IsPayloadOf metafileHeader stored payload ∧ payload.length ≤ limits.maxPictureBytes ∧
            blip.kind = record.kind ∧ IsFileOf metafileHeader payload blip.kind blip.data) ∧
    (∀ limits record ids metafileHeader stored payload, record.kind.isMetafile = true →
      record.HasParts ids metafileHeader stored → IsPayloadOf metafileHeader stored payload →
        payload.length ≤ limits.maxPictureBytes →
          ∃ blip, Blip.decode limits record = .ok blip ∧ blip.kind = record.kind ∧
            IsFileOf metafileHeader payload blip.kind blip.data) ∧
    (∀ limits record blip, Blip.decode limits record = .ok blip → blip.kind = .wmf →
      StartsWithKey blip.data) ∧
    ∀ limits record blip, Blip.decode limits record = .ok blip → blip.kind = .wmf →
      ∀ (again : Record) ids metafileHeader (wide : Limits),
        again.header.recType = 0xF01B → again.HasParts ids metafileHeader blip.data →
          metafileHeader[32]? ≠ some 0 → blip.data.length ≤ wide.maxPictureBytes →
            Blip.decode wide again =
              .ok ⟨.wmf, blip.data, again.bodyOffset + ids.length + metafileHeader.length⟩ := by
  refine ⟨?_, ?_, ?_, ?_⟩
  · intro limits record blip hkind h
    exact Record.isFileOf_of_decode hkind h
  · intro limits record ids metafileHeader stored payload hkind hparts hpayload hfits
    exact hparts.exists_decode hkind hpayload hfits
  · intro limits record blip h hkind
    exact Record.startsWithKey_of_decode h hkind
  · intro limits record blip h hkind again ids metafileHeader wide htype hparts hplain hfits
    exact hparts.decode_rewrapped htype hplain (Record.startsWithKey_of_decode h hkind) hfits

/-- The header of a metafile that is not compressed; the first of its bounds is minus one. -/
def plainHeader : Bytes :=
  List.replicate 4 0 ++ (List.replicate 4 0xFF ++ (List.replicate 24 0 ++ [0xFE, 0xFE]))

/-- A record of a placeable metafile with two identifiers. -/
def wrapped (stored : Bytes) : Record where
  header := ⟨⟨1, by decide⟩, ⟨0x217, by decide⟩, 0xF01B, UInt32.ofNat (66 + stored.length)⟩
  offset := 0
  body := List.replicate 32 1 ++ (plainHeader ++ stored)

theorem hasParts_wrapped (stored : Bytes) :
    (wrapped stored).HasParts (List.replicate 32 1) plainHeader stored where
  body_eq := rfl
  length_ids := rfl
  length_header := rfl

/-- The file of a single byte, which is shorter than the key. -/
def shortFile : Blip where
  kind := .wmf
  data := placeableHeader plainHeader ++ [0x57]
  offset := 74

theorem decoded_metafiles_are_files_short :
    Blip.decode ⟨1, 0⟩ (wrapped [0x57]) = .ok shortFile ∧
    (∃ blip, Blip.decode ⟨1, 0⟩ (wrapped [0x57]) = .ok blip ∧ blip.kind = .wmf ∧
      IsFileOf plainHeader [0x57] blip.kind blip.data) ∧
    (∃ ids metafileHeader stored payload, (wrapped [0x57]).HasParts ids metafileHeader stored ∧
      IsPayloadOf metafileHeader stored payload ∧ payload.length ≤ 1 ∧ shortFile.kind = .wmf ∧
        IsFileOf metafileHeader payload shortFile.kind shortFile.data) ∧
    StartsWithKey shortFile.data ∧
    Blip.decode ⟨23, 0⟩ (wrapped shortFile.data) = .ok shortFile := by
  obtain ⟨hfile, hall, hkey, honce⟩ := decoded_metafiles_are_files
  have hdecode : Blip.decode ⟨1, 0⟩ (wrapped [0x57]) = .ok shortFile :=
    Result.ok_of_toOption (by decide +kernel)
  have hplain : plainHeader[32]? ≠ some 0 := by decide
  have hpayload : IsPayloadOf plainHeader [0x57] [0x57] := by
    unfold IsPayloadOf
    rw [if_neg hplain]
  refine ⟨hdecode, ?_, ?_, ?_, ?_⟩
  · exact hall ⟨1, 0⟩ _ _ _ _ _ rfl (hasParts_wrapped _) hpayload (Nat.le_refl _)
  · exact hfile ⟨1, 0⟩ _ _ rfl hdecode
  · exact hkey _ _ _ hdecode rfl
  · exact honce _ _ _ hdecode rfl _ _ _ _ rfl (hasParts_wrapped _) hplain (by decide)

end Art
end OfficePictures
