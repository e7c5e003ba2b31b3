import OfficePictures.Proofs.Art.BlipStore
import OfficePictures.Proofs.Bytes

/-!
# Location — where records and pictures lie

Records lie in bodies of records, and those in a stream.  The offset of a record counts from the
start of the stream, however deep the record lies.

* `Record.LiesIn` — the record is what is read at its offset;
* `Record.LiesIn.of_take`, `Record.LiesIn.of_drop`, `Record.LiesIn.of_body` — what lies in a part of
  a stream lies in the stream;
* `Blip.located_of_decode` — the offset of a picture is that of its payload;
* `isFromStore_of_blipStorePictures` — the pictures of a drawing group are located in the group, or
  in the stream of delayed pictures.
-/

namespace OfficePictures
namespace Art

/-! ## Records -/

namespace Header

variable {data : Bytes} {position : Nat} {header : Header}

theorem read?_drop (data : Bytes) (position : Nat) :
    read? (data.drop position) 0 = read? data position := by
  simp only [read?, Bytes.u16?, Bytes.u32?, Bytes.natAt?_drop, Nat.add_zero, Nat.zero_add]

theorem read?_append_of_eq_some (h : read? data position = some header) (rest : Bytes) :
    read? (data ++ rest) position = some header := by
  rcases Option.bind_eq_some_iff.1 h with ⟨first, hfirst, h⟩
  rcases Option.bind_eq_some_iff.1 h with ⟨recType, htype, h⟩
  rcases Option.bind_eq_some_iff.1 h with ⟨length, hlength, h⟩
  refine Option.bind_eq_some_iff.2 ⟨first, Bytes.u16?_append_of_eq_some hfirst rest, ?_⟩
  refine Option.bind_eq_some_iff.2 ⟨recType, Bytes.u16?_append_of_eq_some htype rest, ?_⟩
  exact Option.bind_eq_some_iff.2 ⟨length, Bytes.u32?_append_of_eq_some hlength rest, h⟩

theorem le_length_of_read? (h : read? data position = some header) :
    position + size ≤ data.length := by
  rcases Option.bind_eq_some_iff.1 h with ⟨_, -, h⟩
  rcases Option.bind_eq_some_iff.1 h with ⟨_, -, h⟩
  rcases Option.bind_eq_some_iff.1 h with ⟨_, hlength, -⟩
  rcases Option.map_eq_some_iff.1 hlength with ⟨_, hn, -⟩
  -- The last field ends where the header ends.
  have hlast : position + 4 + 4 ≤ data.length := Bytes.le_length_of_natAt? hn (by decide)
  exact hlast

end Header

namespace Record

variable {record : Record} {source : Bytes} {base offset : Nat}

/-- What a record that is read consists of. -/
theorem read_eq_ok_iff :
    read source offset = .ok record ↔
      Header.read? source 0 = some record.header ∧ record.offset = offset ∧
        record.body = (source.drop Header.size).take record.header.length.toNat ∧
          Header.size + record.header.length.toNat ≤ source.length := by
  unfold read
  split
  · rename_i hheader
    rw [hheader]
    constructor
    · intro h
      cases h
    · rintro ⟨h, -⟩
      cases h
  · rename_i header hheader
    have hsize : Header.size ≤ source.length := by
      simpa using Header.le_length_of_read? hheader
    have hlength : ((source.drop Header.size).take header.length.toNat).length =
        min header.length.toNat (source.length - Header.size) := by
      rw [List.length_take, List.length_drop]
    dsimp only
    rw [hlength]
    split
    · rename_i hshort
      constructor
      · intro h
        cases h
      · rintro ⟨hsame, -, -, hlong⟩
        rw [hheader, Option.some.injEq] at hsame
        rw [hsame] at hshort
        omega
    · rename_i hlong
      constructor
      · intro h
        cases h
        refine ⟨hheader, rfl, rfl, ?_⟩
        dsimp only
        omega
      · rintro ⟨hsame, rfl, hbody, -⟩
        rw [hheader, Option.some.injEq] at hsame
        rw [hsame, ← hbody]

theorem read_append (h : read source offset = .ok record) (rest : Bytes) :
    read (source ++ rest) offset = .ok record := by
  rcases read_eq_ok_iff.1 h with ⟨hheader, hoffset, hbody, hlong⟩
  -- The record is complete in `source`, so neither its header nor its body reaches into `rest`.
  have hdrop : record.header.length.toNat ≤ (source.drop Header.size).length := by
    rw [List.length_drop]
    omega
  refine read_eq_ok_iff.2 ⟨Header.read?_append_of_eq_some hheader rest, hoffset, ?_, ?_⟩
  · rw [List.drop_append, List.take_append_of_le_length hdrop]
    exact hbody
  · rw [List.length_append]
    omega

theorem size_of_read (h : read source offset = .ok record) :
    record.size = Header.size + record.header.length.toNat ∧ record.size ≤ source.length := by
  rcases read_eq_ok_iff.1 h with ⟨-, -, hbody, hlong⟩
  have hlength : record.body.length = record.header.length.toNat := by
    rw [hbody, List.length_take, List.length_drop]
    omega
  rw [size, hlength]
  exact ⟨rfl, hlong⟩

/-! ## Records in a stream -/

/-- The record is what is read at its offset of `source`, which begins at `base`. -/
def LiesIn (record : Record) (source : Bytes) (base : Nat) : Prop :=
  ∃ position, readAt source position base = .ok record

theorem LiesIn.of_drop {start : Nat} (h : record.LiesIn (source.drop start) offset)
    (hoffset : offset = base + start) : record.LiesIn source base := by
  rcases h with ⟨position, h⟩
  refine ⟨start + position, ?_⟩
  rw [readAt, List.drop_drop, hoffset, Nat.add_assoc] at h
  rw [readAt]
  exact h

theorem LiesIn.of_take {length : Nat} (h : record.LiesIn (source.take length) base) :
    record.LiesIn source base := by
  rcases h with ⟨position, h⟩
  refine ⟨position, ?_⟩
  -- From the same position the stream has the bytes of the part, and more behind them.
  have hdrop : source.drop position =
      (source.take length).drop position ++ (source.drop position).drop (length - position) := by
    rw [List.drop_take, List.take_append_drop]
  rw [readAt, hdrop]
  exact read_append h _

theorem LiesIn.base_le (h : record.LiesIn source base) : base ≤ record.offset := by
  rcases h with ⟨position, h⟩
  rw [(read_eq_ok_iff.1 h).2.1]
  exact Nat.le_add_right _ _

theorem LiesIn.end_le (h : record.LiesIn source base) :
    record.offset + record.size ≤ base + source.length := by
  rcases h with ⟨position, h⟩
  have hsize := (size_of_read h).2
  have hpos : Header.size ≤ record.size := Nat.le_add_right _ _
  have hheader : 0 < Header.size := by decide
  rw [(read_eq_ok_iff.1 h).2.1]
  rw [List.length_drop] at hsize
  omega

/-- The body of a record, cut out of the stream. -/
theorem LiesIn.body_eq (h : record.LiesIn source base) :
    ∃ start length, record.bodyOffset = base + start ∧ start ≤ source.length ∧
      record.body = (source.drop start).take length := by
  rcases h with ⟨position, h⟩
  rcases read_eq_ok_iff.1 h with ⟨-, hoffset, hbody, hlong⟩
  refine ⟨position + Header.size, record.header.length.toNat, ?_, ?_, ?_⟩
  · rw [bodyOffset, hoffset, Nat.add_assoc]
  · rw [List.length_drop] at hlong
    have hheader : 0 < Header.size := by decide
    omega
  · rw [hbody, List.drop_drop]

/-- What lies in the body of a record lies in the stream of the record. -/
theorem LiesIn.of_body {outer : Record} (h : record.LiesIn outer.body outer.bodyOffset)
    (houter : outer.LiesIn source base) : record.LiesIn source base := by
  rcases houter.body_eq with ⟨start, length, hoffset, -, hbody⟩
  rw [hbody] at h
  exact h.of_take.of_drop hoffset

theorem liesIn_of_mem_scan (h : record ∈ (scan source base).items) : record.LiesIn source base := by
  fun_induction scan source base with
  -- No header is left, or the record is cut off: nothing is yielded.
  | case1 => cases h
  | case2 => cases h
  | case3 source base _ first hread ih =>
      rcases List.mem_cons.1 h with rfl | hrest
      · exact ⟨0, hread⟩
      · exact (ih hrest).of_drop rfl

theorem liesIn_of_mem_children {outer : Record} (h : record ∈ outer.children.items)
    (houter : outer.LiesIn source base) : record.LiesIn source base :=
  (liesIn_of_mem_scan h).of_body houter

end Record

/-! ## Pictures -/

/-- A record in an entry of a store is the record of a picture and lies in the body of the
entry. -/
theorem StoreEntry.liesIn_of_embedded {holder picture : Record} {entry : StoreEntry}
    (hentry : ofRecord holder = .ok entry) (hembedded : entry.embedded = some picture) :
    picture.header.isBlip = true ∧ picture.LiesIn holder.body holder.bodyOffset := by
  unfold ofRecord at hentry
  dsimp only at hentry
  split at hentry
  · cases hentry
  · split at hentry
    · cases hentry
    · rename_i found hfound
      cases hentry
      cases hembedded
      unfold embedded? at hfound
      dsimp only at hfound
      split at hfound
      · cases hfound
      · split at hfound
        · cases hfound
        · rename_i record hread
          by_cases hblip : record.header.isBlip = true
          · rw [if_pos hblip] at hfound
            cases hfound
            exact ⟨hblip, _, hread⟩
          · rw [if_neg hblip] at hfound
            cases hfound

/-- The picture is made of the payload of the record, which ends with the record and stands in
`source` at the offset of the picture. -/
structure Blip.Located (blip : Blip) (record : Record) (source : Bytes) (base : Nat) : Prop where
  liesIn : record.LiesIn source base
  kind : blip.kind = record.kind
  standsAt : Bytes.StandsAt record.payload source base blip.offset
  end_eq : blip.offset + record.payload.length = record.offset + record.size
  bitmap : blip.kind.isMetafile = false → blip.data = record.payload
  uncompressed : ¬ record.IsDeflated →
    blip.data = filePreamble blip.kind record.metafileHeader record.payload ++ record.payload
  compressed : record.IsDeflated →
    ∃ content, (Deflate.inflateZlib record.payload).IsWhole content ∧
      blip.data = filePreamble blip.kind record.metafileHeader content ++ content

namespace Blip

variable {record : Record} {blip : Blip} {source : Bytes} {base : Nat} {limits : Limits}

theorem located_of_stores {content : Bytes} (hstores : record.Stores content)
    (hstart : record.payloadStart ≤ record.body.length) (hlies : record.LiesIn source base) :
    (record.blip content).Located record source base where
  liesIn := hlies
  kind := rfl
  standsAt := by
    rcases hlies.body_eq with ⟨start, length, hoffset, hsource, hbody⟩
    have hinside : start + record.payloadStart ≤ source.length := by
      rw [hbody, List.length_take, List.length_drop] at hstart
      omega
    rw [Record.payload, hbody, List.drop_take, List.drop_drop, Record.blip, hoffset, Nat.add_assoc]
    exact Bytes.standsAt_drop_take source base hinside _
  end_eq := by
    rw [Record.blip, Record.payload, List.length_drop, Record.size, Record.bodyOffset]
    dsimp only
    omega
  bitmap := by
    intro hbitmap
    have hbitmap : record.kind.isMetafile = false := hbitmap
    -- Only metafiles are compressed.
    have hpayload : content = record.payload := by
      cases hstores with
      | plain _ => rfl
      | deflated hdeflated _ =>
          rw [hdeflated.1] at hbitmap
          cases hbitmap
    rw [Record.blip, filePreamble_of_not_isMetafile hbitmap, List.nil_append, hpayload]
  uncompressed := by
    intro hplain
    cases hstores with
    | plain _ => rfl
    | deflated hdeflated _ => exact absurd hdeflated hplain
  compressed := by
    intro hdeflated
    cases hstores with
    | plain hplain => exact absurd hdeflated hplain
    | deflated _ hwhole => exact ⟨content, hwhole, rfl⟩

/-- A picture that is decoded from a record is located where the record lies. -/
theorem located_of_decode (h : decode limits record = .ok blip)
    (hlies : record.LiesIn source base) : blip.Located record source base := by
  rcases Record.stores_of_decode h with ⟨hstart, content, hstores, -, rfl⟩
  exact located_of_stores hstores hstart hlies

/-- A picture that is located in a part of a stream is located in the stream. -/
theorem Located.of_part {start length offset : Nat}
    (h : blip.Located record ((source.drop start).take length) offset)
    (hstart : start ≤ source.length) (hoffset : offset = base + start) :
    blip.Located record source base where
  liesIn := h.liesIn.of_take.of_drop hoffset
  kind := h.kind
  standsAt := by
    refine h.standsAt.trans ?_
    rw [hoffset]
    exact Bytes.standsAt_drop_take source base hstart length
  end_eq := h.end_eq
  bitmap := h.bitmap
  uncompressed := h.uncompressed
  compressed := h.compressed

end Blip

/-! ## Drawing groups -/

/-- The picture is that of an entry in `data`, which begins at `base`.  Its record lies in the
entry, or where the entry says in the stream of delayed pictures. -/
def Blip.IsFromStore (blip : Blip) (data : Bytes) (base : Nat)
    (delay : Option DelayStream) : Prop :=
  ∃ holder entry record, holder.LiesIn data base ∧ holder.header.recType = storeEntryType ∧
    StoreEntry.ofRecord holder = .ok entry ∧ record.header.isBlip = true ∧
      (entry.embedded = some record ∧ blip.Located record data base ∨
        ∃ stream, delay = some stream ∧ entry.embedded = none ∧
          record.offset = stream.base + entry.delayOffset.toNat ∧
            blip.Located record stream.data stream.base)

theorem isFromStore_of_blipStorePictures {data : Bytes} {base : Nat}
    {delay : Option DelayStream} {limits : Limits} {list : List Blip} {blip : Blip}
    (h : blipStorePictures data base delay limits = .ok list) (hmem : blip ∈ list) :
    blip.IsFromStore data base delay := by
  rcases mem_blipStorePictures h hmem with
    ⟨group, hgroup, store, hstore, holder, hholder, htype, entry, record, hentry, hresolve, hdecode⟩
  -- The entry lies three levels deep: in a store, in a group, in the stream.
  have hlies : holder.LiesIn data base := Record.liesIn_of_mem_children hholder
    (Record.liesIn_of_mem_children hstore (Record.liesIn_of_mem_scan hgroup))
  refine ⟨holder, entry, record, hlies, htype, hentry, ?_⟩
  rcases StoreEntry.mem_resolve hresolve with hembedded | ⟨stream, hdelay, hnone, hblip, hread⟩
  · rcases StoreEntry.liesIn_of_embedded hentry hembedded with ⟨hblip, hinner⟩
    exact ⟨hblip, .inl ⟨hembedded, Blip.located_of_decode hdecode (hinner.of_body hlies)⟩⟩
  · have hoffset := (Record.read_eq_ok_iff.1 hread).2.1
    have hlocated := Blip.located_of_decode hdecode ⟨_, hread⟩
    exact ⟨hblip, .inr ⟨stream, hdelay, hnone, hoffset, hlocated⟩⟩

end Art
end OfficePictures
