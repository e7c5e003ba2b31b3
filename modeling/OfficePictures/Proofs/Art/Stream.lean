import OfficePictures.Proofs.Art.Location
import OfficePictures.Proofs.Art.RecordLayout

/-!
# Stream — what a walk over records owes to the place of the stream

Bytes behind a stream add records and leave those in front as they are, and bytes in front of it
move the records and change nothing else.

* `Record.items_scan_isPrefix` — a stream that is cut off has the first records of the whole;
* `Record.unplaced` — a record without its place, which is all that decoding gives apart from
  offsets;
* `Record.unplaced_scan_append` — complete records in front of a stream, and the records of the
  stream.
-/

namespace OfficePictures
namespace Art

variable {limits : Limits}

namespace Record

/-! ## Streams that are cut off -/

/-- The records of a stream are the first ones, whatever follows it. -/
theorem items_scan_isPrefix (front rest : Bytes) (offset : Nat) :
    (scan front offset).items <+: (scan (front ++ rest) offset).items := by
  fun_induction scan front offset with
  -- Without a complete record nothing is claimed of what follows.
  | case1 => exact List.nil_prefix
  | case2 => exact List.nil_prefix
  | case3 front offset hlong record hread ih =>
      have hsize : record.size ≤ front.length := (size_of_read hread).2
      have hdrop : (front ++ rest).drop record.size = front.drop record.size ++ rest :=
        List.drop_append_of_le_length hsize
      have hheader : ¬ ((front ++ rest).take Header.size).length < Header.size := by
        intro hshort
        rw [List.length_take, List.length_append] at hshort
        rw [List.length_take] at hlong
        omega
      have hscan : scan (front ++ rest) offset =
          .cons record (scan (front.drop record.size ++ rest) (offset + record.size)) := by
        rw [scan, if_neg hheader, read_append hread rest]
        simp only [hdrop]
      rw [hscan]
      exact List.cons_prefix_cons.2 ⟨rfl, ih⟩

/-! ## Records without their place -/

/-- The record as it would be at the start of its stream. -/
def unplaced (record : Record) : Record :=
  { record with offset := 0 }

@[simp] theorem header_unplaced (record : Record) : record.unplaced.header = record.header :=
  rfl

@[simp] theorem kind_unplaced (record : Record) : record.unplaced.kind = record.kind :=
  rfl

@[simp] theorem unplaced_placed (record : CompleteRecord) (offset : Nat) :
    (record.placed offset).unplaced = record.placed 0 :=
  rfl

theorem stores_unplaced_iff {record : Record} {content : Bytes} :
    record.unplaced.Stores content ↔ record.Stores content := by
  constructor
  · intro h
    cases h with
    | plain hplain => exact @Stores.plain record hplain
    | deflated hdeflated hwhole => exact @Stores.deflated record _ hdeflated hwhole
  · intro h
    cases h with
    | plain hplain => exact @Stores.plain record.unplaced hplain
    | deflated hdeflated hwhole => exact @Stores.deflated record.unplaced _ hdeflated hwhole

/-- Decoding looks at the place of a record only to tell where the picture is. -/
theorem exists_decode_unplaced_iff {record : Record} {data : Bytes} :
    (∃ blip, Blip.decode limits record.unplaced = .ok blip ∧ blip.data = data) ↔
      ∃ blip, Blip.decode limits record = .ok blip ∧ blip.data = data := by
  constructor
  · rintro ⟨blip, hdecode, rfl⟩
    rcases stores_of_decode hdecode with ⟨hstart, content, hstores, hfits, rfl⟩
    have hwhole := (stores_unplaced_iff.1 hstores).decode hstart limits
    exact ⟨record.blip content, hwhole.trans (if_pos hfits), rfl⟩
  · rintro ⟨blip, hdecode, rfl⟩
    rcases stores_of_decode hdecode with ⟨hstart, content, hstores, hfits, rfl⟩
    have hwhole := (stores_unplaced_iff.2 hstores).decode hstart limits
    exact ⟨record.unplaced.blip content, hwhole.trans (if_pos hfits), rfl⟩

theorem read_offset (data : Bytes) (offset offset' : Nat) :
    (∃ fault fault', read data offset = .error fault ∧ read data offset' = .error fault') ∨
      ∃ record, read data offset = .ok record ∧
        read data offset' = .ok { record with offset := offset' } := by
  unfold read
  cases Header.read? data 0 with
  | none => exact .inl ⟨_, _, rfl, rfl⟩
  | some header =>
      dsimp only
      split
      · exact .inl ⟨_, _, rfl, rfl⟩
      · exact .inr ⟨_, rfl, rfl⟩

/-- Wherever a stream begins, it has the same records, and the same stops the walk or nothing. -/
theorem scan_offset (data : Bytes) (offset offset' : Nat) :
    (scan data offset).items.map unplaced = (scan data offset').items.map unplaced ∧
      ((scan data offset).obstacle = none ↔ (scan data offset').obstacle = none) := by
  fun_induction scan data offset generalizing offset' with
  | case1 data offset hshort =>
      rw [scan, if_pos hshort]
      exact ⟨rfl, Iff.rfl⟩
  | case2 data offset hlong fault hread =>
      rcases read_offset data offset offset' with ⟨_, fault', -, hread'⟩ | ⟨_, hread', -⟩
      · rw [scan, if_neg hlong, hread']
        exact ⟨rfl, iff_of_false (by simp [Walk.stopped]) (by simp [Walk.stopped])⟩
      · rw [hread] at hread'
        cases hread'
  | case3 data offset hlong record hread ih =>
      rcases read_offset data offset offset' with ⟨_, _, hread', -⟩ | ⟨found, hfound, hread'⟩
      · rw [hread] at hread'
        cases hread'
      · have hsame : record = found := Except.ok.inj (hread.symm.trans hfound)
        subst hsame
        have hrest := ih (offset' + record.size)
        rw [scan.eq_def data offset', if_neg hlong, hread']
        simp only [Walk.items_cons, Walk.obstacle_cons, List.map_cons]
        exact ⟨congrArg₂ List.cons rfl hrest.1, hrest.2⟩

end Record

/-! ## Complete records in front of a stream -/

/-- The bytes of records that follow one another. -/
def recordBytes (records : List CompleteRecord) : Bytes :=
  records.flatMap (·.bytes)

/-- Complete records come first, and then the records of what follows them; and only what follows
them can stop the walk. -/
theorem Record.unplaced_scan_append (records : List CompleteRecord) (rest : Bytes)
    (offset : Nat) :
    let walk := scan (recordBytes records ++ rest) offset
    walk.items.map unplaced =
        records.map (·.placed 0) ++ (scan rest 0).items.map unplaced ∧
      (walk.obstacle = none ↔ (scan rest 0).obstacle = none) := by
  induction records generalizing offset with
  | nil => exact scan_offset rest offset 0
  | cons record records ih =>
      have hbytes : recordBytes (record :: records) ++ rest =
          record.bytes ++ (recordBytes records ++ rest) := by
        simp [recordBytes]
      have hrest := ih (offset + record.bytes.length)
      rw [hbytes, scan_bytes_append]
      simpa using hrest

end Art
end OfficePictures
