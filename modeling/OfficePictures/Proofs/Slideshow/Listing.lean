import OfficePictures.Proofs.Art.Stream
import OfficePictures.Proofs.Container.Miniature
import OfficePictures.Proofs.Slideshow

/-!
# Listing — which records of a presentation are listed

The stream of pictures holds records of all types.  Those of the listed types are decoded in their
order and named for their number among them; all others are passed over, whatever they hold.

* `recordPictures_eq` — only the records of the listed types are decoded, and then what stopped the
  walk counts;
* `IsListing`, `FirstFault` — what is listed of records, and the fault if nothing is;
* `streamPictures_records_append_iff` — the pictures depend on nothing but the listed records;
* `streamPictures_listing` — all of this together, for every stream.
-/

namespace OfficePictures
namespace Slideshow

open Art (CompleteRecord Record)

variable {limits : Limits} {obstacle : Option Fault} {records : List Record} {list : List Picture}

/-! ## Listed records -/

/-- The types of the records that are listed, each with the extension for its pictures. -/
def listedTypes : List (UInt16 × String) :=
  [(0xF01A, "emf"), (0xF01B, "wmf"), (0xF01C, "pict"), (0xF01D, "jpg"), (0xF02A, "jpg"),
    (0xF01E, "png")]

def IsListed (recType : UInt16) : Prop :=
  (listedTypes.lookup recType).isSome = true

instance (recType : UInt16) : Decidable (IsListed recType) :=
  inferInstanceAs (Decidable (_ = true))

theorem listedExtension?_ofRecordType (recType : UInt16) :
    listedExtension? (PictureKind.ofRecordType recType) = listedTypes.lookup recType := by
  unfold PictureKind.ofRecordType
  -- One type after the other; what is left is of no listed type, or of no known one.
  by_cases hemf : recType = 0xF01A
  · subst hemf
    rfl
  by_cases hwmf : recType = 0xF01B
  · subst hwmf
    rfl
  by_cases hpict : recType = 0xF01C
  · subst hpict
    rfl
  by_cases hjpeg : recType = 0xF01D ∨ recType = 0xF02A
  · rcases hjpeg with rfl | rfl <;> rfl
  by_cases hpng : recType = 0xF01E
  · subst hpng
    rfl
  rcases not_or.1 hjpeg with ⟨hjpeg', hjpeg''⟩
  have hnone : listedTypes.lookup recType = none := by
    simp [listedTypes, List.lookup_cons, beq_false_of_ne, hemf, hwmf, hpict, hjpeg', hjpeg'', hpng]
  rw [if_neg hemf, if_neg hwmf, if_neg hpict, if_neg hjpeg, if_neg hpng, hnone]
  by_cases hdib : recType = 0xF01F
  · rw [if_pos hdib]
    rfl
  by_cases htiff : recType = 0xF029
  · rw [if_neg hdib, if_pos htiff]
    rfl
  · rw [if_neg hdib, if_neg htiff]
    rfl

/-- A record of a listed type, with the extension for its picture. -/
abbrev ListedRecord : Type :=
  Record × String

def listed? (record : Record) : Option ListedRecord :=
  (listedTypes.lookup record.header.recType).map (record, ·)

/-- The records of the listed types, in their order. -/
def listedRecords (records : List Record) : List ListedRecord :=
  records.filterMap listed?

/-- The picture of a listed record with its number. -/
def decodeListed (limits : Limits) (entry : ListedRecord × Nat) : Except Fault Picture :=
  (Art.Blip.decode limits entry.1.1).map (toPicture entry.2 entry.1.2 entry.1.1)

/-- The listed records are decoded in their order, and nothing is given if something stopped the
walk behind them. -/
theorem recordPictures_eq (limits : Limits) (obstacle : Option Fault) (number : Nat)
    (records : List Record) :
    recordPictures limits obstacle number records = (do
      let list ← ((listedRecords records).zipIdx number).mapM (decodeListed limits)
      match obstacle with
      | some fault => .error fault
      | none => .ok list) := by
  induction records generalizing number with
  | nil => cases obstacle <;> rfl
  | cons record records ih =>
      rw [recordPictures_cons, Record.kind, listedExtension?_ofRecordType]
      cases htype : listedTypes.lookup record.header.recType with
      | none =>
          have hlisted : listedRecords (record :: records) = listedRecords records := by
            simp [listedRecords, listed?, htype]
          rw [hlisted]
          exact ih number
      | some extension =>
          have hlisted : listedRecords (record :: records) =
              (record, extension) :: listedRecords records := by
            simp [listedRecords, listed?, htype]
          dsimp only
          rw [hlisted, List.zipIdx_cons, List.mapM_cons, ih, decodeListed]
          cases Art.Blip.decode limits record with
          | error fault => rfl
          | ok blip =>
              cases ((listedRecords records).zipIdx (number + 1)).mapM (decodeListed limits) with
              | error fault => rfl
              | ok more => cases obstacle <;> rfl

theorem recordPictures_eq_ok_iff {number : Nat} :
    recordPictures limits obstacle number records = .ok list ↔
      obstacle = none ∧
        ((listedRecords records).zipIdx number).mapM (decodeListed limits) = .ok list := by
  rw [recordPictures_eq]
  cases ((listedRecords records).zipIdx number).mapM (decodeListed limits) with
  | error fault => simp [bind, Except.bind]
  | ok found => cases obstacle <;> simp [bind, Except.bind]

/-! ## What is listed -/

/-- The pictures are those of the listed records, each with its number among them. -/
structure IsListing (limits : Limits) (records : List Record) (list : List Picture) : Prop where
  length_eq : list.length = (listedRecords records).length
  getElem?_eq : ∀ number record extension,
    (listedRecords records)[number]? = some (record, extension) →
      ∃ blip, Art.Blip.decode limits record = .ok blip ∧
        list[number]? = some (toPicture number extension record blip)

theorem isListing_iff :
    IsListing limits records list ↔
      (listedRecords records).zipIdx.mapM (decodeListed limits) = .ok list := by
  have hzip : (listedRecords records).zipIdx.length = (listedRecords records).length :=
    List.length_zipIdx
  rw [Result.mapM_eq_ok_iff, List.forall₂_iff_get]
  constructor
  · rintro ⟨hlength, hpictures⟩
    refine ⟨hzip.trans hlength.symm, ?_⟩
    intro number hentry hpicture
    have hlisted : number < (listedRecords records).length := hzip ▸ hentry
    obtain ⟨record, extension, hget⟩ :
        ∃ record extension, (listedRecords records)[number] = (record, extension) := ⟨_, _, rfl⟩
    rcases hpictures number record extension (List.getElem?_eq_some_iff.2 ⟨hlisted, hget⟩) with
      ⟨blip, hdecode, hpicture'⟩
    have hsame := (List.getElem?_eq_some_iff.1 hpicture').2
    simp [decodeListed, hget, hdecode, hsame, Except.map]
  · rintro ⟨hlength, hpictures⟩
    refine ⟨hlength.symm.trans hzip, ?_⟩
    intro number record extension hentry
    rcases List.getElem?_eq_some_iff.1 hentry with ⟨hlisted, hget⟩
    have hentry' : number < (listedRecords records).zipIdx.length := hzip.symm ▸ hlisted
    have hpicture : number < list.length := hlength ▸ hentry'
    have hstep := hpictures number hentry' hpicture
    rw [List.get_eq_getElem, List.getElem_zipIdx, decodeListed] at hstep
    rcases Result.exists_of_map hstep with ⟨blip, hdecode, hsame⟩
    simp only [hget, Nat.zero_add] at hdecode hsame
    exact ⟨blip, hdecode, List.getElem?_eq_some_iff.2 ⟨hpicture, hsame.symm⟩⟩

/-- The fault of the first listed record that cannot be decoded or, if all can be, of what stopped
the walk. -/
inductive FirstFault (limits : Limits) (walk : Walk Fault Record) (fault : Fault) : Prop
  | undecodable
      (hfails : Result.FailsFirst (fun entry : ListedRecord => Art.Blip.decode limits entry.1)
        (listedRecords walk.items) fault)
  | stopped
      (hdecode : ∀ entry ∈ listedRecords walk.items,
        ∃ blip, Art.Blip.decode limits entry.1 = .ok blip)
      (hobstacle : walk.obstacle = some fault)

theorem exists_decodeListed_iff {entry : ListedRecord × Nat} :
    (∃ picture, decodeListed limits entry = .ok picture) ↔
      ∃ blip, Art.Blip.decode limits entry.1.1 = .ok blip := by
  constructor
  · rintro ⟨picture, h⟩
    rcases Result.exists_of_map h with ⟨blip, hdecode, -⟩
    exact ⟨blip, hdecode⟩
  · rintro ⟨blip, hdecode⟩
    exact ⟨_, by rw [decodeListed, hdecode]; rfl⟩

/-- Whether a record can be decoded does not depend on its number. -/
theorem exists_mapM_decodeListed_iff {entries : List ListedRecord} :
    (∃ list, entries.zipIdx.mapM (decodeListed limits) = .ok list) ↔
      ∀ entry ∈ entries, ∃ blip, Art.Blip.decode limits entry.1 = .ok blip := by
  have hentries : entries.zipIdx.map Prod.fst = entries := List.zipIdx_map_fst 0 entries
  simp only [Result.exists_mapM_iff, exists_decodeListed_iff]
  constructor
  · intro h
    rw [← hentries]
    exact List.forall_mem_map.2 h
  · intro h entry hentry
    exact h entry.1 (hentries ▸ List.mem_map_of_mem hentry)

theorem failsFirst_decodeListed_iff {entries : List ListedRecord} {number : Nat} {fault : Fault} :
    Result.FailsFirst (decodeListed limits) (entries.zipIdx number) fault ↔
      Result.FailsFirst (fun entry => Art.Blip.decode limits entry.1) entries fault := by
  induction entries generalizing number with
  | nil =>
      rw [← Result.mapM_eq_error_iff, ← Result.mapM_eq_error_iff]
      exact iff_of_false (fun h => nomatch h) (fun h => nomatch h)
  | cons entry entries ih =>
      have hfault : decodeListed limits (entry, number) = .error fault ↔
          Art.Blip.decode limits entry.1 = .error fault := by
        rw [decodeListed]
        cases Art.Blip.decode limits entry.1 <;> simp [Except.map]
      rw [List.zipIdx_cons, Result.failsFirst_cons_iff, Result.failsFirst_cons_iff, ih, hfault,
        exists_decodeListed_iff]

theorem recordPictures_eq_error_iff {walk : Walk Fault Record} {fault : Fault} :
    recordPictures limits walk.obstacle 0 walk.items = .error fault ↔
      FirstFault limits walk fault := by
  rw [recordPictures_eq]
  constructor
  · intro h
    cases hlist : (listedRecords walk.items).zipIdx.mapM (decodeListed limits) with
    | error found =>
        rw [hlist] at h
        cases h
        exact .undecodable (failsFirst_decodeListed_iff.1 (Result.mapM_eq_error_iff.1 hlist))
    | ok list =>
        cases hobstacle : walk.obstacle with
        | none =>
            rw [hlist, hobstacle] at h
            cases h
        | some found =>
            rw [hlist, hobstacle] at h
            cases h
            exact .stopped (exists_mapM_decodeListed_iff.1 ⟨list, hlist⟩) hobstacle
  · intro h
    cases h with
    | undecodable hfails =>
        rw [Result.mapM_eq_error_iff.2 (failsFirst_decodeListed_iff.2 hfails)]
        rfl
    | stopped hdecode hobstacle =>
        rcases exists_mapM_decodeListed_iff.2 hdecode with ⟨list, hlist⟩
        rw [hlist, hobstacle]
        rfl

/-! ## Streams -/

theorem streamPictures_eq_ok_iff {stream : Bytes} :
    streamPictures stream limits = .ok list ↔
      (Record.scan stream 0).obstacle = none ∧
        IsListing limits (Record.scan stream 0).items list := by
  rw [isListing_iff]
  exact recordPictures_eq_ok_iff

theorem forall_listedRecords_iff {P : Record → Prop} :
    (∀ entry ∈ listedRecords records, P entry.1) ↔
      ∀ record ∈ records, IsListed record.header.recType → P record := by
  constructor
  · intro h record hrecord hlisted
    rcases Option.isSome_iff_exists.1 hlisted with ⟨extension, hextension⟩
    have hentry : (record, extension) ∈ listedRecords records := by
      refine List.mem_filterMap.2 ⟨record, hrecord, ?_⟩
      rw [listed?, hextension]
      rfl
    exact h _ hentry
  · intro h entry hentry
    rcases List.mem_filterMap.1 hentry with ⟨record, hrecord, hlisted⟩
    rcases Option.map_eq_some_iff.1 hlisted with ⟨extension, hextension, rfl⟩
    have hlisted : IsListed record.header.recType := by
      rw [IsListed, hextension]
      rfl
    exact h record hrecord hlisted

/-! ## Records that are passed over -/

theorem listedRecords_unplaced (records : List Record) :
    listedRecords (records.map Record.unplaced) =
      (listedRecords records).map fun entry => (entry.1.unplaced, entry.2) := by
  simp only [listedRecords, List.filterMap_map, List.map_filterMap]
  refine List.filterMap_congr ?_
  intro record _
  simp [listed?, Function.comp_def]

theorem isListing_unplaced_iff :
    IsListing limits (records.map Record.unplaced) list ↔ IsListing limits records list := by
  -- A picture has the kind and the bytes of its record, but not its place.
  have hpicture : ∀ (record : Record) (number : Nat) (extension : String) (found : Option Picture),
      (∃ blip, Art.Blip.decode limits record.unplaced = .ok blip ∧
          found = some (toPicture number extension record.unplaced blip)) ↔
        ∃ blip, Art.Blip.decode limits record = .ok blip ∧
          found = some (toPicture number extension record blip) := by
    intro record number extension found
    constructor
    · rintro ⟨blip, hdecode, hfound⟩
      rcases Record.exists_decode_unplaced_iff.1 ⟨blip, hdecode, rfl⟩ with ⟨other, hother, hdata⟩
      refine ⟨other, hother, hfound.trans ?_⟩
      simp [toPicture, hdata]
    · rintro ⟨blip, hdecode, hfound⟩
      rcases Record.exists_decode_unplaced_iff.2 ⟨blip, hdecode, rfl⟩ with ⟨other, hother, hdata⟩
      refine ⟨other, hother, hfound.trans ?_⟩
      simp [toPicture, hdata]
  constructor
  · rintro ⟨hlength, hget⟩
    rw [listedRecords_unplaced] at hlength hget
    refine ⟨by simpa using hlength, ?_⟩
    intro number record extension hentry
    refine (hpicture record number extension _).1 (hget number _ extension ?_)
    simp [hentry]
  · rintro ⟨hlength, hget⟩
    refine ⟨by simpa [listedRecords_unplaced] using hlength, ?_⟩
    intro number record extension hentry
    rw [listedRecords_unplaced, List.getElem?_map] at hentry
    rcases Option.map_eq_some_iff.1 hentry with ⟨⟨original, extension'⟩, horiginal, hsame⟩
    cases hsame
    exact (hpicture original number extension' _).2 (hget number original extension' horiginal)

/-- Complete records that are not listed are as if they were not there. -/
theorem listedRecords_placed (records : List CompleteRecord) :
    listedRecords ((records.filter fun record => IsListed record.recType).map (·.placed 0)) =
      listedRecords (records.map (·.placed 0)) := by
  induction records with
  | nil => rfl
  | cons record records ih =>
      by_cases hlisted : IsListed record.recType
      · have hkeep : (record :: records).filter (fun record => IsListed record.recType) =
            record :: records.filter fun record => IsListed record.recType := by
          simp [hlisted]
        rw [hkeep, List.map_cons, List.map_cons]
        simp only [listedRecords, List.filterMap_cons] at ih ⊢
        rw [ih]
      · have hdrop : (record :: records).filter (fun record => IsListed record.recType) =
            records.filter fun record => IsListed record.recType := by
          simp [hlisted]
        have hnone : listed? (record.placed 0) = none := by
          rw [listed?, Option.map_eq_none_iff]
          exact Option.not_isSome_iff_eq_none.1 hlisted
        rw [hdrop, ih, List.map_cons]
        simp [listedRecords, hnone]

theorem isListing_congr {others : List Record} (h : listedRecords records = listedRecords others) :
    IsListing limits records list ↔ IsListing limits others list := by
  rw [isListing_iff, isListing_iff, h]

/-- Whatever complete records of other types stand in front of a stream, the pictures are those of
the listed ones and of the stream. -/
theorem streamPictures_records_append_iff (records : List CompleteRecord) (rest : Bytes) :
    streamPictures (Art.recordBytes records ++ rest) limits = .ok list ↔
      (Record.scan rest 0).obstacle = none ∧
        IsListing limits
          ((records.filter fun record => IsListed record.recType).map (·.placed 0) ++
            (Record.scan rest 0).items.map Record.unplaced) list := by
  have hscan := Record.unplaced_scan_append records rest 0
  dsimp only at hscan
  rw [streamPictures_eq_ok_iff, hscan.2, ← isListing_unplaced_iff, hscan.1]
  refine and_congr_right fun _ => isListing_congr ?_
  have happend : ∀ front back : List Record,
      listedRecords (front ++ back) = listedRecords front ++ listedRecords back := by
    intro front back
    exact List.filterMap_append
  rw [happend, happend, listedRecords_placed]

/-- What is listed of a stream of pictures.  The pictures are those of the records of the listed
types, decoded in their order and numbered, and there are any if and only if no record is cut off
and all of these can be decoded; otherwise the first of them that cannot be decoded decides.
Records of other types leave no trace. -/
theorem streamPictures_listing (limits : Limits) :
    (∀ stream list, streamPictures stream limits = .ok list ↔
      (Record.scan stream 0).obstacle = none ∧
        IsListing limits (Record.scan stream 0).items list) ∧
    (∀ stream, (∃ list, streamPictures stream limits = .ok list) ↔
      (Record.scan stream 0).obstacle = none ∧
        ∀ record ∈ (Record.scan stream 0).items, IsListed record.header.recType →
          ∃ blip, Art.Blip.decode limits record = .ok blip) ∧
    (∀ stream fault, streamPictures stream limits = .error fault ↔
      FirstFault limits (Record.scan stream 0) fault) ∧
    (∀ (records others : List CompleteRecord) (rest : Bytes),
      records.filter (fun record => IsListed record.recType) =
          others.filter (fun record => IsListed record.recType) →
        ∀ list, streamPictures (Art.recordBytes records ++ rest) limits = .ok list ↔
          streamPictures (Art.recordBytes others ++ rest) limits = .ok list) := by
  refine ⟨fun _ _ => streamPictures_eq_ok_iff, ?_, fun _ _ => recordPictures_eq_error_iff, ?_⟩
  · intro stream
    simp only [streamPictures_eq_ok_iff, isListing_iff, exists_and_left,
      exists_mapM_decodeListed_iff]
    exact and_congr_right fun _ =>
      forall_listedRecords_iff (P := fun record => ∃ blip, Art.Blip.decode limits record = .ok blip)
  · intro records others rest hfilter list
    rw [streamPictures_records_append_iff, streamPictures_records_append_iff, hfilter]

/-! ## Records that could not be decoded -/

/-- A record of an unlisted bitmap that is too short for its identifier. -/
def shortBitmap : CompleteRecord :=
  ⟨Container.smallBitmap.version, ⟨0x7A8, by decide⟩, 0xF01F, [0x44], by decide⟩

/-- A record of an unlisted kind whose picture is over the limit. -/
def longBitmap : CompleteRecord :=
  ⟨Container.smallBitmap.version, ⟨0x6E4, by decide⟩, 0xF029, List.replicate 40 0x54, by decide⟩

/-- A picture between two records that could not be decoded is listed as it is alone. -/
theorem streamPictures_listing_between :
    streamPictures (Art.recordBytes [shortBitmap, Container.smallBitmap, longBitmap] ++ [0])
        ⟨4, 200⟩ =
      .ok [⟨[0x50, 0x4E, 0x47, 0x21], .png, some "image_0.png", some "png", none⟩] := by
  have hfilter : [shortBitmap, Container.smallBitmap, longBitmap].filter
        (fun record => IsListed record.recType) =
      [Container.smallBitmap].filter fun record => IsListed record.recType := by
    rfl
  have halone : streamPictures (Art.recordBytes [Container.smallBitmap] ++ [0]) ⟨4, 200⟩ =
      .ok [⟨[0x50, 0x4E, 0x47, 0x21], .png, some "image_0.png", some "png", none⟩] :=
    Result.ok_of_toOption (by decide +kernel)
  exact ((streamPictures_listing ⟨4, 200⟩).2.2.2 _ _ [0] hfilter _).2 halone

end Slideshow
end OfficePictures
