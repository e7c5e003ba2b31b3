import OfficePictures.Proofs.Art.Stream

/-!
# Tiling — the records of a stream lie side by side

A walk over a stream takes one record where the one before it ends.  It leaves fewer bytes than a
header has, or it stops at the first record that declares more bytes than are left.  Bodies of
records are parts of the stream, so the same holds of the records in them, however deep they lie.

* `Record.BeginsAt`, `OverrunsAt` — a record at a place of a stream, and one that is cut off there;
* `IsTiling` — a walk goes over a part of a stream without a gap;
* `Record.BeginsAt.isTiling_children` — so does the walk over the body of a record, in the same
  stream;
* `Cursor.yields_iff` — a reader that keeps a position yields what the walk finds, item by item;
* `records_tile` — all of it together, and what a writer laid out comes back.
-/

namespace OfficePictures

/-- The items of a walk as a reader yields them: what stopped the walk is the last one. -/
def Walk.yielded {ε α : Type} (walk : Walk ε α) : List (Except ε α) :=
  walk.items.map .ok ++ walk.obstacle.toList.map .error

namespace Art

variable {data : Bytes} {base start stop position : Nat}

/-! ## Headers at a place -/

namespace Header

/-- The fields of the header are those that stand at `position`. -/
structure StandsAt (header : Header) (data : Bytes) (position : Nat) : Prop where
  version_eq : header.version.val = data.valueAt position 2 % 16
  instanceId_eq : header.instanceId.val = data.valueAt position 2 / 16
  recType_eq : header.recType.toNat = data.valueAt (position + 2) 2
  length_eq : header.length.toNat = data.valueAt (position + 4) 4

/-- What stands at a place determines the header. -/
theorem StandsAt.eq {header other : Header} (h : header.StandsAt data position)
    (hother : other.StandsAt data position) : header = other := by
  rcases header with ⟨version, instanceId, recType, length⟩
  rcases other with ⟨version', instanceId', recType', length'⟩
  have hversion : version = version' := Fin.ext (h.version_eq.trans hother.version_eq.symm)
  have hinstance : instanceId = instanceId' :=
    Fin.ext (h.instanceId_eq.trans hother.instanceId_eq.symm)
  have htype : recType = recType' :=
    UInt16.toNat_inj.1 (h.recType_eq.trans hother.recType_eq.symm)
  have hlength : length = length' := UInt32.toNat_inj.1 (h.length_eq.trans hother.length_eq.symm)
  rw [hversion, hinstance, htype, hlength]

theorem exists_read? (h : position + size ≤ data.length) :
    ∃ header, read? data position = some header ∧ header.StandsAt data position := by
  have hsize : size = 8 := rfl
  have hfirst : data.valueAt position 2 < UInt16.size := Bytes.valueAt_lt ..
  have htype : data.valueAt (position + 2) 2 < UInt16.size := Bytes.valueAt_lt ..
  have hlength : data.valueAt (position + 4) 4 < UInt32.size := Bytes.valueAt_lt ..
  have h0 : Bytes.u16? data position = some (UInt16.ofNat (data.valueAt position 2)) :=
    Bytes.u16?_eq_some_iff.2 ⟨(UInt16.toNat_ofNat_of_lt' hfirst).symm, by omega⟩
  have h2 : Bytes.u16? data (position + 2) = some (UInt16.ofNat (data.valueAt (position + 2) 2)) :=
    Bytes.u16?_eq_some_iff.2 ⟨(UInt16.toNat_ofNat_of_lt' htype).symm, by omega⟩
  have h4 : Bytes.u32? data (position + 4) = some (UInt32.ofNat (data.valueAt (position + 4) 4)) :=
    Bytes.u32?_eq_some_iff.2 ⟨(UInt32.toNat_ofNat_of_lt' hlength).symm, by omega⟩
  have hread : read? data position =
      some ⟨Fin.ofNat 16 (data.valueAt position 2), Fin.ofNat 4096 (data.valueAt position 2 / 16),
        UInt16.ofNat (data.valueAt (position + 2) 2),
        UInt32.ofNat (data.valueAt (position + 4) 4)⟩ := by
    rw [read?, h0, h2, h4]
    simp only [Option.bind_eq_bind, Option.bind_some, Option.pure_def,
      UInt16.toNat_ofNat_of_lt' hfirst]
  -- Three hexadecimal digits of the first field are left for the instance.
  have hinstance : data.valueAt position 2 / 16 < 4096 := by
    have hbound : UInt16.size = 16 * 4096 := rfl
    omega
  exact ⟨_, hread, rfl, Nat.mod_eq_of_lt hinstance, UInt16.toNat_ofNat_of_lt' htype,
    UInt32.toNat_ofNat_of_lt' hlength⟩

theorem read?_eq_some_iff {header : Header} :
    read? data position = some header ↔
      position + size ≤ data.length ∧ header.StandsAt data position := by
  constructor
  · intro h
    have hinside := le_length_of_read? h
    rcases exists_read? hinside with ⟨found, hfound, hstands⟩
    have hsame : found = header := Option.some.inj (hfound.symm.trans h)
    exact ⟨hinside, hsame ▸ hstands⟩
  · rintro ⟨hinside, hstands⟩
    rcases exists_read? hinside with ⟨found, hfound, hfoundStands⟩
    rw [hfound, hfoundStands.eq hstands]

/-- A header in front of the end of a part is that of the whole. -/
theorem read?_take (data : Bytes) {count : Nat} (h : position + size ≤ count) :
    read? (data.take count) position = read? data position := by
  have hsize : size = 8 := rfl
  simp only [read?, Bytes.u16?, Bytes.u32?]
  rw [Bytes.natAt?_take data (by omega), Bytes.natAt?_take data (by omega),
    Bytes.natAt?_take data (by omega)]

end Header

/-! ## Records at a place -/

/-- The record begins at `position` of `data`, which begins at `base` of its stream: its header
stands there, and its body is as many bytes behind the header as this declares. -/
structure Record.BeginsAt (record : Record) (data : Bytes) (base position : Nat) : Prop where
  offset_eq : record.offset = base + position
  header : record.header.StandsAt data position
  body : Bytes.slice? data (position + Header.size) record.header.length.toNat = some record.body

/-- At `position` there is a header that declares more bytes than are left up to `stop`, and the
fault tells so. -/
inductive OverrunsAt (data : Bytes) (base position stop : Nat) : Fault → Prop
  | intro {header : Header} (hheader : header.StandsAt data position)
      (hinside : position + Header.size ≤ stop)
      (hoverrun : stop < position + Header.size + header.length.toNat) :
      OverrunsAt data base position stop
        (.record (base + position)
          (.overrun header.recType header.length.toNat (stop - (position + Header.size))))

namespace Record

theorem BeginsAt.length_body {record : Record} (h : record.BeginsAt data base position) :
    record.body.length = record.header.length.toNat := by
  rcases Bytes.slice?_eq_some_iff.1 h.body with ⟨hinside, hbody⟩
  rw [hbody, Bytes.length_take_drop]
  omega

theorem BeginsAt.size_eq {record : Record} (h : record.BeginsAt data base position) :
    record.size = Header.size + record.header.length.toNat := by
  rw [size, h.length_body]

/-- The part of a stream that a walk is on. -/
def window (data : Bytes) (start stop : Nat) : Bytes :=
  (data.drop start).take (stop - start)

theorem length_window (hstop : stop ≤ data.length) :
    (window data start stop).length = stop - start := by
  rw [window, Bytes.length_take_drop]
  omega

theorem drop_window (data : Bytes) (start stop length : Nat) :
    (window data start stop).drop length = window data (start + length) stop := by
  rw [window, window, List.drop_take, List.drop_drop, Nat.sub_sub]

theorem read?_window (hinside : start + Header.size ≤ stop) :
    Header.read? (window data start stop) 0 = Header.read? data start := by
  rw [window, Header.read?_take _ (by omega), Header.read?_drop]

/-- What is read at the start of a part is the record that begins there and ends in the part. -/
theorem read_window_eq_ok_iff (hstop : stop ≤ data.length) {record : Record} :
    read (window data start stop) (base + start) = .ok record ↔
      record.BeginsAt data base start ∧ start + record.size ≤ stop := by
  have hlength : (window data start stop).length = stop - start := length_window hstop
  have hsize : Header.size = 8 := rfl
  rw [read_eq_ok_iff, drop_window, hlength]
  constructor
  · rintro ⟨hheader, hoffset, hbody, hwhole⟩
    rw [read?_window (by omega), Header.read?_eq_some_iff] at hheader
    have hbegins : record.BeginsAt data base start := by
      refine ⟨hoffset, hheader.2, Bytes.slice?_eq_some_iff.2 ⟨by omega, ?_⟩⟩
      rw [hbody, window, List.take_take, Nat.min_eq_left (by omega)]
    rw [hbegins.size_eq]
    exact ⟨hbegins, by omega⟩
  · rintro ⟨hbegins, hinside⟩
    rw [hbegins.size_eq] at hinside
    refine ⟨?_, hbegins.offset_eq, ?_, by omega⟩
    · rw [read?_window (by omega), Header.read?_eq_some_iff]
      exact ⟨by omega, hbegins.header⟩
    · rw [(Bytes.slice?_eq_some_iff.1 hbegins.body).2, window, List.take_take,
        Nat.min_eq_left (by omega)]

/-- Where there are enough bytes for a header, only a record that is cut off cannot be read. -/
theorem overrunsAt_of_read (hstop : stop ≤ data.length) (hinside : start + Header.size ≤ stop)
    {fault : Fault} (h : read (window data start stop) (base + start) = .error fault) :
    OverrunsAt data base start stop fault := by
  rcases Header.exists_read? (Nat.le_trans hinside hstop) with ⟨header, hheader, hstands⟩
  unfold read at h
  rw [read?_window hinside, hheader, drop_window] at h
  dsimp only at h
  rw [List.length_take, length_window hstop] at h
  split at h
  · rename_i hshort
    cases h
    exact .intro hstands hinside (by omega)
  · cases h

end Record

/-! ## Walks without a gap -/

/-- Where records end that follow one another from `start` on. -/
def endOf (start : Nat) : List Record → Nat
  | [] => start
  | record :: records => endOf (start + record.size) records

/-- The walk goes over the bytes of `data` from `start` up to `stop` without a gap. -/
structure IsTiling (data : Bytes) (base start stop : Nat) (walk : Walk Fault Record) : Prop where
  /-- Each record begins where those in front of it end. -/
  beginsAt : ∀ (i : Nat) (record : Record), walk.items[i]? = some record →
    record.BeginsAt data base (endOf start (walk.items.take i))
  end_le : endOf start walk.items ≤ stop
  /-- What stops the walk is a record behind all others that is cut off. -/
  overrunsAt : ∀ fault, walk.obstacle = some fault →
    OverrunsAt data base (endOf start walk.items) stop fault
  /-- If nothing stops it, no header is left. -/
  short : walk.obstacle = none → stop < endOf start walk.items + Header.size

namespace IsTiling

theorem done (hstart : start ≤ stop) (hshort : stop < start + Header.size) :
    IsTiling data base start stop .done where
  beginsAt := by
    intro i record hitem
    cases hitem
  end_le := hstart
  overrunsAt := by
    intro fault hobstacle
    cases hobstacle
  short _ := hshort

theorem stopped (hstart : start ≤ stop) {fault : Fault} (h : OverrunsAt data base start stop fault) :
    IsTiling data base start stop (.stopped fault) where
  beginsAt := by
    intro i record hitem
    cases hitem
  end_le := hstart
  overrunsAt := by
    intro found hobstacle
    cases hobstacle
    exact h
  short := by
    intro hobstacle
    cases hobstacle

/-- A walk that goes on behind a record begins with that record. -/
theorem cons {record : Record} {walk : Walk Fault Record} (hrecord : record.BeginsAt data base start)
    (hwalk : IsTiling data base (start + record.size) stop walk) :
    IsTiling data base start stop (.cons record walk) where
  beginsAt := by
    intro i found hitem
    cases i with
    | zero =>
        cases hitem
        exact hrecord
    | succ i => exact hwalk.beginsAt i found hitem
  end_le := hwalk.end_le
  overrunsAt := hwalk.overrunsAt
  short := hwalk.short

end IsTiling

/-- A walk over a part of a stream goes over it without a gap. -/
theorem isTiling_scan (hstart : start ≤ stop) (hstop : stop ≤ data.length) :
    IsTiling data base start stop (Record.scan (Record.window data start stop) (base + start)) := by
  -- Each record that is taken leaves fewer bytes in front of `stop`.
  induction hleft : stop - start using Nat.strongRecOn generalizing start with
  | ind left ih =>
      have hsize : Header.size = 8 := rfl
      have hlength : (Record.window data start stop).length = stop - start :=
        Record.length_window hstop
      rw [Record.scan, List.length_take, hlength]
      by_cases hshort : stop < start + Header.size
      · rw [if_pos (by omega)]
        exact .done hstart hshort
      · rw [if_neg (by omega)]
        cases hread : Record.read (Record.window data start stop) (base + start) with
        | error fault =>
            exact .stopped hstart (Record.overrunsAt_of_read hstop (by omega) hread)
        | ok record =>
            rcases (Record.read_window_eq_ok_iff hstop).1 hread with ⟨hbegins, hinside⟩
            have hless : stop - (start + record.size) < left := by
              have hpos : Header.size ≤ record.size := Nat.le_add_right _ _
              omega
            dsimp only
            rw [Record.drop_window, Nat.add_assoc]
            exact .cons hbegins (ih _ hless hinside rfl)

/-- As a record has at least a header, there are not many of them. -/
theorem le_endOf (start : Nat) (records : List Record) :
    start + Header.size * records.length ≤ endOf start records := by
  induction records generalizing start with
  | nil => exact Nat.le_refl start
  | cons record records ih =>
      have hrest := ih (start + record.size)
      have hpos : Header.size ≤ record.size := Nat.le_add_right _ _
      rw [List.length_cons, Nat.mul_succ, endOf]
      omega

theorem IsTiling.length_yielded_le {walk : Walk Fault Record}
    (h : IsTiling data base start stop walk) :
    walk.yielded.length ≤ (stop - start) / Header.size := by
  have hitems := le_endOf start walk.items
  rw [Nat.le_div_iff_mul_le (by decide), Walk.yielded, List.length_append, List.length_map,
    List.length_map, Nat.mul_comm]
  cases hobstacle : walk.obstacle with
  | none =>
      have hend := h.end_le
      rw [Option.toList_none, List.length_nil, Nat.add_zero]
      omega
  | some fault =>
      -- The record that is cut off has its header, too.
      have hheader : endOf start walk.items + Header.size ≤ stop := by
        cases h.overrunsAt fault hobstacle with
        | intro _ hinside _ => exact hinside
      rw [Option.toList_some, List.length_singleton, Nat.mul_add]
      omega

/-! ## Records in records -/

/-- The records that are reached in a stream: its own, and those in the body of one that is
reached. -/
inductive Reached (data : Bytes) (base : Nat) : Record → Prop
  | outermost {record : Record} (h : record ∈ (Record.scan data base).items) :
      Reached data base record
  | inner {outer record : Record} (houter : Reached data base outer)
      (h : record ∈ outer.children.items) : Reached data base record

theorem window_whole (data : Bytes) : Record.window data 0 data.length = data := by
  rw [Record.window, List.drop_zero, Nat.sub_zero, List.take_length]

theorem isTiling_scan_whole (data : Bytes) (base : Nat) :
    IsTiling data base 0 data.length (Record.scan data base) := by
  have hwhole : IsTiling data base 0 data.length
      (Record.scan (Record.window data 0 data.length) (base + 0)) :=
    isTiling_scan (Nat.zero_le data.length) (Nat.le_refl data.length)
  rwa [window_whole, Nat.add_zero] at hwhole

/-- A record of a walk without a gap begins somewhere. -/
theorem IsTiling.exists_beginsAt {walk : Walk Fault Record} {record : Record}
    (h : IsTiling data base start stop walk) (hmem : record ∈ walk.items) :
    ∃ position, record.BeginsAt data base position := by
  rcases List.mem_iff_getElem?.1 hmem with ⟨i, hitem⟩
  exact ⟨_, h.beginsAt i record hitem⟩

/-- The body of a record is a part of the stream of the record. -/
theorem Record.BeginsAt.isTiling_children {record : Record}
    (h : record.BeginsAt data base position) :
    IsTiling data base (position + Header.size)
      (position + Header.size + record.header.length.toNat) record.children := by
  rcases Bytes.slice?_eq_some_iff.1 h.body with ⟨hinside, hbody⟩
  have hwindow : record.body = window data (position + Header.size)
      (position + Header.size + record.header.length.toNat) := by
    rw [hbody, window, Nat.add_sub_cancel_left]
  have hoffset : record.bodyOffset = base + (position + Header.size) := by
    rw [bodyOffset, h.offset_eq, Nat.add_assoc]
  rw [children, hwindow, hoffset]
  exact isTiling_scan (Nat.le_add_right _ _) hinside

theorem Reached.exists_beginsAt {record : Record} (h : Reached data base record) :
    ∃ position, record.BeginsAt data base position := by
  induction h with
  | outermost h => exact (isTiling_scan_whole data base).exists_beginsAt h
  | inner _ h ih =>
      rcases ih with ⟨position, houter⟩
      exact houter.isTiling_children.exists_beginsAt h

/-! ## Item by item -/

/-- A reader of records: the stream, where it begins, and the place that comes next. -/
structure Cursor where
  data : Bytes
  position : Nat
  base : Nat

namespace Cursor

/-- The next item and the reader behind it.  Behind a record that cannot be read nothing is left. -/
def next (cursor : Cursor) : Option (Except Fault Record × Cursor) :=
  if cursor.data.length - cursor.position < Header.size then
    none
  else
    match Record.readAt cursor.data cursor.position cursor.base with
    | .ok record => some (.ok record, { cursor with position := cursor.position + record.size })
    | .error fault => some (.error fault, { cursor with position := cursor.data.length })

/-- The reader yields these items, and nothing behind them. -/
inductive Yields : Cursor → List (Except Fault Record) → Prop
  | done {cursor : Cursor} (h : cursor.next = none) : Yields cursor []
  | item {cursor later : Cursor} {item : Except Fault Record} {items : List (Except Fault Record)}
      (h : cursor.next = some (item, later)) (hlater : Yields later items) :
      Yields cursor (item :: items)

theorem yields_iff_of_next_eq_none {cursor : Cursor} (h : cursor.next = none)
    {items : List (Except Fault Record)} : cursor.Yields items ↔ items = [] := by
  constructor
  · intro hyields
    cases hyields with
    | done _ => rfl
    | item hnext _ => cases h.symm.trans hnext
  · rintro rfl
    exact .done h

theorem yields_iff_of_next_eq_some {cursor later : Cursor} {item : Except Fault Record}
    (h : cursor.next = some (item, later)) {items : List (Except Fault Record)} :
    cursor.Yields items ↔ ∃ rest, later.Yields rest ∧ items = item :: rest := by
  constructor
  · intro hyields
    cases hyields with
    | done hnext => cases h.symm.trans hnext
    | item hnext hlater =>
        cases h.symm.trans hnext
        exact ⟨_, hlater, rfl⟩
  · rintro ⟨rest, hlater, rfl⟩
    exact .item h hlater

/-- A reader yields what the walk over the rest of its stream finds. -/
theorem yields_iff (data : Bytes) (base : Nat) {position : Nat} (hposition : position ≤ data.length)
    {items : List (Except Fault Record)} :
    Yields ⟨data, position, base⟩ items ↔
      items = (Record.scan (data.drop position) (base + position)).yielded := by
  induction hleft : data.length - position using Nat.strongRecOn generalizing position items with
  | ind left ih =>
      have hsize : Header.size = 8 := rfl
      rw [Record.scan, List.length_take, List.length_drop]
      by_cases hshort : data.length - position < Header.size
      · have hnext : next ⟨data, position, base⟩ = none := if_pos hshort
        rw [if_pos (by omega), yields_iff_of_next_eq_none hnext]
        rfl
      · rw [if_neg (by omega)]
        cases hread : Record.read (data.drop position) (base + position) with
        | error fault =>
            have hnext : next ⟨data, position, base⟩ =
                some (.error fault, ⟨data, data.length, base⟩) := by
              rw [next, if_neg hshort, Record.readAt, hread]
            have hend : next ⟨data, data.length, base⟩ = none := if_pos (by simp [hsize])
            rw [yields_iff_of_next_eq_some hnext]
            simp only [yields_iff_of_next_eq_none hend, exists_eq_left]
            rfl
        | ok record =>
            have hnext : next ⟨data, position, base⟩ =
                some (.ok record, ⟨data, position + record.size, base⟩) := by
              rw [next, if_neg hshort, Record.readAt, hread]
            have hinside := (Record.size_of_read hread).2
            rw [List.length_drop] at hinside
            have hpos : Header.size ≤ record.size := Nat.le_add_right _ _
            have hless : data.length - (position + record.size) < left := by omega
            have hrest : ∀ rest, Yields ⟨data, position + record.size, base⟩ rest ↔ rest =
                (Record.scan (data.drop (position + record.size))
                  (base + (position + record.size))).yielded :=
              fun rest => ih _ hless (by omega) rfl
            rw [yields_iff_of_next_eq_some hnext]
            simp only [hrest, exists_eq_left]
            rw [List.drop_drop, Nat.add_assoc]
            rfl

end Cursor

/-! ## What a writer laid out -/

/-- Complete records in a stream, the first at `offset`, each behind the one in front of it. -/
def placedRecords : (offset : Nat) → List CompleteRecord → List Record
  | _, [] => []
  | offset, record :: records =>
      record.placed offset :: placedRecords (offset + record.bytes.length) records

/-- Complete records are found where they were laid out, and too few bytes for a header behind them
change nothing. -/
theorem Record.scan_recordBytes_append (records : List CompleteRecord) {padding : Bytes}
    (hpadding : padding.length < Header.size) (offset : Nat) :
    scan (recordBytes records ++ padding) offset = ⟨placedRecords offset records, none⟩ := by
  induction records generalizing offset with
  | nil => exact scan_of_short hpadding offset
  | cons record records ih =>
      have hbytes : recordBytes (record :: records) ++ padding =
          record.bytes ++ (recordBytes records ++ padding) := by
        simp [recordBytes]
      rw [hbytes, scan_bytes_append, ih]
      rfl

/-- The records of a stream lie side by side from its start on, each with the fields and the body
that stand at its place; what stops the walk over them is a record behind them that declares more
bytes than are left, and if nothing stops it no header is left.  A reader that keeps a position
yields them and then the fault, and there are no more items than headers fit into the stream.  The
same holds, in the same stream, of the records in the body of any record that is reached.
Conversely, complete records that were laid out one behind the other, with too few bytes for a
header at the end, are what is found. -/
theorem records_tile (data : Bytes) (base : Nat) :
    IsTiling data base 0 data.length (Record.scan data base) ∧
      (Record.scan data base).yielded.length ≤ data.length / 8 ∧
      (∀ items, Cursor.Yields ⟨data, 0, base⟩ items ↔ items = (Record.scan data base).yielded) ∧
      (∀ record, Reached data base record → ∃ position,
        record.BeginsAt data base position ∧
          IsTiling data base (position + 8) (position + 8 + record.header.length.toNat)
            record.children ∧
          record.children.yielded.length ≤ record.header.length.toNat / 8) ∧
      ∀ (records : List CompleteRecord) (padding : Bytes), padding.length < 8 →
        Record.scan (recordBytes records ++ padding) base = ⟨placedRecords base records, none⟩ := by
  have hwhole := isTiling_scan_whole data base
  refine ⟨hwhole, hwhole.length_yielded_le, ?_, ?_, ?_⟩
  · intro items
    have hyields : Cursor.Yields ⟨data, 0, base⟩ items ↔
        items = (Record.scan (data.drop 0) (base + 0)).yielded :=
      Cursor.yields_iff data base (Nat.zero_le data.length)
    rwa [List.drop_zero, Nat.add_zero] at hyields
  · intro record hreached
    rcases hreached.exists_beginsAt with ⟨position, hbegins⟩
    have hchildren := hbegins.isTiling_children
    have hlength := hchildren.length_yielded_le
    rw [Nat.add_sub_cancel_left] at hlength
    exact ⟨position, hbegins, hchildren, hlength⟩
  · intro records padding hpadding
    exact Record.scan_recordBytes_append records hpadding base

/-! ## A record in a record -/

def innerPicture : CompleteRecord :=
  ⟨⟨0, Nat.zero_lt_succ 15⟩, ⟨0x46A, by decide⟩, 0xF01D, [0x50], by decide⟩

/-- A store that holds a picture and, behind it, a record whose body is cut off. -/
def tornStore : CompleteRecord :=
  ⟨.last 15, ⟨3, by decide⟩, 0xF001,
    innerPicture.bytes ++ [0x00, 0x00, 0x1D, 0xF0, 0x09, 0x00, 0x00, 0x00, 0x4A], by decide +kernel⟩

/-- The store comes back whole.  In its body the picture begins where the header of the store ends,
and the walk stops behind the picture, with offsets that count from the start of the stream. -/
theorem records_tile_torn :
    Record.scan (recordBytes [tornStore] ++ [1, 2, 3]) 100 = ⟨[tornStore.placed 100], none⟩ ∧
      Reached (recordBytes [tornStore] ++ [1, 2, 3]) 100 (innerPicture.placed 108) ∧
      (∃ position, (innerPicture.placed 108).BeginsAt (recordBytes [tornStore] ++ [1, 2, 3]) 100
        position) ∧
      (tornStore.placed 100).children =
        ⟨[innerPicture.placed 108], some (.record 117 (.overrun 0xF01D 9 1))⟩ := by
  have hstore := (records_tile [] 100).2.2.2.2 [tornStore] [1, 2, 3] (by decide)
  have hchildren : (tornStore.placed 100).children =
      ⟨[innerPicture.placed 108], some (.record 117 (.overrun 0xF01D 9 1))⟩ := by
    decide +kernel
  have houter : Reached (recordBytes [tornStore] ++ [1, 2, 3]) 100 (tornStore.placed 100) := by
    refine .outermost ?_
    rw [hstore]
    exact List.mem_singleton_self _
  have hinner : Reached (recordBytes [tornStore] ++ [1, 2, 3]) 100 (innerPicture.placed 108) := by
    refine .inner houter ?_
    rw [hchildren]
    exact List.mem_singleton_self _
  rcases (records_tile (recordBytes [tornStore] ++ [1, 2, 3]) 100).2.2.2.1 _ hinner with
    ⟨position, hbegins, -⟩
  exact ⟨hstore, hinner, ⟨position, hbegins⟩, hchildren⟩

end Art
end OfficePictures
