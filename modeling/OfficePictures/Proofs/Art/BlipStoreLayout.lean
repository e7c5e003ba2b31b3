import OfficePictures.Art.BlipStore
import OfficePictures.Proofs.Art.RecordLayout

/-!
# BlipStoreLayout — drawing groups as a writer lays them out

The writer's side of blip stores.  Groups hold stores and stores hold entries, so the same shape
comes three times: a level is a sequence of records of one type that matter there, among complete
records of any other type, with fewer bytes at its end than a header has.  A level is itself
something that a record can hold, and so levels nest.

An entry is one of three: its picture follows its name; or its picture lies in the delay stream; or
it has no picture.  Each carries what makes it so.

The main statement is `blipStorePictures_bytes`: from what was laid out, the reader decodes the
pictures of the entries in the order in which they stand, each where it lies, and nothing else.
-/

namespace OfficePictures
namespace Art

/-! ## Levels -/

/-- What a record can hold. -/
class Holdable (α : Type) where
  bytes : α → Bytes

/-- A record of a level's own type: what it holds, and what is free in its header. -/
structure Holder (α : Type) [Holdable α] where
  version : Fin 16
  instanceId : Fin 4096
  content : α
  /-- The length fits the field that declares it. -/
  content_lt : (Holdable.bytes content).length < UInt32.size

/-- A record of a level: one of the type that matters there, or a complete one of another type. -/
inductive Part (recType : UInt16) (α : Type) [Holdable α]
  | item (holder : Holder α)
  | other (record : CompleteRecord) (recType_ne : record.recType ≠ recType)

/-- A sequence of records, and fewer bytes behind them than a header has. -/
structure Level (recType : UInt16) (α : Type) [Holdable α] where
  parts : List (Part recType α)
  padding : Bytes
  padding_lt : padding.length < Header.size

section Level

variable {recType : UInt16} {α : Type} [Holdable α]

def Holder.record (recType : UInt16) (holder : Holder α) : CompleteRecord :=
  ⟨holder.version, holder.instanceId, recType, Holdable.bytes holder.content, holder.content_lt⟩

def Part.record : Part recType α → CompleteRecord
  | item holder => holder.record recType
  | other record _ => record

def Level.bytes (level : Level recType α) : Bytes :=
  level.parts.flatMap (fun part => part.record.bytes) ++ level.padding

instance : Holdable (Level recType α) where
  bytes := Level.bytes

/-- The picture records of a part that begins at `offset`, if content that begins at some offset has
the picture records `pictures`. -/
def Part.pictures (pictures : α → Nat → List Record) : Part recType α → Nat → List Record
  | item holder, offset => pictures holder.content (offset + Header.size)
  | other _ _, _ => []

def partsPictures (pictures : α → Nat → List Record) :
    List (Part recType α) → Nat → List Record
  | [], _ => []
  | part :: parts, offset =>
      part.pictures pictures offset ++
        partsPictures pictures parts (offset + part.record.bytes.length)

/-- The picture records of a level that begins at `offset`. -/
def Level.pictures (pictures : α → Nat → List Record) (level : Level recType α) (offset : Nat) :
    List Record :=
  partsPictures pictures level.parts offset

/-- What is gathered from a level is what its items yield, in their order: records of other types
and padding yield nothing. -/
theorem Level.gather_scan {limits : Limits} {f : Record → Except Fault (List Blip)}
    {pictures : α → Nat → List Record}
    (hf : ∀ (holder : Holder α) (offset : Nat), f ((holder.record recType).placed offset) =
      (pictures holder.content (offset + Header.size)).mapM (Blip.decode limits))
    (level : Level recType α) (offset : Nat) :
    (Record.scan level.bytes offset).gather (ofType recType f) =
      (level.pictures pictures offset).mapM (Blip.decode limits) := by
  rcases level with ⟨parts, padding, hpadding⟩
  simp only [Level.bytes, Level.pictures]
  -- The induction is on the parts; the offset moves on by the length of each.
  induction parts generalizing offset with
  | nil =>
      simp only [List.flatMap_nil, List.nil_append, Record.scan_of_short hpadding,
        Walk.gather_done, partsPictures, List.mapM_nil]
      rfl
  | cons part parts ih =>
      rw [List.flatMap_cons, List.append_assoc, Record.scan_bytes_append, Walk.gather_cons, ih,
        partsPictures, List.mapM_append]
      -- What is left is the first part: a record of another type yields nothing.
      have hyield : ofType recType f (part.record.placed offset) =
          (part.pictures pictures offset).mapM (Blip.decode limits) := by
        cases part with
        | item holder =>
            rw [Part.pictures, ← hf holder offset]
            exact if_pos rfl
        | other record hne =>
            exact if_neg hne
      rw [hyield]

end Level

/-! ## Entries -/

/-- What an entry begins with: its 36 fixed bytes and its name. -/
structure EntryHead where
  /-- The types and the identifier of the picture, which the reader passes over. -/
  lead : Bytes
  lead_length : lead.length = 20
  size : UInt32
  references : UInt32
  delayOffset : UInt32
  usage : UInt8
  reserved : UInt8 × UInt8
  name : Bytes
  /-- The length fits the byte that declares it. -/
  name_lt : name.length < 256

namespace EntryHead

def tail (head : EntryHead) : Bytes :=
  head.usage :: UInt8.ofNat head.name.length :: head.reserved.1 :: head.reserved.2 :: head.name

def bytes (head : EntryHead) : Bytes :=
  head.lead ++ (Bytes.ofU32 head.size ++ (Bytes.ofU32 head.references ++
    (Bytes.ofU32 head.delayOffset ++ head.tail)))

/-- The entry says that its picture is stored somewhere. -/
def IsUsed (head : EntryHead) : Prop :=
  head.size ≠ 0 ∧ head.references ≠ 0 ∧ head.delayOffset ≠ StoreEntry.noDelay

/-- What the reader takes from the head, with the picture record that it finds behind. -/
def entry (head : EntryHead) (embedded : Option Record) : StoreEntry :=
  ⟨head.size, head.references, head.delayOffset, embedded⟩

@[simp] theorem length_bytes (head : EntryHead) :
    head.bytes.length = StoreEntry.fixedLength + head.name.length := by
  simp only [bytes, tail, StoreEntry.fixedLength, List.length_append, head.lead_length,
    Bytes.length_ofU32, List.length_cons]
  omega

theorem u32?_size (head : EntryHead) (rest : Bytes) :
    Bytes.u32? (head.bytes ++ rest) 20 = some head.size := by
  rw [← head.lead_length]
  simpa only [bytes, List.append_assoc] using Bytes.u32?_behind head.lead head.size _

theorem u32?_references (head : EntryHead) (rest : Bytes) :
    Bytes.u32? (head.bytes ++ rest) 24 = some head.references := by
  have h := Bytes.u32?_behind (head.lead ++ Bytes.ofU32 head.size) head.references
    (Bytes.ofU32 head.delayOffset ++ (head.tail ++ rest))
  simpa [bytes, head.lead_length] using h

theorem u32?_delayOffset (head : EntryHead) (rest : Bytes) :
    Bytes.u32? (head.bytes ++ rest) 28 = some head.delayOffset := by
  have h := Bytes.u32?_behind (head.lead ++ Bytes.ofU32 head.size ++ Bytes.ofU32 head.references)
    head.delayOffset (head.tail ++ rest)
  simpa [bytes, head.lead_length] using h

theorem nameLength_eq (head : EntryHead) (rest : Bytes) :
    ((head.bytes ++ rest)[33]?.getD 0).toNat = head.name.length := by
  have hfront : (head.lead ++ (Bytes.ofU32 head.size ++ (Bytes.ofU32 head.references ++
      (Bytes.ofU32 head.delayOffset ++ [head.usage])))).length = 33 := by
    simp [head.lead_length]
  have hbytes : head.bytes ++ rest =
      (head.lead ++ (Bytes.ofU32 head.size ++ (Bytes.ofU32 head.references ++
        (Bytes.ofU32 head.delayOffset ++ [head.usage])))) ++
        UInt8.ofNat head.name.length :: (head.reserved.1 :: head.reserved.2 :: head.name ++ rest) := by
    simp [bytes, tail]
  rw [hbytes, ← hfront, List.getElem?_append_right (Nat.le_refl _), Nat.sub_self,
    List.getElem?_cons_zero, Option.getD_some, UInt8.toNat_ofNat', Nat.mod_eq_of_lt head.name_lt]

end EntryHead

/-- What can stand behind the name of an entry that holds no picture itself: too few bytes for a
record, or a complete record that is no picture. -/
inductive Remainder
  | short (bytes : Bytes) (bytes_lt : bytes.length < Header.size)
  | other (record : CompleteRecord) (not_blip : record.header.isBlip = false) (rest : Bytes)

def Remainder.bytes : Remainder → Bytes
  | short bytes _ => bytes
  | other record _ rest => record.bytes ++ rest

/-- An entry of a store, in a document with the given delay stream. -/
inductive Entry (delay : Option DelayStream)
  | embedded (head : EntryHead) (picture : CompleteRecord)
      (is_blip : picture.header.isBlip = true) (rest : Bytes)
  | delayed (head : EntryHead) (remainder : Remainder) (stream : DelayStream)
      (picture : CompleteRecord) (delay_eq : delay = some stream) (is_used : head.IsUsed)
      (is_blip : picture.header.isBlip = true)
      (liesAt : picture.LiesAt stream.data head.delayOffset.toNat)
  | absent (head : EntryHead) (remainder : Remainder) (not_stored : delay = none ∨ ¬ head.IsUsed)

namespace Entry

variable {delay : Option DelayStream}

def bytes : Entry delay → Bytes
  | embedded head picture _ rest => head.bytes ++ (picture.bytes ++ rest)
  | delayed head remainder .. => head.bytes ++ remainder.bytes
  | absent head remainder _ => head.bytes ++ remainder.bytes

instance : Holdable (Entry delay) where
  bytes := bytes

/-- The picture record of an entry that begins at `offset`. -/
def picture? : Entry delay → Nat → Option Record
  | embedded head picture _ _, offset => some (picture.placed (offset + head.bytes.length))
  | delayed head _ stream picture .., _ =>
      some (picture.placed (stream.base + head.delayOffset.toNat))
  | absent .., _ => none

end Entry

namespace StoreEntry

theorem embedded?_append (head : EntryHead) (rest : Bytes) (offset : Nat) :
    embedded? (head.bytes ++ rest) offset =
      if rest.length < Header.size then .ok none
      else
        match Record.read rest (offset + head.bytes.length) with
        | .error fault => .error fault
        | .ok record => .ok (if record.header.isBlip then some record else none) := by
  have hstart : fixedLength + ((head.bytes ++ rest)[33]?.getD 0).toNat = head.bytes.length := by
    rw [EntryHead.nameLength_eq, EntryHead.length_bytes]
  have hfits : (head.bytes ++ rest).length < head.bytes.length + Header.size ↔
      rest.length < Header.size := by
    rw [List.length_append, Nat.add_lt_add_iff_left]
  have hread : Record.readAt (head.bytes ++ rest) head.bytes.length offset =
      Record.read rest (offset + head.bytes.length) := by
    rw [Record.readAt, List.drop_left]
  unfold embedded?
  rw [hstart]
  -- The reader counts from the beginning of the entry, the statement from the end of the name.
  refine ite_congr (propext hfits) (fun _ => rfl) fun _ => ?_
  cases hresult : Record.read rest (offset + head.bytes.length) with
  | error fault => simp only [hread, hresult]
  | ok record => simp only [hread, hresult]

theorem embedded?_picture (head : EntryHead) (picture : CompleteRecord) (rest : Bytes)
    (offset : Nat) (hblip : picture.header.isBlip = true) :
    embedded? (head.bytes ++ (picture.bytes ++ rest)) offset =
      .ok (some (picture.placed (offset + head.bytes.length))) := by
  have hlong : ¬ (picture.bytes ++ rest).length < Header.size := by
    simp only [List.length_append, CompleteRecord.length_bytes]
    omega
  rw [embedded?_append, if_neg hlong, CompleteRecord.read_bytes_append]
  exact congrArg Except.ok (if_pos hblip)

theorem embedded?_remainder (head : EntryHead) (remainder : Remainder) (offset : Nat) :
    embedded? (head.bytes ++ remainder.bytes) offset = .ok none := by
  rw [embedded?_append]
  cases remainder with
  | short bytes hlt => exact if_pos hlt
  | other record hother rest =>
      have hlong : ¬ (record.bytes ++ rest).length < Header.size := by
        simp only [List.length_append, CompleteRecord.length_bytes]
        omega
      rw [Remainder.bytes, if_neg hlong, CompleteRecord.read_bytes_append]
      simp [CompleteRecord.placed, hother]

theorem ofRecord_append (head : EntryHead) (rest : Bytes) (record : Record)
    (hbody : record.body = head.bytes ++ rest) {embedded : Option Record}
    (hembedded : embedded? (head.bytes ++ rest) record.bodyOffset = .ok embedded) :
    ofRecord record = .ok (head.entry embedded) := by
  have hlong : ¬ (head.bytes ++ rest).length < fixedLength := by
    rw [List.length_append, EntryHead.length_bytes]
    omega
  simp only [ofRecord, hbody, if_neg hlong, hembedded, EntryHead.u32?_size,
    EntryHead.u32?_references, EntryHead.u32?_delayOffset, Option.getD_some, EntryHead.entry]

theorem resolve_delayed {head : EntryHead} {delay : Option DelayStream} {stream : DelayStream}
    {picture : CompleteRecord} (hdelay : delay = some stream) (hused : head.IsUsed)
    (hlies : picture.LiesAt stream.data head.delayOffset.toNat)
    (hblip : picture.header.isBlip = true) :
    (head.entry none).resolve delay =
      .ok (some (picture.placed (stream.base + head.delayOffset.toNat))) := by
  rcases hused with ⟨hsize, hreferences, hoffset⟩
  have hposition := Nat.not_le.2 hlies.position_lt
  have hread := hlies.readAt stream.base
  simp [hdelay, resolve, EntryHead.entry, hsize, hreferences, hoffset, hposition, hread,
    CompleteRecord.placed, hblip]

/-- An entry that is not in use, or has no delay stream, and that holds no picture has none. -/
theorem resolve_absent {head : EntryHead} {delay : Option DelayStream}
    (hnone : delay = none ∨ ¬ head.IsUsed) : (head.entry none).resolve delay = .ok none := by
  cases delay with
  | none => rfl
  | some stream =>
      rcases hnone with hdelay | hunused
      · cases hdelay
      · have hfree : head.size = 0 ∨ head.references = 0 ∨ head.delayOffset = noDelay := by
          simpa [EntryHead.IsUsed, Classical.or_iff_not_imp_left] using hunused
        simp [resolve, EntryHead.entry, hfree]

end StoreEntry

namespace Entry

variable {delay : Option DelayStream}

/-- What a record with the bytes of an entry is resolved to is the picture of the entry. -/
theorem resolve_ofRecord (entry : Entry delay) (record : Record) (hbody : record.body = entry.bytes) :
    ∃ found, StoreEntry.ofRecord record = .ok found ∧
      found.resolve delay = .ok (entry.picture? record.bodyOffset) := by
  cases entry with
  | embedded head picture hblip rest =>
      have hfound := StoreEntry.ofRecord_append head (picture.bytes ++ rest) record hbody
        (StoreEntry.embedded?_picture head picture rest _ hblip)
      exact ⟨_, hfound, rfl⟩
  | delayed head remainder stream picture hdelay hused hblip hlies =>
      -- No picture stands behind the name, so the delay stream decides.
      have hfound := StoreEntry.ofRecord_append head remainder.bytes record hbody
        (StoreEntry.embedded?_remainder head remainder _)
      exact ⟨_, hfound, StoreEntry.resolve_delayed hdelay hused hlies hblip⟩
  | absent head remainder hnone =>
      have hfound := StoreEntry.ofRecord_append head remainder.bytes record hbody
        (StoreEntry.embedded?_remainder head remainder _)
      exact ⟨_, hfound, StoreEntry.resolve_absent hnone⟩

end Entry

/-! ## Reading back -/

abbrev Store (delay : Option DelayStream) := Level storeEntryType (Entry delay)

/-- A drawing group: what stands in it are stores. -/
abbrev DrawingGroup (delay : Option DelayStream) := Level blipStoreType (Store delay)

abbrev DrawingStream (delay : Option DelayStream) := Level drawingGroupType (DrawingGroup delay)

section Reading

variable {delay : Option DelayStream}

def Store.pictures (store : Store delay) (offset : Nat) : List Record :=
  Level.pictures (fun entry start => (entry.picture? start).toList) store offset

def DrawingGroup.pictures (group : DrawingGroup delay) (offset : Nat) : List Record :=
  Level.pictures Store.pictures group offset

/-- The picture records of a stream that begins at `offset`, in the order of their entries. -/
def DrawingStream.pictures (stream : DrawingStream delay) (offset : Nat) : List Record :=
  Level.pictures DrawingGroup.pictures stream offset

/-- What an entry yields is its picture, decoded. -/
theorem entryPictures_placed (limits : Limits) (holder : Holder (Entry delay)) (offset : Nat) :
    entryPictures limits delay ((holder.record storeEntryType).placed offset) =
      (holder.content.picture? (offset + Header.size)).toList.mapM (Blip.decode limits) := by
  rcases holder.content.resolve_ofRecord ((holder.record storeEntryType).placed offset) rfl with
    ⟨found, hfound, hresolve⟩
  have hoffset : ((holder.record storeEntryType).placed offset).bodyOffset = offset + Header.size :=
    rfl
  rw [hoffset] at hresolve
  simp only [entryPictures, hfound, hresolve]
  -- Decoding at most one picture is what `mapM` does on a list of at most one.
  cases holder.content.picture? (offset + Header.size) with
  | none => rfl
  | some picture =>
      cases hdecode : Blip.decode limits picture with
      | error fault => simp [hdecode, bind, Except.bind]
      | ok blip => simp [hdecode, bind, Except.bind, pure, Except.pure]

theorem storePictures_placed (limits : Limits) (holder : Holder (Store delay)) (offset : Nat) :
    storePictures limits delay ((holder.record blipStoreType).placed offset) =
      (holder.content.pictures (offset + Header.size)).mapM (Blip.decode limits) :=
  Level.gather_scan (entryPictures_placed limits) holder.content _

theorem groupPictures_placed (limits : Limits) (holder : Holder (DrawingGroup delay))
    (offset : Nat) :
    groupPictures limits delay ((holder.record drawingGroupType).placed offset) =
      (holder.content.pictures (offset + Header.size)).mapM (Blip.decode limits) :=
  Level.gather_scan (storePictures_placed limits) holder.content _

/-- From drawing groups that were laid out, the reader decodes the pictures of their entries in the
order of the entries: all of them, or up to the first that cannot be decoded, whose fault it
gives. -/
theorem blipStorePictures_bytes (stream : DrawingStream delay) (base : Nat) (limits : Limits) :
    blipStorePictures stream.bytes base delay limits =
      (stream.pictures base).mapM (Blip.decode limits) :=
  Level.gather_scan (groupPictures_placed limits) stream base

end Reading

end Art
end OfficePictures
