import OfficePictures.Art.Blip

/-!
# BlipStore — the pictures of a drawing group

A drawing group is a container of containers: groups hold stores, and stores hold entries.  An entry
describes one picture, whose record follows in the entry itself or lies, delayed, in another stream.
Records of other types are passed over at each level.
-/

namespace OfficePictures
namespace Art

/-- An entry of a blip store. -/
structure StoreEntry where
  size : UInt32
  references : UInt32
  delayOffset : UInt32
  embedded : Option Record
  deriving DecidableEq, Repr

/-- The stream of delayed pictures, which begins at `base` of its own numbering. -/
structure DelayStream where
  data : Bytes
  base : Nat
  deriving DecidableEq, Repr

def drawingGroupType : UInt16 := 0xF000

def blipStoreType : UInt16 := 0xF001

def storeEntryType : UInt16 := 0xF007

namespace StoreEntry

/-- The number of bytes in front of the name of an entry. -/
def fixedLength : Nat := 36

/-- The offset that says that there is no delayed picture. -/
def noDelay : UInt32 := 0xFFFFFFFF

/-- The picture record behind the name of an entry; bytes too few for a header, and a complete
record of another type, count as none. -/
def embedded? (body : Bytes) (bodyOffset : Nat) : Except Fault (Option Record) :=
  let start := fixedLength + (body[33]?.getD 0).toNat
  if body.length < start + Header.size then
    .ok none
  else
    match Record.readAt body start bodyOffset with
    | .error fault => .error fault
    | .ok record => .ok (if record.header.isBlip then some record else none)

def ofRecord (record : Record) : Except Fault StoreEntry :=
  let body := record.body
  if body.length < fixedLength then
    .error (.record record.offset .storeEntryTruncated)
  else
    match embedded? body record.bodyOffset with
    | .error fault => .error fault
    | .ok embedded =>
        .ok
          { size := (Bytes.u32? body 20).getD 0
            references := (Bytes.u32? body 24).getD 0
            delayOffset := (Bytes.u32? body 28).getD noDelay
            embedded }

/-- The picture record of an entry: the embedded one or, for an entry in use, the one in the delay
stream. -/
def resolve (entry : StoreEntry) (delay : Option DelayStream) : Except Fault (Option Record) :=
  match entry.embedded, delay with
  | some record, _ => .ok (some record)
  | none, none => .ok none
  | none, some delay =>
      if entry.size = 0 ∨ entry.references = 0 ∨ entry.delayOffset = noDelay then
        .ok none
      else
        let position := entry.delayOffset.toNat
        if delay.data.length ≤ position then
          .error (.record (delay.base + position) .delayedOutside)
        else
          match Record.readAt delay.data position delay.base with
          | .error fault => .error fault
          | .ok record => .ok (if record.header.isBlip then some record else none)

end StoreEntry

/-! ## Pictures -/

/-- The picture of the entry that a record holds; at most one. -/
def entryPictures (limits : Limits) (delay : Option DelayStream) (record : Record) :
    Except Fault (List Blip) :=
  match StoreEntry.ofRecord record with
  | .error fault => .error fault
  | .ok entry =>
      match entry.resolve delay with
      | .error fault => .error fault
      | .ok none => .ok []
      | .ok (some picture) =>
          match Blip.decode limits picture with
          | .error fault => .error fault
          | .ok blip => .ok [blip]

/-- What a record of the given type yields, and nothing for other types. -/
def ofType (recType : UInt16) (f : Record → Except Fault (List Blip)) (record : Record) :
    Except Fault (List Blip) :=
  if record.header.recType = recType then f record else .ok []

def storePictures (limits : Limits) (delay : Option DelayStream) (store : Record) :
    Except Fault (List Blip) :=
  store.children.gather (ofType storeEntryType (entryPictures limits delay))

def groupPictures (limits : Limits) (delay : Option DelayStream) (group : Record) :
    Except Fault (List Blip) :=
  group.children.gather (ofType blipStoreType (storePictures limits delay))

/-- The pictures of the drawing groups in `data`, which begins at `base` of its stream. -/
def blipStorePictures (data : Bytes) (base : Nat) (delay : Option DelayStream) (limits : Limits) :
    Except Fault (List Blip) :=
  (Record.scan data base).gather (ofType drawingGroupType (groupPictures limits delay))

end Art
end OfficePictures
