import OfficePictures.Proofs.Machine.Blip

/-!
# BlipStore — drawing groups read in machine words

An entry of a store holds the length of its name and, behind the name, a record, or it tells the
offset of a record in another stream.  The pictures of a drawing group are collected by three walks
inside one another.

* `storeEntry_eq`, `resolve_eq` — an entry and its picture are found without a trap;
* `blipStorePictures_eq` — and so are the pictures of a drawing group.
-/

namespace OfficePictures
namespace Machine

open Art

/-! ## Entries -/

/-- The picture record behind the name of an entry. -/
def embedded? (record : Record) : Attempt (Option Record) := do
  let nameLength ← (entry record.body 33 : Guarded UInt8)
  let start ← add StoreEntry.fixedLength nameLength.toNat
  let headerEnd ← add start Header.size
  if record.body.length < headerEnd then
    return none
  else
    let picture ← recordAt record.body start (← bodyOffset record)
    return if picture.header.isBlip then some picture else none

def storeEntry (record : Record) : Attempt StoreEntry := do
  if record.body.length < StoreEntry.fixedLength then
    throw (.record record.offset .storeEntryTruncated)
  else
    let embedded ← embedded? record
    let size ← u32? record.body 20
    let references ← u32? record.body 24
    let delayOffset ← u32? record.body 28
    return {
      size := size.getD 0
      references := references.getD 0
      delayOffset := delayOffset.getD StoreEntry.noDelay
      embedded }

/-- The picture record of an entry, embedded or in the stream of delayed pictures. -/
def resolve (found : StoreEntry) (delay : Option DelayStream) : Attempt (Option Record) :=
  match found.embedded, delay with
  | some record, _ => return some record
  | none, none => return none
  | none, some delay =>
      if found.size = 0 ∨ found.references = 0 ∨ found.delayOffset = StoreEntry.noDelay then
        return none
      else do
        let position := found.delayOffset.toNat
        if delay.data.length ≤ position then
          let absolute ← add delay.base position
          throw (.record absolute .delayedOutside)
        else
          let record ← recordAt delay.data position delay.base
          return if record.header.isBlip then some record else none

section Entries

variable {record : Record} {found : StoreEntry} {data : Bytes} {base : Nat}

theorem embedded?_eq (hroom : HasRoom record.body record.bodyOffset)
    (hlength : StoreEntry.fixedLength ≤ record.body.length) :
    embedded? record = .of (StoreEntry.embedded? record.body record.bodyOffset) := by
  have hfixed : StoreEntry.fixedLength = 36 := rfl
  have hsize : Header.size = 8 := rfl
  have hbody : record.bodyOffset = record.offset + 8 := rfl
  have hbound : record.bodyOffset + record.body.length < 2 ^ 63 := hroom
  -- The byte for the length of the name is one of the fixed ones.
  have hinside : 33 < record.body.length := by omega
  have hname : (record.body[33]?.getD 0).toNat = record.body[33].toNat := by
    rw [List.getElem?_eq_getElem hinside, Option.getD_some]
  have hbyte : record.body[33].toNat < 256 := record.body[33].toNat_lt
  unfold embedded? StoreEntry.embedded?
  rw [Attempt.lift_bind (entry_eq hinside), Attempt.lift_bind (add_eq (by omega)),
    Attempt.lift_bind (add_eq (by omega)), hname]
  dsimp only
  refine Attempt.ite_of (fun _ => rfl) fun hlong => ?_
  refine (Attempt.lift_bind (bodyOffset_eq (by omega)) _).trans ?_
  rw [recordAt_eq hroom (by omega)]
  cases Record.readAt record.body (StoreEntry.fixedLength + record.body[33].toNat)
    record.bodyOffset <;> rfl

/-- An entry is read without a trap, wherever it lies in a small stream. -/
theorem storeEntry_eq (hroom : HasRoom record.body record.bodyOffset) :
    storeEntry record = .of (StoreEntry.ofRecord record) := by
  unfold storeEntry StoreEntry.ofRecord
  dsimp only
  refine Attempt.ite_of (fun _ => rfl) fun hlong => ?_
  rw [embedded?_eq hroom (Nat.le_of_not_lt hlong)]
  cases StoreEntry.embedded? record.body record.bodyOffset with
  | error fault => rfl
  | ok embedded =>
      refine (Attempt.lift_bind (u32?_eq (.inl (by decide))) _).trans ?_
      refine (Attempt.lift_bind (u32?_eq (.inl (by decide))) _).trans ?_
      exact Attempt.lift_bind (u32?_eq (.inl (by decide))) _

/-- The length of the name is not looked at before the entry is known to be long enough. -/
example : (embedded? ⟨⟨2, 0, storeEntryType, 0⟩, 0, []⟩).run = .error .outside :=
  rfl

/-- A delayed picture is found without a trap if its stream is small. -/
theorem resolve_eq {delay : Option DelayStream}
    (hdelay : ∀ stream ∈ delay, HasRoom stream.data stream.base) :
    resolve found delay = .of (found.resolve delay) := by
  unfold resolve StoreEntry.resolve
  cases found.embedded with
  | some record => rfl
  | none =>
      cases delay with
      | none => rfl
      | some stream =>
          have hroom : HasRoom stream.data stream.base := hdelay stream rfl
          have hbound : stream.base + stream.data.length < 2 ^ 63 := hroom
          have hposition : found.delayOffset.toNat < 2 ^ 32 := found.delayOffset.toNat_lt
          dsimp only
          refine Attempt.ite_of (fun _ => rfl) fun _ => ?_
          refine Attempt.ite_of (fun _ => Attempt.lift_bind (add_eq (by omega)) _) fun hinside => ?_
          rw [recordAt_eq hroom (by omega)]
          cases Record.readAt stream.data found.delayOffset.toNat stream.base <;> rfl

end Entries

/-! ## Drawing groups -/

/-- A step that is made at records of one type only. -/
def ifType {S : Type} (recType : UInt16) (step : S → Record → Attempt S) (state : S)
    (record : Record) : Attempt S :=
  if record.header.recType = recType then step state record else return state

/-- Takes the picture of an entry behind those found before. -/
def takeEntry (limits : Limits) (delay : Option DelayStream) (blips : List Blip)
    (record : Record) : Attempt (List Blip) := do
  let found ← storeEntry record
  match ← resolve found delay with
  | none => return blips
  | some picture =>
      let blip ← decode limits picture
      return blips ++ [blip]

/-- Takes the pictures in a container behind those found before. -/
def takeChildren (take : List Blip → Record → Attempt (List Blip)) (blips : List Blip)
    (record : Record) : Attempt (List Blip) := do
  let offset ← bodyOffset record
  walk record.body offset take blips 0

def blipStorePictures (data : Bytes) (base : Nat) (delay : Option DelayStream) (limits : Limits) :
    Attempt (List Blip) :=
  let takeStore := takeChildren (ifType storeEntryType (takeEntry limits delay))
  let takeGroup := takeChildren (ifType blipStoreType takeStore)
  walk data base (ifType drawingGroupType takeGroup) [] 0

section Groups

variable {limits : Limits} {delay : Option DelayStream} {record : Record} {blips : List Blip}

/-- The record of a picture that was found is in a small stream. -/
theorem offset_lt_of_resolve {found : StoreEntry} {picture : Record}
    (hroom : HasRoom record.body record.bodyOffset)
    (hdelay : ∀ stream ∈ delay, HasRoom stream.data stream.base)
    (hfound : StoreEntry.ofRecord record = .ok found)
    (hpicture : found.resolve delay = .ok (some picture)) : picture.offset < 2 ^ 63 := by
  rcases StoreEntry.mem_resolve hpicture with hembedded | ⟨stream, hstream, -, -, hread⟩
  · exact hroom.offset_lt (StoreEntry.liesIn_of_embedded hfound hembedded).2
  · exact (hdelay stream hstream).offset_lt ⟨_, hread⟩

theorem ifType_eq {recType : UInt16} {take : List Blip → Record → Attempt (List Blip)}
    {f : Record → Except Fault (List Blip)}
    (htake : take blips record = .of (Walk.appending f blips record)) :
    ifType recType take blips record = .of (Walk.appending (ofType recType f) blips record) := by
  rw [ifType, Walk.appending, ofType, apply_ite (Except.map (blips ++ ·))]
  exact Attempt.ite_of (fun _ => htake) fun _ => Attempt.of_nothing blips

theorem takeEntry_eq (hroom : HasRoom record.body record.bodyOffset)
    (hdelay : ∀ stream ∈ delay, HasRoom stream.data stream.base) (blips : List Blip) :
    takeEntry limits delay blips record =
      .of (Walk.appending (entryPictures limits delay) blips record) := by
  unfold takeEntry Walk.appending
  rw [storeEntry_eq hroom, entryPictures]
  cases hfound : StoreEntry.ofRecord record with
  | error fault => rfl
  | ok found =>
      dsimp only
      refine (congrArg (· >>= _) (resolve_eq hdelay)).trans ?_
      cases hpicture : found.resolve delay with
      | error fault => rfl
      | ok picture? =>
          cases picture? with
          | none => exact Attempt.of_nothing blips
          | some picture =>
              have hoffset := offset_lt_of_resolve hroom hdelay hfound hpicture
              refine (congrArg (· >>= _) (decode_eq hoffset)).trans ?_
              dsimp only
              cases Blip.decode limits picture <;> rfl

theorem takeChildren_eq {take : List Blip → Record → Attempt (List Blip)}
    {f : Record → Except Fault (List Blip)} (hroom : HasRoom record.body record.bodyOffset)
    (htake : ∀ blips child, child.LiesIn record.body record.bodyOffset →
      take blips child = .of (Walk.appending f blips child)) (blips : List Blip) :
    takeChildren take blips record =
      .of (Walk.appending (fun record => record.children.gather f) blips record) := by
  have hoffset : record.offset < 2 ^ 63 := by
    have hbody : record.bodyOffset = record.offset + 8 := rfl
    unfold HasRoom at hroom
    omega
  unfold takeChildren Walk.appending
  rw [Attempt.lift_bind (bodyOffset_eq hoffset), walk_eq hroom htake blips (Nat.zero_le _),
    Walk.fold_appending]
  rfl

/-- The pictures of a drawing group in a small stream are collected without a trap. -/
theorem blipStorePictures_eq {data : Bytes} {base : Nat} (hroom : HasRoom data base)
    (hdelay : ∀ stream ∈ delay, HasRoom stream.data stream.base) :
    blipStorePictures data base delay limits =
      .of (Art.blipStorePictures data base delay limits) := by
  -- The three levels from the inside to the outside, each with room in the one around it.
  have hgroup : ∀ blips group, group.LiesIn data base →
      ifType drawingGroupType (takeChildren (ifType blipStoreType
        (takeChildren (ifType storeEntryType (takeEntry limits delay))))) blips group =
      .of (Walk.appending (ofType drawingGroupType (groupPictures limits delay)) blips group) := by
    intro blips group hlies
    refine ifType_eq (takeChildren_eq (hroom.body hlies) ?_ blips)
    intro blips store hstore
    refine ifType_eq (takeChildren_eq ((hroom.body hlies).body hstore) ?_ blips)
    intro blips holder hholder
    exact ifType_eq (takeEntry_eq (((hroom.body hlies).body hstore).body hholder) hdelay blips)
  unfold blipStorePictures Art.blipStorePictures
  rw [walk_eq hroom hgroup [] (Nat.zero_le _), Walk.fold_appending, List.drop_zero, Nat.add_zero]
  cases (Record.scan data base).gather (ofType drawingGroupType (groupPictures limits delay)) <;> rfl

end Groups

end Machine
end OfficePictures
