import OfficePictures.Art.BlipStore
import OfficePictures.Proofs.Art.Blip
import OfficePictures.Proofs.Walk

/-!
# BlipStore — which records the pictures of a store come from

* `StoreEntry.mem_resolve` — an entry leads to the record that it holds, or to one in the stream of
  delayed pictures;
* `mem_entryPictures` — the picture of an entry is decoded from the record that the entry leads to;
* `mem_blipStorePictures` — the pictures of a stream come from entries in stores in groups;
* `tightened_blipStorePictures` — tighter limits give the same pictures or refuse them.
-/

namespace OfficePictures
namespace Art

variable {limits tight wide : Limits} {delay : Option DelayStream} {record : Record} {blip : Blip}
  {list : List Blip}

/-! ## Entries -/

namespace StoreEntry

variable {entry : StoreEntry} {picture : Record}

/-- A record that an entry leads to is embedded in it, or lies where the entry says. -/
theorem mem_resolve (h : entry.resolve delay = .ok (some picture)) :
    entry.embedded = some picture ∨
      ∃ stream, delay = some stream ∧ entry.embedded = none ∧ picture.header.isBlip = true ∧
        Record.readAt stream.data entry.delayOffset.toNat stream.base = .ok picture := by
  unfold resolve at h
  split at h
  · rename_i found hembedded
    cases h
    exact .inl hembedded
  · cases h
  · rename_i stream hembedded
    split at h
    · cases h
    · dsimp only at h
      split at h
      · cases h
      · split at h
        · cases h
        · rename_i found hread
          by_cases hblip : found.header.isBlip = true
          · rw [if_pos hblip] at h
            cases h
            exact .inr ⟨stream, rfl, hembedded, hblip, hread⟩
          · rw [if_neg hblip] at h
            cases h

end StoreEntry

/-- The picture in a record, as a list of one. -/
def decoded (limits : Limits) (record : Record) : Except Fault (List Blip) :=
  (Blip.decode limits record).map ([·])

theorem entryPictures_eq (limits : Limits) (delay : Option DelayStream) (record : Record) :
    entryPictures limits delay record = (do
      let entry ← StoreEntry.ofRecord record
      match ← entry.resolve delay with
      | none => .ok []
      | some picture => decoded limits picture) := by
  unfold entryPictures
  cases StoreEntry.ofRecord record with
  | error fault => rfl
  | ok entry =>
      cases hresolve : entry.resolve delay with
      | error fault => simp only [hresolve, bind, Except.bind]
      | ok found =>
          cases found with
          | none => simp only [hresolve, bind, Except.bind]
          | some picture =>
              simp only [hresolve, decoded, bind, Except.bind]
              cases Blip.decode limits picture <;> rfl

theorem mem_decoded (h : decoded limits record = .ok list) (hmem : blip ∈ list) :
    Blip.decode limits record = .ok blip := by
  rcases Result.exists_of_map h with ⟨one, hone, rfl⟩
  rw [hone, List.mem_singleton.1 hmem]

theorem mem_entryPictures (h : entryPictures limits delay record = .ok list) (hmem : blip ∈ list) :
    ∃ entry picture, StoreEntry.ofRecord record = .ok entry ∧
      entry.resolve delay = .ok (some picture) ∧ Blip.decode limits picture = .ok blip := by
  rw [entryPictures_eq] at h
  rcases Result.exists_of_bind h with ⟨entry, hentry, h⟩
  rcases Result.exists_of_bind h with ⟨found, hfound, h⟩
  cases found with
  | none =>
      cases h
      cases hmem
  | some picture => exact ⟨entry, picture, hentry, hfound, mem_decoded h hmem⟩

/-! ## Levels -/

theorem mem_ofType {recType : UInt16} {f : Record → Except Fault (List Blip)}
    (h : ofType recType f record = .ok list) (hmem : blip ∈ list) :
    record.header.recType = recType ∧ f record = .ok list := by
  unfold ofType at h
  split at h
  · rename_i htype
    exact ⟨htype, h⟩
  · cases h
    cases hmem

theorem mem_gather_ofType {recType : UInt16} {f : Record → Except Fault (List Blip)}
    {walk : Walk Fault Record} (h : walk.gather (ofType recType f) = .ok list)
    (hmem : blip ∈ list) :
    ∃ item ∈ walk.items, item.header.recType = recType ∧
      ∃ found, f item = .ok found ∧ blip ∈ found := by
  rcases Walk.mem_of_gather h hmem with ⟨item, hitem, found, hfound, hblip⟩
  rcases mem_ofType hfound hblip with ⟨htype, hyield⟩
  exact ⟨item, hitem, htype, found, hyield, hblip⟩

/-- A picture of a stream is that of an entry in a store in a group. -/
theorem mem_blipStorePictures {data : Bytes} {base : Nat}
    (h : blipStorePictures data base delay limits = .ok list) (hmem : blip ∈ list) :
    ∃ group ∈ (Record.scan data base).items, ∃ store ∈ group.children.items,
      ∃ holder ∈ store.children.items, holder.header.recType = storeEntryType ∧
        ∃ entry picture, StoreEntry.ofRecord holder = .ok entry ∧
          entry.resolve delay = .ok (some picture) ∧ Blip.decode limits picture = .ok blip := by
  rcases mem_gather_ofType h hmem with ⟨group, hgroup, -, found, hfound, hblip⟩
  rcases mem_gather_ofType hfound hblip with ⟨store, hstore, -, found, hfound, hblip⟩
  rcases mem_gather_ofType hfound hblip with ⟨holder, hholder, htype, found, hfound, hblip⟩
  exact ⟨group, hgroup, store, hstore, holder, hholder, htype, mem_entryPictures hfound hblip⟩

/-! ## Tighter limits -/

section Tightened

open Result

theorem tightened_decoded (hle : tight.maxPictureBytes ≤ wide.maxPictureBytes) (record : Record) :
    Tightened (· = .tooLarge tight.maxPictureBytes) (decoded tight record) (decoded wide record) :=
  (Blip.tightened_decode hle record).map _

theorem tightened_entryPictures (hle : tight.maxPictureBytes ≤ wide.maxPictureBytes)
    (delay : Option DelayStream) (record : Record) :
    Tightened (· = .tooLarge tight.maxPictureBytes) (entryPictures tight delay record)
      (entryPictures wide delay record) := by
  rw [entryPictures_eq, entryPictures_eq]
  refine (Tightened.refl _).bind fun entry => (Tightened.refl _).bind fun found => ?_
  cases found with
  | none => exact .refl _
  | some picture => exact tightened_decoded hle picture

theorem tightened_ofType {recType : UInt16} {f g : Record → Except Fault (List Blip)}
    {IsRefusal : Fault → Prop} (h : ∀ record, Tightened IsRefusal (f record) (g record))
    (record : Record) :
    Tightened IsRefusal (ofType recType f record) (ofType recType g record) := by
  unfold ofType
  split
  · exact h record
  · exact .refl _

theorem tightened_blipStorePictures (hle : tight.maxPictureBytes ≤ wide.maxPictureBytes)
    (data : Bytes) (base : Nat) (delay : Option DelayStream) :
    Tightened (· = .tooLarge tight.maxPictureBytes) (blipStorePictures data base delay tight)
      (blipStorePictures data base delay wide) := by
  -- From the innermost level outwards.
  have hstore : ∀ store, Tightened (· = .tooLarge tight.maxPictureBytes)
      (storePictures tight delay store) (storePictures wide delay store) := fun store =>
    Walk.tightened_gather (tightened_ofType (tightened_entryPictures hle delay)) _
  have hgroup : ∀ group, Tightened (· = .tooLarge tight.maxPictureBytes)
      (groupPictures tight delay group) (groupPictures wide delay group) := fun group =>
    Walk.tightened_gather (tightened_ofType hstore) _
  exact Walk.tightened_gather (tightened_ofType hgroup) _

end Tightened

end Art
end OfficePictures
