import OfficePictures.Container
import OfficePictures.Proofs.Slideshow
import OfficePictures.Proofs.Word.Document
import OfficePictures.Proofs.Workbook.Document

/-!
# Crash — faults that readers of binary documents do not find

That a reader cannot go on is a fault of its own, apart from all that can be wrong with a document.
The readers of records, blocks and streams name what is wrong; none of them says that it crashed.

* `Result.Avoids` — a reader does not end with a fault, which is closed under steps and walks;
* `Art.avoids_blipStorePictures`, `Word.avoids_inlinePictures`, `Slideshow.avoids_streamPictures`,
  `Workbook.avoids_streamPictures` — the readers of streams.
-/

namespace OfficePictures

/-! ## Steps that avoid a failure -/

namespace Result

variable {ε α β : Type} {e : ε}

/-- The step does not end with this failure. -/
def Avoids (e : ε) (result : Except ε α) : Prop :=
  result ≠ .error e

namespace Avoids

theorem ok (a : α) : Avoids e (.ok a) := by
  intro h
  cases h

theorem error {e' : ε} (h : e' ≠ e) : Avoids e (.error e' : Except ε α) :=
  fun heq => h (Except.error.inj heq)

/-- The failure of a step is passed on. -/
theorem passed {result : Except ε α} {e' : ε} (h : Avoids e result) (heq : result = .error e') :
    Avoids e (.error e' : Except ε β) :=
  error fun hsame => h (hsame ▸ heq)

theorem bind {result : Except ε α} {next : α → Except ε β} (h : Avoids e result)
    (hnext : ∀ a, Avoids e (next a)) : Avoids e (result >>= next) := by
  cases result with
  | error e' => exact h.passed rfl
  | ok a => exact hnext a

theorem map {result : Except ε α} (h : Avoids e result) (f : α → β) :
    Avoids e (result.map f) := by
  cases result with
  | error e' => exact h.passed rfl
  | ok a => exact ok (f a)

theorem ite {p : Prop} [Decidable p] {result other : Except ε α} (h : Avoids e result)
    (hother : Avoids e other) : Avoids e (if p then result else other) := by
  split
  · exact h
  · exact hother

end Avoids

theorem avoids_gatherItems {f : α → Except ε (List β)} (h : ∀ item, Avoids e (f item))
    (items : List α) : Avoids e (Walk.gatherItems f items) := by
  induction items with
  | nil => exact .ok []
  | cons item items ih =>
      rw [Walk.gatherItems_cons]
      exact (h item).bind fun _ => ih.bind fun _ => .ok _

theorem avoids_gather {f : α → Except ε (List β)} {walk : Walk ε α} (h : ∀ item, Avoids e (f item))
    (hobstacle : walk.obstacle ≠ some e) : Avoids e (walk.gather f) := by
  rw [Walk.gather_eq]
  refine (avoids_gatherItems h walk.items).bind fun found => ?_
  cases hstop : walk.obstacle with
  | none => exact .ok found
  | some e' => exact .error fun heq => hobstacle (hstop.trans (congrArg some heq))

end Result

open Result

theorem Limits.avoids_check (limits : Limits) (length : Nat) :
    Avoids .crashed (limits.check length) := by
  unfold check
  exact .ite (.error (by simp)) (.ok ())

/-! ## Art records -/

namespace Art

theorem Record.avoids_read (data : Bytes) (offset : Nat) :
    Avoids .crashed (Record.read data offset) := by
  unfold Record.read
  cases Header.read? data 0 with
  | none => exact .error (by simp)
  | some header => exact .ite (.error (by simp)) (.ok _)

theorem Record.obstacle_scan (data : Bytes) (offset : Nat) :
    (Record.scan data offset).obstacle ≠ some .crashed := by
  fun_induction Record.scan data offset with
  | case1 =>
      intro h
      cases h
  | case2 data offset _ fault hread =>
      intro h
      cases h
      exact Record.avoids_read data offset hread
  | case3 data offset _ record _ ih => exact ih

theorem avoids_metafilePayload (limits : Limits) (offset : Nat) (metafileHeader payload : Bytes) :
    Avoids .crashed (metafilePayload limits offset metafileHeader payload) := by
  unfold metafilePayload
  refine .ite ?_ ?_
  · -- Whatever is wrong with compressed data is worded as a fault of the record.
    split
    · exact .error (by simp)
    · exact .error (by simp)
    · exact .ok _
  · split
    · rename_i hcheck
      exact (limits.avoids_check _).passed hcheck
    · exact .ok payload

theorem Blip.avoids_decode (limits : Limits) (record : Record) :
    Avoids .crashed (Blip.decode limits record) := by
  rw [Record.decode_eq]
  refine .ite (.error ?_) ?_
  · unfold Record.missingPayload
    split <;> simp
  · refine Avoids.map ?_ _
    unfold Record.storedWithin
    exact .ite (avoids_metafilePayload _ _ _ _) ((limits.avoids_check _).map _)

theorem StoreEntry.avoids_ofRecord (record : Record) :
    Avoids .crashed (StoreEntry.ofRecord record) := by
  have hembedded : Avoids .crashed (StoreEntry.embedded? record.body record.bodyOffset) := by
    unfold StoreEntry.embedded?
    refine .ite (.ok none) ?_
    split
    · rename_i hread
      exact (Record.avoids_read _ _).passed hread
    · exact .ok _
  unfold StoreEntry.ofRecord
  refine .ite (.error (by simp)) ?_
  split
  · rename_i hfound
    exact hembedded.passed hfound
  · exact .ok _

theorem StoreEntry.avoids_resolve (entry : StoreEntry) (delay : Option DelayStream) :
    Avoids .crashed (entry.resolve delay) := by
  unfold StoreEntry.resolve
  split
  · exact .ok _
  · exact .ok _
  · refine .ite (.ok none) (.ite (.error (by simp)) ?_)
    split
    · rename_i hread
      exact (Record.avoids_read _ _).passed hread
    · exact .ok _

theorem avoids_entryPictures (limits : Limits) (delay : Option DelayStream) (record : Record) :
    Avoids .crashed (entryPictures limits delay record) := by
  rw [entryPictures_eq]
  refine (StoreEntry.avoids_ofRecord record).bind fun entry => ?_
  refine (entry.avoids_resolve delay).bind fun found => ?_
  cases found with
  | none => exact .ok []
  | some picture => exact (Blip.avoids_decode limits picture).map _

theorem avoids_gather_scan {f : Record → Except Fault (List Blip)}
    (h : ∀ record, Avoids .crashed (f record)) (data : Bytes) (offset : Nat) :
    Avoids .crashed ((Record.scan data offset).gather f) :=
  avoids_gather h (Record.obstacle_scan data offset)

theorem avoids_ofType {f : Record → Except Fault (List Blip)} (recType : UInt16)
    (h : ∀ record, Avoids .crashed (f record)) (record : Record) :
    Avoids .crashed (ofType recType f record) := by
  unfold ofType
  exact .ite (h record) (.ok [])

theorem avoids_blipStorePictures (data : Bytes) (base : Nat) (delay : Option DelayStream)
    (limits : Limits) : Avoids .crashed (blipStorePictures data base delay limits) := by
  refine avoids_gather_scan (avoids_ofType _ fun group => ?_) data base
  refine avoids_gather_scan (avoids_ofType _ fun store => ?_) _ _
  exact avoids_gather_scan (avoids_ofType _ (avoids_entryPictures limits delay)) _ _

end Art

/-! ## Word documents -/

namespace Word

theorem Fib.avoids_field16 (stream : Bytes) (offset : Nat) :
    Avoids .crashed (Fib.field16 stream offset) := by
  unfold Fib.field16
  split
  · exact .ok _
  · exact .error (by simp)

theorem Fib.avoids_field32 (stream : Bytes) (offset : Nat) :
    Avoids .crashed (Fib.field32 stream offset) := by
  unfold Fib.field32
  split
  · exact .ok _
  · exact .error (by simp)

theorem Fib.avoids_pair (stream : Bytes) (start count index : Nat) :
    Avoids .crashed (Fib.pair stream start count index) := by
  unfold Fib.pair
  refine .ite (.ok none) ?_
  exact (Fib.avoids_field32 _ _).bind fun _ => (Fib.avoids_field32 _ _).bind fun _ => .ok _

theorem Fib.avoids_read (stream : Bytes) : Avoids .crashed (Fib.read stream) := by
  unfold Fib.read
  refine .ite (.error (by simp)) ?_
  refine (Fib.avoids_field16 _ _).bind fun version => ?_
  refine .ite (.error (by simp)) ?_
  refine (Fib.avoids_field16 _ _).bind fun flags => ?_
  refine .ite (.error (by simp)) ?_
  refine (Fib.avoids_field16 _ _).bind fun shorts => ?_
  refine (Fib.avoids_field16 _ _).bind fun longs => ?_
  refine (Fib.avoids_field16 _ _).bind fun pairs => ?_
  exact (Fib.avoids_pair _ _ _ _).bind fun _ => (Fib.avoids_pair _ _ _ _).bind fun _ => .ok _

theorem avoids_tablePart (part : TablePart) (stream : TableStream) (table : Bytes)
    (range : TableRange) : Avoids .crashed (tablePart part stream table range) := by
  unfold tablePart
  split
  · exact .ok _
  · exact .error (by simp)

theorem avoids_drawingGroupPictures (limits : Limits) (fib : Fib) (stream table : Bytes) :
    Avoids .crashed (drawingGroupPictures limits fib stream table) := by
  unfold drawingGroupPictures
  split
  · exact .ok []
  · exact (avoids_tablePart _ _ _ _).bind fun group => Art.avoids_blipStorePictures _ _ _ _

theorem avoids_inlineLocations (fib : Fib) (stream table : Bytes) :
    Avoids .crashed (inlineLocations fib stream table) := by
  unfold inlineLocations
  split
  · exact .ok []
  · exact (avoids_tablePart _ _ _ _).bind fun pages => .ok _

theorem avoids_recordPictures (limits : Limits) (record : Art.Record) :
    Avoids .crashed (recordPictures limits record) := by
  rw [recordPictures_eq]
  refine .ite (Art.avoids_entryPictures limits none record) (.ite ?_ (.ok []))
  exact (Art.Blip.avoids_decode limits record).map _

theorem avoids_blockPictures (limits : Limits) (block : Bytes) (position : Nat) :
    Avoids .crashed (blockPictures limits block position) := by
  rw [blockPictures_eq]
  refine .ite (Art.avoids_gather_scan (avoids_recordPictures limits) _ _) (.ite ?_ (.ite ?_ ?_))
  · exact Art.avoids_gather_scan (avoids_recordPictures limits) _ _
  · exact .ok []
  · exact (limits.avoids_check _).map _

theorem avoids_inlinePictures (stream : Bytes) (locations : List UInt32) (limits : Limits) :
    Avoids .crashed (inlinePictures stream locations limits) := by
  refine avoids_gatherItems (fun location => ?_) locations
  unfold locationPictures
  dsimp only
  split
  · exact .ok []
  · exact avoids_blockPictures limits _ _

end Word

/-! ## Presentations -/

namespace Slideshow

theorem avoids_recordPictures (limits : Limits) {obstacle : Option Fault}
    (h : obstacle ≠ some .crashed) (number : Nat) (records : List Art.Record) :
    Avoids .crashed (recordPictures limits obstacle number records) := by
  induction records generalizing number with
  | nil =>
      cases obstacle with
      | none => exact .ok []
      | some fault => exact .error fun heq => h (congrArg some heq)
  | cons record records ih =>
      rw [recordPictures_cons]
      split
      · exact ih number
      · exact (Art.Blip.avoids_decode limits record).bind fun _ => (ih _).bind fun _ => .ok _

theorem avoids_streamPictures (stream : Bytes) (limits : Limits) :
    Avoids .crashed (streamPictures stream limits) :=
  avoids_recordPictures limits (Art.Record.obstacle_scan stream 0) 0 _

end Slideshow

/-! ## Workbooks -/

namespace Workbook

theorem Record.obstacle_scan (stream : Bytes) (offset : Nat) :
    (Record.scan stream offset).obstacle ≠ some .crashed := by
  fun_induction Record.scan stream offset with
  | case1 => simp [Walk.stopped]
  | case2 _ _ _ _ _ _ _ _ _ _ ih => exact ih
  | case3 => simp [Walk.done]

theorem avoids_groupBytes {obstacle : Option Fault} (h : obstacle ≠ some .crashed)
    (inGroup : Bool) (records : List Record) :
    Avoids .crashed (groupBytes obstacle inGroup records) := by
  induction records generalizing inGroup with
  | nil =>
      cases obstacle with
      | none => exact .ok []
      | some fault => exact .error fun heq => h (congrArg some heq)
  | cons record records ih =>
      unfold groupBytes
      refine .ite (.error (by simp)) (.ite (.ok []) (.ite ?_ (ih false)))
      split
      · rename_i hmore
        exact (ih true).passed hmore
      · exact .ok _

theorem avoids_drawingGroup (stream : Bytes) : Avoids .crashed (drawingGroup stream) := by
  have hobstacle := Record.obstacle_scan stream 0
  unfold drawingGroup
  dsimp only
  split
  · cases hstop : (Record.scan stream 0).obstacle with
    | none => exact .error (by simp)
    | some fault => exact .error fun heq => hobstacle (hstop.trans (congrArg some heq))
  · exact .ite (.error (by simp)) (.ite (.error (by simp)) (avoids_groupBytes hobstacle false _))

theorem avoids_streamPictures [Toolkit] (limits : Limits) (stream : Bytes) :
    Avoids .crashed (streamPictures limits stream) :=
  (avoids_drawingGroup stream).bind fun _ =>
    (Art.avoids_blipStorePictures _ _ _ _).bind fun _ => .ok _

end Workbook

end OfficePictures
