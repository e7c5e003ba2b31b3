import OfficePictures.Proofs.Extraction.Course
import OfficePictures.Proofs.FileName.Safe

/-!
# Files — what an extraction does to the files of its directory

Surroundings keep the files of a directory if a file that is written is there afterwards and, apart
from it, no file of the directory changes.  Names that differ in letter case only may stand for one
file.

* `KeepsFiles` — surroundings that keep files, as far as requests can tell;
* `Answered.fileAt_eq` — a log that writes no file of a name leaves it as it was;
* `Answered.fileAt_treated` — pictures that were written one after the other are all there, if their
  names differ.
-/

namespace OfficePictures

/-! ## Paths -/

/-- A directory has one path for each name. -/
theorem Sink.joinPath_inj {directory name other : List Char} (hname : '/' ∉ name)
    (hother : '/' ∉ other) (h : joinPath directory name = joinPath directory other) :
    name = other := by
  have hrelative : ∀ {list : List Char}, '/' ∉ list → list.head? ≠ some '/' := by
    intro list hlist hhead
    exact hlist (List.mem_of_head? hhead)
  simp only [joinPath, hrelative hname, hrelative hother, decide_false, Bool.false_or] at h
  split at h
  · exact h
  · split at h
    · exact List.append_cancel_left h
    · exact List.cons.inj (List.append_cancel_left h) |>.2

theorem Sink.pathOf_inj {sink : Sink} {name other : String} (hname : FileName.IsSafe name.toList)
    (hother : FileName.IsSafe other.toList) (h : sink.pathOf name = sink.pathOf other) :
    name = other :=
  String.toList_inj.1 (joinPath_inj hname.slash_notMem hother.slash_notMem (String.ofList_inj.1 h))

namespace Extraction

open Script

/-! ## Kept files -/

variable {σ : Type}

/-- Surroundings in which files are read at their paths keep the files in the directory of a sink:
a file that was written is there, a written file changes no file of a name that differs from its
own also in lower case, and other requests change no file. -/
structure KeepsFiles (answer : σ → (request : Request) → request.Answer × σ)
    (fileAt : σ → String → Option Bytes) (sink : Sink) : Prop where
  stored (state : σ) (name : String) (content : Bytes) : FileName.IsSafe name.toList →
    (answer state (.writeFile (sink.pathOf name) content)).1 = true →
    fileAt (answer state (.writeFile (sink.pathOf name) content)).2 (sink.pathOf name) =
      some content
  apart (state : σ) (name other : String) (content : Bytes) : FileName.IsSafe name.toList →
    FileName.IsSafe other.toList → Text.lower name.toList ≠ Text.lower other.toList →
    fileAt (answer state (.writeFile (sink.pathOf name) content)).2 (sink.pathOf other) =
      fileAt state (sink.pathOf other)
  otherwise (state : σ) (request : Request) (name : String) :
    (∀ path content, request ≠ .writeFile path content) → FileName.IsSafe name.toList →
    fileAt (answer state request).2 (sink.pathOf name) = fileAt state (sink.pathOf name)

/-- Only files of other names are written. -/
def WritesBeside (sink : Sink) (name : String) (log : List Exchange) : Prop :=
  ∀ exchange ∈ log, ∀ path content, exchange.request = .writeFile path content →
    ∃ other : String, FileName.IsSafe other.toList ∧
      Text.lower other.toList ≠ Text.lower name.toList ∧ path = sink.pathOf other

section Logs

variable {sink : Sink} {name : String} {front back log : List Exchange}

theorem writesBeside_append :
    WritesBeside sink name (front ++ back) ↔
      WritesBeside sink name front ∧ WritesBeside sink name back :=
  List.forall_mem_append

theorem writesBeside_of_no_write
    (h : ∀ exchange ∈ log, ∀ path content, exchange.request ≠ .writeFile path content) :
    WritesBeside sink name log := by
  intro exchange hmem path content hwrite
  exact absurd hwrite (h exchange hmem path content)

end Logs

section Kept

variable {answer : σ → (request : Request) → request.Answer × σ}
  {fileAt : σ → String → Option Bytes} {sink : Sink} {name : String} {state final : σ}
  {log : List Exchange}

theorem Answered.fileAt_eq (hkeeps : KeepsFiles answer fileAt sink)
    (hname : FileName.IsSafe name.toList) (h : Answered answer state log final)
    (hbeside : WritesBeside sink name log) :
    fileAt final (sink.pathOf name) = fileAt state (sink.pathOf name) := by
  induction h with
  | nil state => rfl
  | @cons state final request log hanswered ih =>
      rcases List.forall_mem_cons.1 hbeside with ⟨hfirst, hrest⟩
      rw [ih hrest]
      by_cases hwrite : ∃ path content, request = .writeFile path content
      · rcases hwrite with ⟨path, content, rfl⟩
        rcases hfirst path content rfl with ⟨other, hother, hlower, rfl⟩
        exact hkeeps.apart state other name content hother hname hlower
      · exact hkeeps.otherwise state request name
          (fun path content heq => hwrite ⟨path, content, heq⟩) hname

variable {config : Config} {document : Document}

/-! ## Pictures -/

theorem Treated.writesBeside_log {treated : Treated} (hsafe : FileName.IsSafe treated.name.toList)
    (hlower : Text.lower treated.name.toList ≠ Text.lower name.toList) :
    WritesBeside sink name (treated.log config document sink) := by
  rintro exchange hmem path content hwrite
  rcases List.mem_cons.1 hmem with rfl | hrest
  · cases hwrite
    exact ⟨treated.name, hsafe, hlower, rfl⟩
  · split at hrest
    · rw [List.mem_singleton] at hrest
      subst hrest
      cases hwrite
    · cases hrest

theorem Treated.writesBeside_flatMap_log {treated : List Treated}
    (hsafe : ∀ one ∈ treated, FileName.IsSafe one.name.toList)
    (hlower : ∀ one ∈ treated, Text.lower one.name.toList ≠ Text.lower name.toList) :
    WritesBeside sink name (treated.flatMap (Treated.log config document sink)) := by
  intro exchange hmem
  rcases List.mem_flatMap.1 hmem with ⟨one, hone, hlog⟩
  exact Treated.writesBeside_log (hsafe one hone) (hlower one hone) exchange hlog

theorem Answered.fileAt_log (hkeeps : KeepsFiles answer fileAt sink) {treated : Treated}
    (hsafe : FileName.IsSafe treated.name.toList) (hwritten : treated.isWritten = true)
    (h : Answered answer state (treated.log config document sink) final) :
    fileAt final (sink.pathOf treated.name) = some (Encoded.encode treated.picture.data) := by
  rcases answered_cons.1 h with ⟨hdone, hregister⟩
  -- The file is stored by the first exchange, and registering it changes no file.
  rw [Answered.fileAt_eq hkeeps hsafe hregister]
  · exact hkeeps.stored state treated.name _ hsafe (hdone.trans hwritten)
  · refine writesBeside_of_no_write ?_
    intro exchange hmem path content hwrite
    rw [if_pos hwritten, List.mem_singleton] at hmem
    subst hmem
    cases hwrite

/-- Pictures that were written one after the other are all there, if their names differ. -/
theorem Answered.fileAt_treated (hkeeps : KeepsFiles answer fileAt sink) {treated : List Treated}
    (hsafe : ∀ one ∈ treated, FileName.IsSafe one.name.toList)
    (hnodup : (treated.map fun one => Text.lower one.name.toList).Nodup)
    (h : Answered answer state (treated.flatMap (Treated.log config document sink)) final) :
    ∀ one ∈ treated, one.isWritten = true →
      fileAt final (sink.pathOf one.name) = some (Encoded.encode one.picture.data) := by
  induction treated generalizing state with
  | nil => exact fun one hmem => absurd hmem List.not_mem_nil
  | cons first treated ih =>
      rcases List.forall_mem_cons.1 hsafe with ⟨hfirst, htreated⟩
      rw [List.map_cons, List.nodup_cons] at hnodup
      rw [List.flatMap_cons] at h
      rcases answered_append.1 h with ⟨middle, hfront, hback⟩
      intro one hmem hwritten
      rcases List.mem_cons.1 hmem with rfl | hlater
      · -- What is written later has other names, so the file of the first picture stays.
        have hbeside : WritesBeside sink one.name
            (treated.flatMap (Treated.log config document sink)) := by
          refine Treated.writesBeside_flatMap_log htreated ?_
          intro other hother heq
          exact hnodup.1 (List.mem_map.2 ⟨other, hother, heq⟩)
        rw [Answered.fileAt_eq hkeeps hfirst hback hbeside]
        exact Answered.fileAt_log hkeeps hfirst hwritten hfront
      · exact ih htreated hnodup.2 hback one hlater hwritten

end Kept

end Extraction
end OfficePictures
