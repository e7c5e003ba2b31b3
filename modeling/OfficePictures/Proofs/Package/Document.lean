import OfficePictures.Package.Document
import OfficePictures.Proofs.Archive.Entry
import OfficePictures.Proofs.Limits
import OfficePictures.Proofs.Walk

/-!
# Document — what the pictures of a package come from

* `mem_pictures` — a picture is the content of a part;
* `pictures_of_mainPartIn_eq_error` — the main part decides whether there are pictures at all;
* `tightened_pictures` — tighter limits give the same pictures or refuse them.
-/

namespace OfficePictures
namespace Package

variable [Toolkit] {limits tight wide : Limits} {package : Package} {name : PartName}
  {picture : Picture} {list : List Picture}

theorem read_eq (package : Package) (name : PartName) (limit : Nat) :
    package.read name limit =
      match package.find? name with
      | none => .ok none
      | some part =>
          ((part.read limit).mapError EntryFault.toFault).map fun bytes => some (part, bytes) := by
  unfold read
  cases package.find? name with
  | none => rfl
  | some part =>
      dsimp only
      cases part.read limit <;> rfl

/-! ## Where pictures come from -/

theorem mem_partPictures (h : package.partPictures limits name = .ok list)
    (hmem : picture ∈ list) :
    ∃ part : Archive.Entry, part.read limits.maxPictureBytes = .ok picture.data := by
  rcases Result.exists_of_map h with ⟨found, hfound, rfl⟩
  rw [read_eq] at hfound
  split at hfound
  · cases hfound
    cases hmem
  · rename_i part _
    rcases Result.exists_of_map hfound with ⟨bytes, hbytes, rfl⟩
    cases List.mem_singleton.1 hmem
    exact ⟨part, Result.ok_of_mapError hbytes⟩

theorem mem_pictures {application : Application} {bytes : Bytes}
    (h : pictures application bytes limits = .ok list) (hmem : picture ∈ list) :
    ∃ part : Archive.Entry, part.read limits.maxPictureBytes = .ok picture.data := by
  rcases Result.exists_of_bind h with ⟨package, -, h⟩
  rcases Result.exists_of_bind h with ⟨main, -, h⟩
  rcases Result.exists_of_bind h with ⟨names, -, h⟩
  rcases Walk.mem_of_gatherItems h hmem with ⟨name, -, found, hfound, hpicture⟩
  exact mem_partPictures hfound hpicture

/-! ## The main part -/

/-- The main part of the document in the given bytes. -/
def mainPartIn (application : Application) (bytes : Bytes) : Except Fault PartName := do
  let package ← ofBytes bytes
  package.mainPartOf application

/-- Without a main part of the application there are no pictures, within any limits. -/
theorem pictures_of_mainPartIn_eq_error {application : Application} {bytes : Bytes} {fault : Fault}
    (h : mainPartIn application bytes = .error fault) (limits : Limits) :
    pictures application bytes limits = .error fault := by
  unfold mainPartIn at h
  unfold pictures
  cases hopen : ofBytes bytes with
  | error cause =>
      rw [hopen] at h
      cases h
      rfl
  | ok package =>
      rw [hopen] at h
      have hmain : package.mainPartOf application = .error fault := h
      change package.picturesOf application limits = .error fault
      rw [picturesOf, hmain]
      rfl

/-! ## Tighter limits -/

section Tightened

open Result

theorem tightened_partPictures (hsteady : Toolkit.IsSteady)
    (hle : tight.maxPictureBytes ≤ wide.maxPictureBytes) (package : Package) (name : PartName) :
    Tightened (· = .tooLarge tight.maxPictureBytes) (package.partPictures tight name)
      (package.partPictures wide name) := by
  refine Tightened.map _ ?_
  rw [read_eq, read_eq]
  split
  · exact .refl _
  · rename_i part _
    refine ((part.tightened_read hsteady hle).mapError fun cause hcause => ?_).map _
    rw [hcause, EntryFault.toFault]

/-- Only the pictures are read within the limits; parts that hold markup have a limit of their
own. -/
theorem tightened_pictures (hsteady : Toolkit.IsSteady)
    (hle : tight.maxPictureBytes ≤ wide.maxPictureBytes) (application : Application)
    (bytes : Bytes) :
    Tightened (· = .tooLarge tight.maxPictureBytes) (pictures application bytes tight)
      (pictures application bytes wide) := by
  refine (Tightened.refl _).bind fun package => ?_
  refine (Tightened.refl _).bind fun main => (Tightened.refl _).bind fun names => ?_
  exact Walk.tightened_gatherItems (tightened_partPictures hsteady hle package) names

end Tightened

end Package
end OfficePictures
