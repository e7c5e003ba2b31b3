import OfficePictures.Case
import OfficePictures.Proofs.Sink

/-!
# FileSystem — file systems that may fail

What a sink needs of its surroundings are a few steps: to make a directory, to create a file, and to
append bytes to it.  Each of them may fail at any time.  A file is written by creating it, appending
its bytes piece by piece as a buffer puts them out, and waiting until they are stored.

* `FileView.SameBut` — no file is made, changed or lost but one;
* `FileSystem` — the steps, and what is known of them;
* `FileSystem.writeFile_holds` — if all steps succeed, the file has the bytes and no other file is
  different;
* `Disk.files`, `Case.serves` — the disk in memory is such a file system, and a case serves it.
-/

namespace OfficePictures

/-! ## Files as they are seen -/

/-- How files are seen in a state: a path may lead to a file, and a file that is there has a
content.  Many paths may lead to one file. -/
structure FileView (σ : Type) where
  FileId : Type
  fileAt : σ → String → Option FileId
  content? : σ → FileId → Option Bytes

namespace FileView

variable {σ : Type}

/-- No file is made, changed or lost but, perhaps, one. -/
structure SameBut (view : FileView σ) (changed : Option view.FileId) (before after : σ) :
    Prop where
  content_eq : ∀ file, changed ≠ some file → view.content? after file = view.content? before file
  fileAt_eq : ∀ path file, changed ≠ some file → view.fileAt before path = some file →
    view.fileAt after path = some file

/-- The path leads to the file, and that is what is in it. -/
structure Holds (view : FileView σ) (state : σ) (path : String) (file : view.FileId)
    (content : Bytes) : Prop where
  fileAt_eq : view.fileAt state path = some file
  content_eq : view.content? state file = some content

variable {view : FileView σ} {changed : Option view.FileId} {before middle after : σ}

theorem SameBut.trans (h : view.SameBut changed before middle)
    (hrest : view.SameBut changed middle after) : view.SameBut changed before after where
  content_eq file hfile := (hrest.content_eq file hfile).trans (h.content_eq file hfile)
  fileAt_eq path file hfile hpath :=
    hrest.fileAt_eq path file hfile (h.fileAt_eq path file hfile hpath)

/-- What changes no file changes no file but one. -/
theorem SameBut.of_none (h : view.SameBut none before after) :
    view.SameBut changed before after where
  content_eq file _ := h.content_eq file nofun
  fileAt_eq path file _ := h.fileAt_eq path file nofun

theorem Holds.of_sameBut {path : String} {file : view.FileId} {content : Bytes}
    (h : view.Holds before path file content) (hsame : view.SameBut none before after) :
    view.Holds after path file content where
  fileAt_eq := hsame.fileAt_eq path file nofun h.fileAt_eq
  content_eq := (hsame.content_eq file nofun).trans h.content_eq

end FileView

/-! ## File systems -/

/-- Steps on files, each of which may fail. -/
structure FileSystem (σ : Type) extends FileView σ where
  makeDirectory : σ → String → Bool × σ
  /-- Creates a file, or empties the one that is there. -/
  create : σ → String → Option FileId × σ
  append : σ → FileId → Bytes → Bool × σ
  /-- Waits until a file is stored. -/
  sync : σ → FileId → Bool × σ
  /-- The pieces in which a buffer puts bytes out. -/
  pieces : σ → Bytes → List Bytes
  makeDirectory_sameBut : ∀ state path,
    toFileView.SameBut none state (makeDirectory state path).2
  create_holds : ∀ state path file, (create state path).1 = some file →
    toFileView.Holds (create state path).2 path file []
  create_sameBut : ∀ state path file, (create state path).1 = some file →
    toFileView.SameBut (some file) state (create state path).2
  append_holds : ∀ state path file content piece, toFileView.Holds state path file content →
    (append state file piece).1 = true →
      toFileView.Holds (append state file piece).2 path file (content ++ piece)
  append_sameBut : ∀ state file piece, (append state file piece).1 = true →
    toFileView.SameBut (some file) state (append state file piece).2
  sync_sameBut : ∀ state file, toFileView.SameBut none state (sync state file).2
  flatten_pieces : ∀ state content, (pieces state content).flatten = content

namespace FileSystem

variable {σ τ : Type}

/-- Appends the pieces one after the other, and waits until they are stored. -/
def appendAll (files : FileSystem σ) (state : σ) (file : files.FileId) : List Bytes → Bool × σ
  | [] => files.sync state file
  | piece :: pieces =>
      match files.append state file piece with
      | (false, state) => (false, state)
      | (true, state) => appendAll files state file pieces

/-- Creates a file and writes its content. -/
def writeFile (files : FileSystem σ) (state : σ) (path : String) (content : Bytes) : Bool × σ :=
  match files.create state path with
  | (none, state) => (false, state)
  | (some file, state) => files.appendAll state file (files.pieces state content)

variable {files : FileSystem σ}

theorem appendAll_holds {state : σ} {path : String} {file : files.FileId} {content : Bytes}
    {pieces : List Bytes} (hholds : files.Holds state path file content)
    (h : (files.appendAll state file pieces).1 = true) :
    files.Holds (files.appendAll state file pieces).2 path file (content ++ pieces.flatten) ∧
      files.SameBut (some file) state (files.appendAll state file pieces).2 := by
  induction pieces generalizing state content with
  | nil =>
      have hsync := files.sync_sameBut state file
      rw [List.flatten_nil, List.append_nil]
      exact ⟨hholds.of_sameBut hsync, hsync.of_none⟩
  | cons piece pieces ih =>
      have happended := files.append_holds state path file content piece hholds
      have hsame := files.append_sameBut state file piece
      rw [appendAll] at h ⊢
      generalize files.append state file piece = step at h happended hsame ⊢
      rcases step with ⟨_ | _, after⟩
      · cases h
      · rcases ih (happended rfl) h with ⟨hrest, hrestSame⟩
        rw [List.flatten_cons, ← List.append_assoc]
        exact ⟨hrest, (hsame rfl).trans hrestSame⟩

/-- A file that is written has the content that it was given, whatever was there before, and no
other file is different. -/
theorem writeFile_holds {state : σ} {path : String} {content : Bytes}
    (h : (files.writeFile state path content).1 = true) :
    ∃ file, files.Holds (files.writeFile state path content).2 path file content ∧
      files.SameBut (some file) state (files.writeFile state path content).2 := by
  have hcreated := files.create_holds state path
  have hsame := files.create_sameBut state path
  rw [writeFile] at h ⊢
  generalize files.create state path = step at h hcreated hsame ⊢
  rcases step with ⟨_ | file, after⟩
  · cases h
  · rcases appendAll_holds (hcreated file rfl) h with ⟨hholds, hrest⟩
    rw [files.flatten_pieces, List.nil_append] at hholds
    exact ⟨file, hholds, (hsame file rfl).trans hrest⟩

/-- Surroundings that make directories and write files by the steps of a file system. -/
structure Serves (files : FileSystem σ) (answer : σ → (request : Request) → request.Answer × σ) :
    Prop where
  makeDirectory_eq : ∀ state path,
    answer state (.makeDirectory path) = files.makeDirectory state path
  writeFile_eq : ∀ state path content,
    answer state (.writeFile path content) = files.writeFile state path content

end FileSystem

/-! ## The disk in memory -/

namespace Disk

variable {disk after : Disk} {place other : Place} {item : Item} {path : String}

theorem lookup_filter_ne {items : List (Place × Item)} (hne : other ≠ place) :
    (items.filter (·.1 ≠ place)).lookup other = items.lookup other := by
  induction items with
  | nil => rfl
  | cons entry items ih =>
      rcases entry with ⟨found, item⟩
      by_cases hfound : found = place
      · have hother : (other == found) = false := by
          simp [hfound, hne]
        rw [List.lookup_cons, hother, ← ih]
        simp [hfound]
      · have hkeep : ((found, item) :: items).filter (·.1 ≠ place) =
            (found, item) :: items.filter (·.1 ≠ place) := by
          simp [hfound]
        rw [hkeep, List.lookup_cons, List.lookup_cons, ih]

theorem find?_put_self (hplace : place ≠ []) : (disk.put place item).find? place = some item := by
  rw [find?, if_neg hplace, put, List.lookup_cons_self]

theorem find?_put_of_ne (hne : other ≠ place) :
    (disk.put place item).find? other = disk.find? other := by
  have hother : (other == place) = false := by
    simp [hne]
  rw [find?, find?, put, List.lookup_cons, hother, lookup_filter_ne hne]

/-- What is put somewhere last is what counts. -/
theorem put_put (disk : Disk) (place : Place) (item other : Item) :
    (disk.put place item).put place other = disk.put place other := by
  simp [put]

theorem ne_nil_of_find? (h : disk.find? place ≠ some .directory) : place ≠ [] := by
  rintro rfl
  exact h rfl

/-! ## More directories -/

/-- All directories are still there. -/
def Grows (disk after : Disk) : Prop :=
  ∀ place, disk.find? place = some .directory → after.find? place = some .directory

theorem grows_put (h : disk.find? place ≠ some .directory) : disk.Grows (disk.put place item) := by
  intro other hother
  have hne : other ≠ place := by
    rintro rfl
    exact h hother
  rwa [find?_put_of_ne hne]

theorem Grows.foldlM_enter? (h : disk.Grows after) {segments : List (List Char)} {start : Place}
    (hplace : segments.foldlM disk.enter? start = some place) :
    segments.foldlM after.enter? start = some place := by
  induction segments generalizing start with
  | nil => exact hplace
  | cons segment segments ih =>
      rw [List.foldlM_cons, Option.bind_eq_bind, Option.bind_eq_some_iff] at hplace ⊢
      rcases hplace with ⟨next, hnext, hrest⟩
      rw [enter?_eq_some_iff] at hnext
      exact ⟨next, enter?_eq_some_iff.2 ⟨hnext.1, h _ hnext.2⟩, ih hrest⟩

/-- A path leads where it led. -/
theorem Grows.locate?_eq_some (h : disk.Grows after) {segment : List Char}
    (hpath : disk.locate? path = some (place, segment)) :
    after.locate? path = some (place, segment) := by
  rw [locate?_eq_some_iff] at hpath ⊢
  exact ⟨hpath.1, h.foldlM_enter? hpath.2.1, hpath.2.2⟩

/-! ## Files -/

def content? (disk : Disk) (place : Place) : Option Bytes :=
  match disk.find? place with
  | some (.file content) => some content
  | _ => none

theorem content?_eq_some_iff {content : Bytes} :
    disk.content? place = some content ↔ disk.find? place = some (.file content) := by
  unfold content?
  split
  · rename_i found hfound
    rw [hfound, Option.some.injEq, Option.some.injEq, Item.file.injEq]
  · rename_i hnone
    constructor
    · intro h
      cases h
    · intro h
      exact absurd h (hnone content)

theorem content?_congr (h : after.find? place = disk.find? place) :
    after.content? place = disk.content? place := by
  rw [content?, content?, h]

/-- The place of the file that a path leads to. -/
def fileAt? (disk : Disk) (path : String) : Option Place := do
  let (directory, segment) ← disk.locate? path
  let place ← place? directory segment
  if (disk.content? place).isSome then some place else none

theorem fileAt?_eq_some_iff :
    disk.fileAt? path = some place ↔ ∃ directory segment,
      disk.locate? path = some (directory, segment) ∧ place? directory segment = some place ∧
        (disk.content? place).isSome = true := by
  simp only [fileAt?, Option.bind_eq_bind, Option.bind_eq_some_iff, Option.ite_none_right_eq_some,
    Option.some.injEq, Prod.exists]
  constructor
  · rintro ⟨directory, segment, hpath, _, hplace, hfile, rfl⟩
    exact ⟨directory, segment, hpath, hplace, hfile⟩
  · rintro ⟨directory, segment, hpath, hplace, hfile⟩
    exact ⟨directory, segment, hpath, place, hplace, hfile, rfl⟩

/-- The files of a disk are known by their places. -/
def view : FileView Disk where
  FileId := Place
  fileAt := fileAt?
  content? := content?

/-- Where there are more directories, paths still lead to files that are as they were. -/
theorem Grows.sameBut (h : disk.Grows after) {changed : Option Place}
    (hcontent : ∀ file, changed ≠ some file → after.content? file = disk.content? file) :
    view.SameBut changed disk after where
  content_eq := hcontent
  fileAt_eq path file hfile hpath := by
    rcases fileAt?_eq_some_iff.1 hpath with ⟨directory, segment, hlocate, hplace, hsome⟩
    refine fileAt?_eq_some_iff.2 ⟨directory, segment, h.locate?_eq_some hlocate, hplace, ?_⟩
    rwa [hcontent file hfile]

/-- Putting a file where there is no directory changes no other file. -/
theorem sameBut_put (content : Bytes) (h : disk.find? place ≠ some .directory) :
    view.SameBut (some place) disk (disk.put place (.file content)) := by
  refine (grows_put h).sameBut fun file hfile => content?_congr (find?_put_of_ne ?_)
  rintro rfl
  exact hfile rfl

/-! ## Making directories -/

/-- Each place is as it was, or there is a directory where nothing was. -/
def Extends (disk after : Disk) : Prop :=
  ∀ place, after.find? place = disk.find? place ∨
    (disk.find? place = none ∧ after.find? place = some .directory)

theorem Extends.refl (disk : Disk) : disk.Extends disk :=
  fun _ => .inl rfl

theorem Extends.trans {middle : Disk} (h : disk.Extends middle) (hrest : middle.Extends after) :
    disk.Extends after := by
  intro place
  rcases hrest place with hsame | ⟨hnone, hmade⟩
  · rw [hsame]
    exact h place
  · rcases h place with hsame | ⟨-, hbefore⟩
    · exact .inr ⟨hsame.symm.trans hnone, hmade⟩
    · rw [hbefore] at hnone
      cases hnone

theorem extends_put_directory (h : disk.find? place = none) :
    disk.Extends (disk.put place .directory) := by
  have hplace : place ≠ [] := by
    rintro rfl
    cases h
  intro other
  by_cases hother : other = place
  · subst hother
    exact .inr ⟨h, find?_put_self hplace⟩
  · exact .inl (find?_put_of_ne hother)

theorem extends_makeAlong (disk : Disk) (directory : Place) (segments : List (List Char)) :
    disk.Extends (disk.makeAlong directory segments).2 := by
  induction segments generalizing disk directory with
  | nil => exact .refl disk
  | cons segment segments ih =>
      rw [makeAlong]
      split
      · exact .refl disk
      · rename_i next _
        split
        · exact ih disk next
        · exact .refl disk
        · rename_i hnone
          -- Only here something is put, where nothing is.
          split
          · exact (extends_put_directory hnone).trans (ih _ next)
          · exact .refl disk

theorem extends_makeDirectory (disk : Disk) (path : String) :
    disk.Extends (disk.makeDirectory path).2 := by
  unfold makeDirectory
  split
  · exact .refl disk
  · exact extends_makeAlong disk [] _

/-- New directories change no file. -/
theorem Extends.sameBut (h : disk.Extends after) : view.SameBut none disk after := by
  refine Grows.sameBut ?_ ?_
  · intro place hdirectory
    rcases h place with hsame | ⟨hnone, -⟩
    · exact hsame.trans hdirectory
    · rw [hdirectory] at hnone
      cases hnone
  · intro place _
    rcases h place with hsame | ⟨hnone, hmade⟩
    · exact content?_congr hsame
    · rw [content?, content?, hnone, hmade]

/-! ## Writing files -/

/-- Creates an empty file, in place of one that may be there. -/
def create (disk : Disk) (path : String) : Option Place × Disk :=
  match disk.locate? path with
  | none => (none, disk)
  | some (directory, name) =>
      let place := directory ++ [name]
      if isSpecial name || !fits name || disk.find? place = some .directory then (none, disk)
      else (some place, disk.put place (.file []))

/-- Appends bytes to a file that is there. -/
def append (disk : Disk) (place : Place) (bytes : Bytes) : Bool × Disk :=
  match disk.content? place with
  | none => (false, disk)
  | some content => (true, disk.put place (.file (content ++ bytes)))

/-- A file is created where a path of directories ends with a name of its own. -/
theorem create_eq_some (h : (disk.create path).1 = some place) :
    (∃ directory name, disk.locate? path = some (directory, name) ∧
        place? directory name = some place) ∧
      disk.find? place ≠ some .directory ∧
      (disk.create path).2 = disk.put place (.file []) := by
  unfold create at h ⊢
  split at h
  · cases h
  · rename_i directory name hpath
    dsimp only at h ⊢
    split at h
    · cases h
    · rename_i hfree
      cases h
      rw [if_neg hfree]
      simp only [Bool.or_eq_true, not_or, decide_eq_true_eq] at hfree
      refine ⟨⟨directory, name, hpath, ?_⟩, hfree.2, rfl⟩
      simp only [isSpecial, Bool.or_eq_true, decide_eq_true_eq, not_or] at hfree
      simp [place?, hfree.1.1]

theorem append_eq_true {bytes : Bytes} (h : (disk.append place bytes).1 = true) :
    ∃ content, disk.find? place = some (.file content) ∧
      (disk.append place bytes).2 = disk.put place (.file (content ++ bytes)) := by
  unfold append at h ⊢
  split at h
  · cases h
  · rename_i content hcontent
    exact ⟨content, content?_eq_some_iff.1 hcontent, rfl⟩

theorem holds_put_iff {content : Bytes} (hplace : disk.find? place ≠ some .directory) :
    view.Holds (disk.put place (.file content)) path place content ↔
      ∃ directory name, (disk.put place (.file content)).locate? path = some (directory, name) ∧
        place? directory name = some place := by
  have hcontent : (disk.put place (.file content)).content? place = some content :=
    content?_eq_some_iff.2 (find?_put_self (ne_nil_of_find? hplace))
  constructor
  · intro h
    rcases fileAt?_eq_some_iff.1 h.fileAt_eq with ⟨directory, name, hpath, hname, -⟩
    exact ⟨directory, name, hpath, hname⟩
  · rintro ⟨directory, name, hpath, hname⟩
    refine ⟨fileAt?_eq_some_iff.2 ⟨directory, name, hpath, hname, ?_⟩, hcontent⟩
    rw [hcontent]
    rfl

/-- The disk as a file system; it takes the bytes of a file in one piece. -/
def files : FileSystem Disk where
  toFileView := view
  makeDirectory := makeDirectory
  create := create
  append := append
  sync disk _ := (true, disk)
  pieces _ content := [content]
  makeDirectory_sameBut disk path := (disk.extends_makeDirectory path).sameBut
  create_holds disk path place h := by
    rcases create_eq_some h with ⟨⟨directory, name, hpath, hname⟩, hplace, hput⟩
    rw [hput]
    exact (holds_put_iff hplace).2 ⟨directory, name, (grows_put hplace).locate?_eq_some hpath, hname⟩
  create_sameBut disk path place h := by
    rcases create_eq_some h with ⟨-, hplace, hput⟩
    rw [hput]
    exact sameBut_put [] hplace
  append_holds disk path place content bytes hholds h := by
    rcases append_eq_true h with ⟨found, hfound, hput⟩
    have hplace : disk.find? place ≠ some .directory := by
      rw [hfound]
      exact nofun
    rcases fileAt?_eq_some_iff.1 hholds.fileAt_eq with ⟨directory, name, hpath, hname, -⟩
    cases (content?_eq_some_iff.2 hfound).symm.trans hholds.content_eq
    rw [hput]
    exact (holds_put_iff hplace).2 ⟨directory, name, (grows_put hplace).locate?_eq_some hpath, hname⟩
  append_sameBut disk place bytes h := by
    rcases append_eq_true h with ⟨found, hfound, hput⟩
    rw [hput]
    refine sameBut_put _ ?_
    rw [hfound]
    exact nofun
  sync_sameBut disk place := (Extends.refl disk).sameBut
  flatten_pieces _ content := List.append_nil content

/-- A file is written at once as it is step by step. -/
theorem files_writeFile (disk : Disk) (path : String) (content : Bytes) :
    files.writeFile disk path content = disk.writeFile path content := by
  simp only [FileSystem.writeFile, files, create, writeFile]
  cases disk.locate? path with
  | none => rfl
  | some found =>
      rcases found with ⟨directory, name⟩
      dsimp only
      by_cases hrefused : (isSpecial name || !fits name ||
          disk.find? (directory ++ [name]) = some .directory) = true
      · rw [if_pos hrefused, if_pos hrefused]
      · rw [if_neg hrefused, if_neg hrefused]
        have hempty : (disk.put (directory ++ [name]) (.file [])).content? (directory ++ [name]) =
            some [] :=
          content?_eq_some_iff.2 (find?_put_self (by simp))
        simp [FileSystem.appendAll, append, hempty, put_put]

end Disk

/-! ## The case in memory -/

/-- Files that are a part of something else. -/
def FileView.within {σ τ : Type} (view : FileView σ) (get : τ → σ) : FileView τ where
  FileId := view.FileId
  fileAt whole := view.fileAt (get whole)
  content? whole := view.content? (get whole)

theorem FileView.SameBut.within {σ τ : Type} {view : FileView σ} {changed : Option view.FileId}
    {get : τ → σ} {before after : τ} (h : view.SameBut changed (get before) (get after)) :
    (view.within get).SameBut changed before after :=
  ⟨h.content_eq, h.fileAt_eq⟩

theorem FileView.holds_within_iff {σ τ : Type} {view : FileView σ} {get : τ → σ} {whole : τ}
    {path : String} {file : view.FileId} {content : Bytes} :
    (view.within get).Holds whole path file content ↔ view.Holds (get whole) path file content :=
  ⟨fun h => ⟨h.fileAt_eq, h.content_eq⟩, fun h => ⟨h.fileAt_eq, h.content_eq⟩⟩

namespace Case

/-- The state of the case with what a step does to its disk. -/
def onDisk {α : Type} (current : Case) (result : α × Disk) : α × Case :=
  (result.1, { current with disk := result.2 })

/-- The disk of a case as a file system. -/
def files : FileSystem Case where
  toFileView := Disk.view.within Case.disk
  makeDirectory current path := current.onDisk (current.disk.makeDirectory path)
  create current path := current.onDisk (current.disk.create path)
  append current place bytes := current.onDisk (current.disk.append place bytes)
  sync current place := current.onDisk (Disk.files.sync current.disk place)
  pieces current := Disk.files.pieces current.disk
  makeDirectory_sameBut current path := (Disk.files.makeDirectory_sameBut current.disk path).within
  create_holds current path place h :=
    FileView.holds_within_iff.2 (Disk.files.create_holds current.disk path place h)
  create_sameBut current path place h :=
    (Disk.files.create_sameBut current.disk path place h).within
  append_holds current path place content bytes hholds h :=
    FileView.holds_within_iff.2 (Disk.files.append_holds current.disk path place content bytes
      (FileView.holds_within_iff.1 hholds) h)
  append_sameBut current place bytes h :=
    (Disk.files.append_sameBut current.disk place bytes h).within
  sync_sameBut current place := (Disk.files.sync_sameBut current.disk place).within
  flatten_pieces current := Disk.files.flatten_pieces current.disk

theorem files_writeFile (current : Case) (path : String) (content : Bytes) :
    files.writeFile current path content = current.onDisk (current.disk.writeFile path content) := by
  rw [← Disk.files_writeFile]
  simp only [FileSystem.writeFile, files, Disk.files, onDisk]
  rcases current.disk.create path with ⟨_ | place, disk⟩
  · rfl
  · simp only [FileSystem.appendAll]
    rcases disk.append place content with ⟨_ | _, after⟩
    · rfl
    · rfl

/-- A case serves the files of its disk. -/
theorem serves : files.Serves answer where
  makeDirectory_eq _ _ := rfl
  writeFile_eq current path content := (files_writeFile current path content).symm

end Case
end OfficePictures
