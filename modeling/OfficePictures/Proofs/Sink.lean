import Mathlib.Data.Option.Basic
import OfficePictures.Disk
import OfficePictures.Proofs.Extraction.Course
import OfficePictures.Proofs.FileName.Safe
import OfficePictures.Proofs.Text.Segments

/-!
# Sink — files right in the output directory

A file name that was made safe and claimed has no separator, so its path in an output directory
leads into that directory and no further.

* `Disk.enterAll?`, `Disk.lookup?_eq_some_directory_iff` — a path leads to a directory if it can be
  entered segment by segment;
* `Disk.locate?_joinPath` — the path of a name in a directory leads to that name in that directory;
* `Sink.claimed_stay_inside` — whatever names are proposed, the names that are claimed are ordinary,
  and what is written goes right into the output directory.
-/

namespace OfficePictures

/-! ## Paths on a disk -/

namespace Disk

variable {disk : Disk} {place : Place} {segments : List (List Char)}

/-- Goes through directories along the segments of a path. -/
def enterAll? (disk : Disk) (segments : List (List Char)) : Option Place :=
  segments.foldlM disk.enter? []

theorem enter?_eq_some_iff {directory : Place} {segment : List Char} :
    disk.enter? directory segment = some place ↔
      place? directory segment = some place ∧ disk.find? place = some .directory := by
  simp only [enter?, Option.bind_eq_bind, Option.bind_eq_some_iff, Option.ite_none_right_eq_some,
    Option.some.injEq]
  constructor
  · rintro ⟨_, hplace, hfound, rfl⟩
    exact ⟨hplace, hfound⟩
  · rintro ⟨hplace, hfound⟩
    exact ⟨place, hplace, hfound, rfl⟩

theorem enterAll?_append_singleton (segments : List (List Char)) (segment : List Char) :
    disk.enterAll? (segments ++ [segment]) =
      (disk.enterAll? segments).bind fun directory => disk.enter? directory segment := by
  simp [enterAll?, List.foldlM_append]

/-- What is entered is a directory. -/
theorem find?_of_enterAll? (h : disk.enterAll? segments = some place) :
    disk.find? place = some .directory := by
  rcases List.eq_nil_or_concat segments with rfl | ⟨front, last, rfl⟩
  · cases h
    rfl
  · rw [List.concat_eq_append, enterAll?_append_singleton] at h
    rcases Option.bind_eq_some_iff.1 h with ⟨directory, -, hlast⟩
    exact (enter?_eq_some_iff.1 hlast).2

/-- An empty segment stays where it is. -/
theorem enterAll?_append_nil (segments : List (List Char)) :
    disk.enterAll? (segments ++ [[]]) = disk.enterAll? segments := by
  rw [enterAll?_append_singleton]
  cases h : disk.enterAll? segments with
  | none => rfl
  | some place => exact enter?_eq_some_iff.2 ⟨rfl, find?_of_enterAll? h⟩

theorem locate?_eq_some_iff {path : String} {segment : List Char} :
    disk.locate? path = some (place, segment) ↔
      '\x00' ∉ path.toList ∧ disk.enterAll? (Text.split '/' path.toList).dropLast = some place ∧
        segment = (Text.split '/' path.toList).getLastD [] := by
  unfold enterAll?
  by_cases hnul : '\x00' ∈ path.toList
  · simp [locate?, guard, hnul]
  · cases hdirectory : (Text.split '/' path.toList).dropLast.foldlM disk.enter? [] with
    | none => simp [locate?, hdirectory]
    | some directory => simp [locate?, guard, hnul, hdirectory, eq_comm]

/-- A path leads to a directory if it can be entered segment by segment. -/
theorem lookup?_eq_some_directory_iff {path : String} :
    disk.lookup? path = some (place, .directory) ↔
      '\x00' ∉ path.toList ∧ disk.enterAll? (Text.split '/' path.toList) = some place := by
  have hsplit : Text.split '/' path.toList = (Text.split '/' path.toList).dropLast ++
      [(Text.split '/' path.toList).getLastD []] := by
    rw [List.getLastD_eq_getLast?, List.getLast?_eq_some_getLast (Text.split_ne_nil _ _),
      Option.getD_some, List.dropLast_append_getLast]
  have henter : disk.enterAll? (Text.split '/' path.toList) = some place ↔
      ∃ directory, disk.enterAll? (Text.split '/' path.toList).dropLast = some directory ∧
        disk.enter? directory ((Text.split '/' path.toList).getLastD []) = some place := by
    rw [← Option.bind_eq_some_iff, ← enterAll?_append_singleton, ← hsplit]
  simp only [lookup?, Option.bind_eq_bind, Option.bind_eq_some_iff, Prod.exists, Option.pure_def,
    Option.some.injEq, Prod.mk.injEq, locate?_eq_some_iff, henter, enter?_eq_some_iff]
  constructor
  · rintro ⟨directory, _, ⟨hnul, hdirectory, rfl⟩, _, hplace, _, hfound, rfl, rfl⟩
    exact ⟨hnul, directory, hdirectory, hplace, hfound⟩
  · rintro ⟨hnul, directory, hdirectory, hplace, hfound⟩
    exact ⟨directory, _, ⟨hnul, hdirectory, rfl⟩, place, hplace, _, hfound, rfl, rfl⟩

/-- The path of a name in a directory enters the directory and ends with the name. -/
theorem exists_split_joinPath (disk : Disk) (directory : List Char) {name : List Char}
    (hslash : '/' ∉ name) :
    ∃ front, Text.split '/' (Sink.joinPath directory name) = front ++ [name] ∧
      disk.enterAll? front = disk.enterAll? (Text.split '/' directory) := by
  have hhead : name.head? ≠ some '/' := fun h => hslash (List.mem_of_head? h)
  have hname : Text.split '/' name = [name] := Text.split_eq_self hslash
  by_cases hnil : directory = []
  · refine ⟨[], ?_, ?_⟩
    · simp [Sink.joinPath, hnil, hname]
    · rw [hnil]
      exact (enterAll?_append_nil []).symm
  · by_cases hlast : directory.getLast? = some '/'
    · -- The slash that separates them is there already.
      rcases List.getLast?_eq_some_iff.1 hlast with ⟨front, rfl⟩
      have hjoin : Sink.joinPath (front ++ ['/']) name = front ++ '/' :: name := by
        simp [Sink.joinPath, hhead]
      refine ⟨Text.split '/' front, ?_, ?_⟩
      · rw [hjoin, Text.split_append_cons, hname]
      · rw [Text.split_append_cons]
        exact (enterAll?_append_nil _).symm
    · have hjoin : Sink.joinPath directory name = directory ++ '/' :: name := by
        simp [Sink.joinPath, hhead, hnil, hlast]
      refine ⟨Text.split '/' directory, ?_, rfl⟩
      rw [hjoin, Text.split_append_cons, hname]

theorem mem_joinPath_iff {directory name : List Char} {c : Char} (hslash : '/' ∉ name)
    (hc : c ≠ '/') : c ∈ Sink.joinPath directory name ↔ c ∈ directory ∨ c ∈ name := by
  have hhead : name.head? ≠ some '/' := fun h => hslash (List.mem_of_head? h)
  unfold Sink.joinPath
  split
  · rename_i h
    have hnil : directory = [] := by simpa [hhead] using h
    simp [hnil]
  · split
    · exact List.mem_append
    · simp [hc]

/-- The path of a name in a directory leads to that name in that directory. -/
theorem locate?_joinPath {directory name segment : List Char} (hslash : '/' ∉ name)
    (hnul : '\x00' ∉ name) :
    disk.locate? (String.ofList (Sink.joinPath directory name)) = some (place, segment) ↔
      segment = name ∧ disk.lookup? (String.ofList directory) = some (place, .directory) := by
  rcases exists_split_joinPath disk directory hslash with ⟨front, hsplit, henter⟩
  rw [locate?_eq_some_iff, lookup?_eq_some_directory_iff, String.toList_ofList, String.toList_ofList,
    mem_joinPath_iff hslash (by decide), hsplit, List.dropLast_concat, List.getLastD_concat, henter]
  simp only [hnul, or_false]
  constructor
  · rintro ⟨hdirectory, hplace, rfl⟩
    exact ⟨rfl, hdirectory, hplace⟩
  · rintro ⟨rfl, hdirectory, hplace⟩
    exact ⟨hdirectory, hplace, rfl⟩

end Disk

/-! ## Claimed names -/

namespace Sink

/-- A sink asks for nothing but its directory and the file with the given name in it. -/
theorem request_of_write_ends {sink : Sink} {name : String} {content : Bytes}
    {log : List Exchange} {result : Except SinkFault String × Sink}
    (h : Script.Ends (sink.write name content) log result) {exchange : Exchange}
    (hmem : exchange ∈ log) :
    exchange.request = .makeDirectory sink.directory ∨
      exchange.request = .writeFile (sink.pathOf name) (Encoded.encode content) := by
  have hlog : log = [⟨.makeDirectory sink.directory, false⟩] ∨ ∃ done,
      log = sink.opening ++ [⟨.writeFile (sink.pathOf name) (Encoded.encode content), done⟩] := by
    rcases write_ends h with ⟨-, hlog, -⟩ | ⟨hlog, -⟩ | ⟨hlog, -⟩
    · exact .inl hlog
    · exact .inr ⟨false, hlog⟩
    · exact .inr ⟨true, hlog⟩
  rcases hlog with rfl | ⟨done, rfl⟩
  · left
    rw [List.mem_singleton.1 hmem]
  · rcases List.mem_append.1 hmem with hopening | hwrite
    · left
      rw [eq_of_mem_opening hopening]
    · right
      rw [List.mem_singleton.1 hwrite]

/-- Making a name safe a second time changes nothing.  Whatever names are proposed, each name that
is claimed for them stays as it is when it is made safe, and it is one ordinary name: it has no
separators, reserved or control characters and no white space at its ends, and it is neither empty
nor made of dots only.  A sink asks for nothing but its directory and the file of that name, and on
every disk the path of the file leads to that name right in the directory. -/
theorem claimed_stay_inside (sink : Sink) (proposed : List String) :
    (∀ text, FileName.sanitize (FileName.sanitize text) = FileName.sanitize text) ∧
      ∀ name ∈ (UniqueNames.empty.claimAll (proposed.map FileName.sanitize)).1,
        FileName.sanitize name = name ∧ name ≠ "" ∧ (∃ c ∈ name.toList, c ≠ '.') ∧
          (∀ c ∈ name.toList, c ∉ ['/', '\\', ':', '*', '?', '"', '<', '>', '|'] ∧
            Text.isControl c = false) ∧
          (∀ c ∈ name.toList.head?, Text.isBlank c = false) ∧
          (∀ c ∈ name.toList.getLast?, Text.isBlank c = false) ∧
          (∀ (content : Bytes) (log : List Exchange) (result : Except SinkFault String × Sink),
            Script.Ends (sink.write name content) log result → ∀ exchange ∈ log,
              exchange.request = .makeDirectory sink.directory ∨
                exchange.request = .writeFile (sink.pathOf name) (Encoded.encode content)) ∧
          ∀ (disk : Disk) (place : Place) (segment : List Char),
            disk.locate? (sink.pathOf name) = some (place, segment) ↔
              segment = name.toList ∧ disk.lookup? sink.directory = some (place, .directory) := by
  refine ⟨fun text => FileName.sanitize_eq_self_iff.2 (FileName.isSafe_sanitize text), ?_⟩
  intro name hname
  have hsafe : FileName.IsSafe name.toList :=
    UniqueNames.isSafe_claimAll_sanitize UniqueNames.empty proposed name hname
  refine ⟨FileName.sanitize_eq_self_iff.2 hsafe, ?_, hsafe.named, hsafe.ordinary, hsafe.start,
    hsafe.finish, ?_, ?_⟩
  · rintro rfl
    exact hsafe.ne_nil rfl
  · intro content log result hends exchange hmem
    exact request_of_write_ends hends hmem
  · intro disk place segment
    have hnul : '\x00' ∉ name.toList := by
      intro hmem
      exact absurd (hsafe.ordinary _ hmem).2 (by decide)
    have hlocate : disk.locate? (sink.pathOf name) = some (place, segment) ↔ segment = name.toList ∧
        disk.lookup? (String.ofList sink.directory.toList) = some (place, .directory) :=
      Disk.locate?_joinPath hsafe.slash_notMem hnul
    rwa [String.ofList_toList] at hlocate

/-- Two names that would leave the directory and differ in letter case only: the second one gets a
number in front of its last dot. -/
theorem claimed_stay_inside_dots :
    ".._X_1." ∈ (UniqueNames.empty.claimAll (["..\\x.", "../X."].map FileName.sanitize)).1 ∧
      FileName.sanitize ".._X_1." = ".._X_1." ∧
      ∀ (disk : Disk) (place : Place) (segment : List Char),
        disk.locate? ((ofDirectory "EFE/1_a.doc").pathOf ".._X_1.") = some (place, segment) ↔
          segment = ".._X_1.".toList ∧ disk.lookup? "EFE/1_a.doc" = some (place, .directory) := by
  have hclaimed : ".._X_1." ∈
      (UniqueNames.empty.claimAll (["..\\x.", "../X."].map FileName.sanitize)).1 := by
    decide +kernel
  rcases (claimed_stay_inside (ofDirectory "EFE/1_a.doc") ["..\\x.", "../X."]).2 _ hclaimed with
    ⟨hfixed, -, -, -, -, -, -, hlocate⟩
  exact ⟨hclaimed, hfixed, hlocate⟩

end Sink
end OfficePictures
