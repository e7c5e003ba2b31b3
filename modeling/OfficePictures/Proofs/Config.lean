import OfficePictures.Descriptor
import OfficePictures.Proofs.Text.Segments

/-!
# Config — configurations as they are built

A configuration is not put together by hand: it is made from its parts and checked, or read from a
text, which checks it.  Then the directory in the case is in its normal form, so nothing is changed
about it where paths in the case are made of it.

* `Config.IsBuilt` — the configurations that an extraction gets;
* `Config.IsBuilt.pathInCase_eq` — paths in the case begin with the directory as it is configured;
* `Descriptor.pathInCase_inj` — a path in the case tells the document and the file.
-/

namespace OfficePictures
namespace Config

/-- A configuration that was made and checked. -/
inductive IsBuilt : Config → Prop
  | made {directory relativeDirectory : String} {maxPictureBytes maxStreamBytes : Option Nat}
      {toolName : Option String}
      (h : (ofParts directory relativeDirectory maxPictureBytes maxStreamBytes toolName).defect? =
        none) :
      IsBuilt (ofParts directory relativeDirectory maxPictureBytes maxStreamBytes toolName)
  | read {text : String} {config : Config} (h : ofText text = .ok config) : IsBuilt config

/-- Whatever is read from a value is made from parts. -/
theorem exists_ofParts_of_ofJson? {value : Json} {config : Config} (h : ofJson? value = some config) :
    ∃ directory relativeDirectory maxPictureBytes maxStreamBytes toolName,
      config = ofParts directory relativeDirectory maxPictureBytes maxStreamBytes toolName := by
  simp only [ofJson?, Option.bind_eq_bind, Option.bind_eq_some_iff, Option.pure_def,
    Option.some.injEq] at h
  rcases h with ⟨_, -, directory, -, relative, -, picture, -, stream, -, tool, -, rfl⟩
  exact ⟨directory, relative, picture, stream, tool, rfl⟩

/-- A built configuration has no defect, and its directory in the case is in normal form. -/
theorem IsBuilt.checked {config : Config} (h : IsBuilt config) :
    config.defect? = none ∧ ∃ given, config.relativeDirectory = normalize given := by
  cases h with
  | made h => exact ⟨h, _, rfl⟩
  | @read text _ h =>
      -- A text that is no configuration, or one with a defect, gives an error.
      unfold ofText at h
      cases hread : (Json.parse? text.toList).bind ofJson? with
      | none =>
          rw [hread] at h
          cases h
      | some parsed =>
          rw [hread] at h
          simp only [check] at h
          cases hdefect : parsed.defect? with
          | some defect =>
              rw [hdefect] at h
              cases h
          | none =>
              rw [hdefect] at h
              cases h
              rcases Option.bind_eq_some_iff.1 hread with ⟨value, -, hvalue⟩
              rcases exists_ofParts_of_ofJson? hvalue with ⟨_, given, _, _, _, rfl⟩
              exact ⟨hdefect, given, rfl⟩

theorem IsBuilt.directory_ne {config : Config} (h : IsBuilt config) : config.directory ≠ "" := by
  intro hempty
  have hdefect := h.checked.1
  rw [defect?, if_pos hempty] at hdefect
  cases hdefect

theorem IsBuilt.relativeDirectory_ne {config : Config} (h : IsBuilt config) :
    config.relativeDirectory ≠ "" := by
  intro hempty
  have hdefect := h.checked.1
  rw [defect?, if_neg h.directory_ne, if_pos hempty] at hdefect
  cases hdefect

/-! ## Normal forms -/

theorem backslash_notMem_withSlashes (text : List Char) : '\\' ∉ withSlashes text := by
  intro hmem
  rcases List.mem_map.1 hmem with ⟨c, -, hc⟩
  by_cases hback : c = '\\'
  · simp [hback] at hc
  · rw [if_neg hback] at hc
    exact hback hc

theorem withSlashes_eq_self {text : List Char} (h : '\\' ∉ text) : withSlashes text = text := by
  have hself : ∀ c ∈ text, (if c = '\\' then '/' else c) = c := by
    intro c hc
    refine if_neg ?_
    rintro rfl
    exact h hc
  rw [withSlashes, List.map_congr_left hself]
  exact List.map_id' text

def segmentsOf (directory : String) : List (List Char) :=
  (Text.split '/' (withSlashes directory.toList)).filter (· ≠ [])

theorem normalize_toList (directory : String) :
    (normalize directory).toList = Text.join '/' (segmentsOf directory) :=
  String.toList_ofList

theorem mem_segmentsOf {directory : String} {segment : List Char}
    (h : segment ∈ segmentsOf directory) : segment ≠ [] ∧ '/' ∉ segment := by
  rcases List.mem_filter.1 h with ⟨hsplit, hne⟩
  exact ⟨by simpa using hne, Text.sep_notMem_of_mem_split hsplit⟩

theorem backslash_notMem_normalize (directory : String) :
    '\\' ∉ (normalize directory).toList := by
  rw [normalize_toList]
  intro hmem
  rcases Text.mem_join hmem with hslash | ⟨segment, hsegment, hback⟩
  · exact absurd hslash (by decide)
  · exact backslash_notMem_withSlashes _
      (Text.mem_of_mem_split (List.mem_filter.1 hsegment).1 hback)

end Config

/-! ## Paths in the case -/

namespace Descriptor

theorem trimSlashes_eq_self {text : List Char} (hhead : text.head? ≠ some '/')
    (hlast : text.getLast? ≠ some '/') : trimSlashes text = text := by
  have hkeep : ∀ {list : List Char}, list.head? ≠ some '/' → list.dropWhile (· = '/') = list := by
    intro list hlist
    cases list with
    | nil => rfl
    | cons c list =>
        refine List.dropWhile_cons_of_neg ?_
        simpa using hlist
  rw [← List.head?_reverse] at hlast
  rw [trimSlashes, hkeep hhead, hkeep hlast, List.reverse_reverse]

/-- A path in the case tells the names of document and file, which have no slash. -/
theorem pathInCase_inj {moduleDirectory uniqueName otherUniqueName fileName otherFileName : String}
    (huniqueName : '/' ∉ uniqueName.toList) (hfileName : '/' ∉ fileName.toList)
    (h : pathInCase moduleDirectory uniqueName fileName =
      pathInCase moduleDirectory otherUniqueName otherFileName) :
    uniqueName = otherUniqueName ∧ fileName = otherFileName := by
  have hlists := congrArg String.toList h
  simp only [pathInCase, String.toList_append, List.append_assoc] at hlists
  -- The parts in front, which come from the directory alone, are the same.
  have hnames := List.append_cancel_left (List.append_cancel_left hlists)
  have hcut : uniqueName.toList ++ '/' :: fileName.toList =
      otherUniqueName.toList ++ '/' :: otherFileName.toList := hnames
  rcases (List.append_cons_inj_of_notMem huniqueName hfileName).1 hcut with ⟨hunique, -, hfile⟩
  exact ⟨String.toList_inj.1 hunique, String.toList_inj.1 hfile⟩

end Descriptor

/-- A path in the case begins with the directory as it is configured, between slashes. -/
theorem Config.IsBuilt.pathInCase_eq {config : Config} (h : config.IsBuilt)
    (uniqueName fileName : String) :
    Descriptor.pathInCase config.relativeDirectory uniqueName fileName =
      "/" ++ config.relativeDirectory ++ "/" ++ uniqueName ++ "/" ++ fileName := by
  rcases h.checked.2 with ⟨given, hnormal⟩
  -- A normal form has neither backslashes nor slashes at its ends, and it is not empty.
  have hslashes : withSlashes config.relativeDirectory.toList = config.relativeDirectory.toList := by
    rw [hnormal]
    exact withSlashes_eq_self (backslash_notMem_normalize given)
  have htrim : Descriptor.trimSlashes config.relativeDirectory.toList =
      config.relativeDirectory.toList := by
    rw [hnormal, normalize_toList]
    exact Descriptor.trimSlashes_eq_self (Text.head?_join_ne fun _ => mem_segmentsOf)
      (Text.getLast?_join_ne fun _ => mem_segmentsOf)
  have hne : config.relativeDirectory.toList ≠ [] := by
    simpa using h.relativeDirectory_ne
  have hmodule : String.ofList ('/' :: config.relativeDirectory.toList) =
      "/" ++ config.relativeDirectory := by
    rw [String.ofList_cons, String.ofList_toList]
    rfl
  simp only [Descriptor.pathInCase, hslashes, htrim, if_neg hne, hmodule]

end OfficePictures
