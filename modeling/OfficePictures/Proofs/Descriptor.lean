import OfficePictures.Proofs.Config
import OfficePictures.Proofs.Document

/-!
# Descriptor — which paths leave the case

The path of a picture in the case is made of the directory of the module, the unique name of the
document and the name of the file.  The last two are safe names, so the path goes back only if the
directory does.  A configuration is checked at slashes alone, while backslashes become slashes in
the path.

* `Config.split_withSlashes` — a text with slashes for backslashes is cut at both;
* `dots_mem_pathInCase_iff` — when a path in the case goes back;
* `dots_mem_casePath_iff` — for the configurations that pass the check: only by dots between
  backslashes, which no configuration has that was made or read;
* `not_forall_dots_notMem` — such a configuration passes the check.
-/

namespace OfficePictures

/-! ## Slashes for backslashes -/

/-- A text with slashes for backslashes is cut at both. -/
theorem Config.split_withSlashes (text : List Char) :
    Text.split '/' (withSlashes text) = (Text.split '/' text).flatMap (Text.split '\\') := by
  induction text with
  | nil => rfl
  | cons c text ih =>
      have hcons : withSlashes (c :: text) = (if c = '\\' then '/' else c) :: withSlashes text := rfl
      rw [hcons]
      by_cases hslash : c = '/'
      · subst hslash
        simp [Text.split, ih]
      · rcases Text.split_cons_of_ne hslash text with ⟨segment, segments, hsplit, hfirst⟩
        rw [hsplit, List.flatMap_cons] at ih
        rw [hfirst, List.flatMap_cons]
        by_cases hback : c = '\\'
        · subst hback
          simp [Text.split, ih]
        · rcases Text.split_cons_of_ne hback segment with ⟨piece, pieces, hpieces, hcut⟩
          rw [hpieces] at ih
          rw [if_neg hback, Text.split, if_neg hslash, ih, hcut]
          rfl

namespace Descriptor

/-! ## Paths in the case -/

/-- Slashes at the ends of a directory do not count. -/
theorem exists_eq_append_trimSlashes (text : List Char) :
    ∃ front back, (∀ c ∈ front, c = '/') ∧ (∀ c ∈ back, c = '/') ∧
      text = front ++ trimSlashes text ++ back := by
  have hslashes : ∀ list : List Char, ∀ c ∈ list.takeWhile (· = '/'), c = '/' := by
    intro list c hc
    exact of_decide_eq_true (List.all_eq_true.1 List.all_takeWhile c hc)
  let rest := (text.dropWhile (· = '/')).reverse
  refine ⟨text.takeWhile (· = '/'), (rest.takeWhile (· = '/')).reverse, hslashes text, ?_, ?_⟩
  · intro c hc
    exact hslashes rest c (List.mem_reverse.1 hc)
  · calc
      text = text.takeWhile (· = '/') ++ rest.reverse := by simp [rest]
      _ = text.takeWhile (· = '/') ++
            (rest.takeWhile (· = '/') ++ rest.dropWhile (· = '/')).reverse := by
            rw [List.takeWhile_append_dropWhile]
      _ = text.takeWhile (· = '/') ++ trimSlashes text ++ (rest.takeWhile (· = '/')).reverse := by
            rw [List.reverse_append, List.append_assoc]
            rfl

theorem mem_split_trimSlashes_iff {text segment : List Char} (hne : segment ≠ []) :
    segment ∈ Text.split '/' (trimSlashes text) ↔ segment ∈ Text.split '/' text := by
  rcases exists_eq_append_trimSlashes text with ⟨front, back, hfront, hback, htext⟩
  have hpadded : segment ∈ Text.split '/' (front ++ trimSlashes text ++ back) ↔
      segment ∈ Text.split '/' (trimSlashes text) :=
    Text.mem_split_padded_iff hfront hback hne
  rw [← htext] at hpadded
  exact hpadded.symm

/-- A path in the case goes back if and only if a segment of the directory, cut at backslashes as
well, does. -/
theorem dots_mem_pathInCase_iff (moduleDirectory : String) {uniqueName fileName : String}
    (huniqueName : FileName.IsSafe uniqueName.toList) (hfileName : FileName.IsSafe fileName.toList) :
    ['.', '.'] ∈ Text.split '/' (pathInCase moduleDirectory uniqueName fileName).toList ↔
      ∃ segment ∈ Text.split '/' moduleDirectory.toList, ['.', '.'] ∈ Text.split '\\' segment := by
  have hsafe : ∀ {name : List Char}, FileName.IsSafe name → ['.', '.'] ∉ Text.split '/' name := by
    intro name hname hmem
    rw [Text.split_eq_self hname.slash_notMem, List.mem_singleton] at hmem
    rcases hname.named with ⟨c, hc, hne⟩
    rw [← hmem] at hc
    exact hne (by simpa using hc)
  let directory := trimSlashes (Config.withSlashes moduleDirectory.toList)
  let inModule := if directory = [] then [] else '/' :: directory
  have hpath : (pathInCase moduleDirectory uniqueName fileName).toList =
      inModule ++ '/' :: (uniqueName.toList ++ '/' :: fileName.toList) := by
    simp [pathInCase, inModule, directory]
  have hmodule : ['.', '.'] ∈ Text.split '/' inModule ↔ ['.', '.'] ∈ Text.split '/' directory := by
    by_cases hnil : directory = []
    · simp [inModule, hnil]
    · simp [inModule, hnil, Text.split]
  calc
    ['.', '.'] ∈ Text.split '/' (pathInCase moduleDirectory uniqueName fileName).toList
        ↔ ['.', '.'] ∈ Text.split '/' inModule := by
          rw [hpath, Text.split_append_cons, Text.split_append_cons, List.mem_append,
            List.mem_append, or_iff_left (not_or_intro (hsafe huniqueName) (hsafe hfileName))]
    _ ↔ ['.', '.'] ∈ Text.split '/' (Config.withSlashes moduleDirectory.toList) :=
          hmodule.trans (mem_split_trimSlashes_iff (List.cons_ne_nil _ _))
    _ ↔ ∃ segment ∈ Text.split '/' moduleDirectory.toList,
          ['.', '.'] ∈ Text.split '\\' segment := by
          rw [Config.split_withSlashes, List.mem_flatMap]

end Descriptor

/-! ## Configurations that pass the check -/

namespace Config

theorem dots_notMem_of_defect? {config : Config} (h : config.defect? = none) :
    ['.', '.'] ∉ Text.split '/' config.relativeDirectory.toList := by
  intro hmem
  have hcontains : (Text.split '/' config.relativeDirectory.toList).contains ['.', '.'] = true :=
    List.contains_iff_mem.2 hmem
  rw [defect?, hcontains] at h
  split at h
  · cases h
  · split at h
    · cases h
    · cases h

theorem IsBuilt.backslash_notMem {config : Config} (h : config.IsBuilt) :
    '\\' ∉ config.relativeDirectory.toList := by
  rcases h.checked.2 with ⟨given, hnormal⟩
  rw [hnormal]
  exact backslash_notMem_normalize given

/-- With a configuration that passes the check, whatever the document and its pictures are called, a
path in the case goes back if and only if there are dots between backslashes in the directory of the
module.  With a configuration that was made or read, none does. -/
theorem dots_mem_casePath_iff {config : Config} (h : config.defect? = none) (document : Document)
    (proposed : List String) {fileName : String}
    (hfileName : fileName ∈
      (UniqueNames.empty.claimAll (proposed.map FileName.sanitize)).1) :
    (['.', '.'] ∈ Text.split '/' (Descriptor.pathInCase config.relativeDirectory
        document.uniqueName fileName).toList ↔
      ∃ segment ∈ Text.split '/' config.relativeDirectory.toList,
        '\\' ∈ segment ∧ ['.', '.'] ∈ Text.split '\\' segment) ∧
    (config.IsBuilt → ['.', '.'] ∉ Text.split '/'
      (Descriptor.pathInCase config.relativeDirectory document.uniqueName fileName).toList) := by
  have hsafe : FileName.IsSafe fileName.toList :=
    UniqueNames.isSafe_claimAll_sanitize UniqueNames.empty proposed fileName hfileName
  have hdots := Descriptor.dots_mem_pathInCase_iff config.relativeDirectory
    (Document.isSafe_uniqueName document) hsafe
  -- The segments themselves were checked, so dots are only found by cutting them.
  have hcut : ∀ segment ∈ Text.split '/' config.relativeDirectory.toList,
      ['.', '.'] ∈ Text.split '\\' segment → '\\' ∈ segment := by
    intro segment hsegment hmem
    by_contra hback
    rw [Text.split_eq_self hback, List.mem_singleton] at hmem
    exact dots_notMem_of_defect? h (hmem ▸ hsegment)
  refine ⟨hdots.trans ?_, ?_⟩
  · constructor
    · rintro ⟨segment, hsegment, hmem⟩
      exact ⟨segment, hsegment, hcut segment hsegment hmem, hmem⟩
    · rintro ⟨segment, hsegment, -, hmem⟩
      exact ⟨segment, hsegment, hmem⟩
  · intro hbuilt hmem
    rcases hdots.1 hmem with ⟨segment, hsegment, hmem⟩
    exact hbuilt.backslash_notMem (Text.mem_of_mem_split hsegment (hcut segment hsegment hmem))

/-- Hostile names under a directory with a harmless backslash. -/
theorem dots_mem_casePath_iff_harmless :
    Config.defect? ⟨"/case/out", "EFE\\fotos", 1, 1, "tool"⟩ = none ∧
      "_" ∈ (UniqueNames.empty.claimAll (["..", "../a.png"].map FileName.sanitize)).1 ∧
      ['.', '.'] ∉ Text.split '/' (Descriptor.pathInCase "EFE\\fotos"
        (Document.ofBytes 7 "../../b.doc" []).uniqueName "_").toList := by
  have hdefect : Config.defect? ⟨"/case/out", "EFE\\fotos", 1, 1, "tool"⟩ = none := by
    decide +kernel
  have hclaimed : "_" ∈
      (UniqueNames.empty.claimAll (["..", "../a.png"].map FileName.sanitize)).1 := by
    decide +kernel
  refine ⟨hdefect, hclaimed, ?_⟩
  intro hmem
  rcases (dots_mem_casePath_iff hdefect (Document.ofBytes 7 "../../b.doc" []) _ hclaimed).1.1 hmem
    with ⟨segment, hsegment, -, hdots⟩
  have hnone : ∀ segment ∈ Text.split '/' "EFE\\fotos".toList,
      ['.', '.'] ∉ Text.split '\\' segment := by
    decide +kernel
  exact hnone segment hsegment hdots

/-- A configuration whose directory leaves the case passes the check: its dots stand between
backslashes, where they are not looked for. -/
theorem not_forall_dots_notMem :
    ¬ ∀ (config : Config) (document : Document) (proposed : List String) (fileName : String),
      config.defect? = none →
        fileName ∈ (UniqueNames.empty.claimAll (proposed.map FileName.sanitize)).1 →
          ['.', '.'] ∉ Text.split '/' (Descriptor.pathInCase config.relativeDirectory
            document.uniqueName fileName).toList := by
  intro hall
  refine hall ⟨"/case/out", "EFE\\..\\..", 1, 1, "tool"⟩ (Document.ofBytes 1 "carta.doc" [])
    ["a.png"] "a.png" ?_ ?_ ?_
  · decide +kernel
  · decide +kernel
  · decide +kernel

end Config
end OfficePictures
