import OfficePictures.Proofs.FileName.Claim
import OfficePictures.Proofs.Text.Blank

/-!
# Safe — names that stay in their directory

Whatever a container calls its pictures, a safe name is made of it, and the names that are given
out for safe names are safe.

* `isSafe_clean`, `clean_eq_self_iff` — every text is made into a safe name, and safe names stay as
  they are;
* `IsSafe.numbered` — a safe name stays safe with a number behind its stem;
* `UniqueNames.isSafe_claimAll` — names claimed for safe names are safe.
-/

namespace OfficePictures
namespace FileName

/-- A safe name: it has no separators, reserved or control characters, no white space at its ends,
and it is not made of dots only. -/
structure IsSafe (name : List Char) : Prop where
  ordinary : ∀ c ∈ name, c ∉ reserved ∧ Text.isControl c = false
  start : ∀ c ∈ name.head?, Text.isBlank c = false
  finish : ∀ c ∈ name.getLast?, Text.isBlank c = false
  named : ∃ c ∈ name, c ≠ '.'

theorem IsSafe.ne_nil {name : List Char} (h : IsSafe name) : name ≠ [] := by
  rintro rfl
  rcases h.named with ⟨c, hc, -⟩
  cases hc

theorem IsSafe.slash_notMem {name : List Char} (h : IsSafe name) : '/' ∉ name := by
  intro hslash
  exact (h.ordinary '/' hslash).1 (List.mem_cons_self ..)

/-! ## Cleaned names -/

theorem ordinary_underscore : '_' ∉ reserved ∧ Text.isControl '_' = false := by
  decide

theorem ordinary_cleanChar (c : Char) :
    cleanChar c ∉ reserved ∧ Text.isControl (cleanChar c) = false := by
  unfold cleanChar
  by_cases h : reserved.contains c || Text.isControl c
  · rw [if_pos h]
    exact ordinary_underscore
  · rw [if_neg h]
    simpa using h

theorem isSafe_underscore : IsSafe ['_'] := by
  have hblank : Text.isBlank '_' = false := by
    decide
  refine ⟨List.forall_mem_singleton.2 ordinary_underscore, ?_, ?_, '_', List.mem_cons_self .., ?_⟩
  · rintro c ⟨⟩
    exact hblank
  · rintro c ⟨⟩
    exact hblank
  · decide

theorem isSafe_clean (name : List Char) : IsSafe (clean name) := by
  simp only [clean]
  by_cases hdots : (Text.trim (name.map cleanChar)).all (· = '.') = true
  · rw [if_pos hdots]
    exact isSafe_underscore
  · rw [if_neg hdots]
    refine ⟨?_, fun c hc => Text.head?_trim hc, fun c hc => Text.getLast?_trim hc, ?_⟩
    · intro c hc
      rcases List.mem_map.1 (Text.mem_of_mem_trim hc) with ⟨original, -, rfl⟩
      exact ordinary_cleanChar original
    · simpa using hdots

theorem cleanChar_eq_self {c : Char} (h : c ∉ reserved ∧ Text.isControl c = false) :
    cleanChar c = c := by
  refine if_neg ?_
  simp [h.1, h.2]

/-- The texts that stay as they are are the safe names. -/
theorem clean_eq_self_iff {name : List Char} : clean name = name ↔ IsSafe name := by
  constructor
  · intro h
    rw [← h]
    exact isSafe_clean name
  · intro h
    have hclean : name.map cleanChar = name :=
      (List.map_congr_left fun c hc => cleanChar_eq_self (h.ordinary c hc)).trans (List.map_id _)
    have hdots : ¬ name.all (· = '.') = true := by
      rcases h.named with ⟨c, hc, hne⟩
      intro hall
      exact hne (of_decide_eq_true (List.all_eq_true.1 hall c hc))
    simp only [clean, hclean, Text.trim_eq_self h.start h.finish]
    exact if_neg hdots

theorem isSafe_sanitize (name : String) : IsSafe (sanitize name).toList := by
  rw [sanitize, String.toList_ofList]
  exact isSafe_clean _

theorem sanitize_eq_self_iff {name : String} : sanitize name = name ↔ IsSafe name.toList := by
  rw [← clean_eq_self_iff, ← String.toList_inj, sanitize, String.toList_ofList]

/-! ## Numbered names -/

theorem ordinary_of_mem_digits {c : Char} (h : c ∈ Text.digits) :
    (c ∉ reserved ∧ Text.isControl c = false) ∧ Text.isBlank c = false := by
  have hall : Text.digits.all (fun d =>
      decide (d ∉ reserved ∧ Text.isControl d = false) && !Text.isBlank d) = true := by
    decide
  have hc := List.all_eq_true.1 hall c h
  simp only [Bool.and_eq_true, decide_eq_true_eq, Bool.not_eq_true'] at hc
  exact hc

/-- A name is its stem followed by what is behind its number. -/
theorem stem_append_suffix (name : List Char) : (parts name).1 ++ suffix name = name := by
  unfold suffix parts
  cases hcut : Text.splitLast? '.' name with
  | none => simp
  | some cut =>
      rcases cut with ⟨stem, extension⟩
      by_cases hstem : stem = []
      · simp [hstem]
      · simp [hstem, Text.eq_of_splitLast? hcut]

theorem stem_ne_nil {name : List Char} (h : name ≠ []) : (parts name).1 ≠ [] := by
  unfold parts
  cases Text.splitLast? '.' name with
  | none => exact h
  | some cut =>
      rcases cut with ⟨stem, extension⟩
      by_cases hstem : stem = []
      · simpa [hstem] using h
      · simp [hstem]

theorem IsSafe.numbered {name : List Char} (h : IsSafe name) (number : Nat) :
    IsSafe (numbered name number) := by
  have hname := stem_append_suffix name
  have hstem := stem_ne_nil h.ne_nil
  rw [numbered_eq]
  refine ⟨?_, ?_, ?_, ?_⟩
  · intro c hc
    simp only [List.mem_append, List.mem_cons] at hc
    rcases hc with hc | rfl | hc | hc
    · exact h.ordinary c (hname ▸ List.mem_append_left _ hc)
    · exact ordinary_underscore
    · exact (ordinary_of_mem_digits (Text.mem_digits_of_mem_toDigits hc)).1
    · exact h.ordinary c (hname ▸ List.mem_append_right _ hc)
  · -- The stem is in front as before.
    intro c hc
    refine h.start c ?_
    rw [← hname, List.head?_append_of_ne_nil _ hstem]
    rwa [List.head?_append_of_ne_nil _ hstem] at hc
  · intro c hc
    by_cases hsuffix : suffix name = []
    · -- The name ends with the last digit of its number.
      rw [hsuffix, List.append_nil, List.append_cons,
        List.getLast?_append_of_ne_nil _ Nat.toDigits_ne_nil] at hc
      have hdigit := Text.mem_digits_of_mem_toDigits (List.mem_of_getLast? hc)
      exact (ordinary_of_mem_digits hdigit).2
    · -- The suffix is at the end as before.
      refine h.finish c ?_
      rw [← hname, List.getLast?_append_of_ne_nil _ hsuffix]
      rwa [List.append_cons, ← List.append_assoc, List.getLast?_append_of_ne_nil _ hsuffix] at hc
  · exact ⟨'_', by simp, by decide⟩

end FileName

/-! ## Claimed names -/

namespace UniqueNames

theorem isSafe_choose (names : UniqueNames) {name : List Char} (h : FileName.IsSafe name) :
    FileName.IsSafe (names.choose name) := by
  unfold choose
  split
  · exact h.numbered _
  · exact h

/-- Names that are claimed for safe names are safe. -/
theorem isSafe_claimAll (names : UniqueNames) {proposed : List String}
    (h : ∀ name ∈ proposed, FileName.IsSafe name.toList) :
    ∀ name ∈ (names.claimAll proposed).1, FileName.IsSafe name.toList := by
  induction proposed generalizing names with
  | nil => simp [claimAll]
  | cons name proposed ih =>
      rcases List.forall_mem_cons.1 h with ⟨hname, hproposed⟩
      simp only [claimAll, claim, List.forall_mem_cons, String.toList_ofList]
      exact ⟨isSafe_choose names hname, ih _ hproposed⟩

/-- Whatever is proposed, it is made safe before it is claimed. -/
theorem isSafe_claimAll_sanitize (names : UniqueNames) (proposed : List String) :
    ∀ name ∈ (names.claimAll (proposed.map FileName.sanitize)).1, FileName.IsSafe name.toList := by
  refine isSafe_claimAll names ?_
  intro name hname
  rcases List.mem_map.1 hname with ⟨text, -, rfl⟩
  exact FileName.isSafe_sanitize text

end UniqueNames
end OfficePictures
