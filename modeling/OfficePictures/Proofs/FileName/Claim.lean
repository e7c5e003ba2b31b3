import Mathlib.Data.List.Nodup
import Mathlib.Data.List.Perm.Subperm
import Mathlib.Tactic.Push
import OfficePictures.FileName
import OfficePictures.Proofs.Text.Lowercase

/-!
# Claim — names that are given out are new

A name that is taken gets a number behind its stem.  Different numbers give names with different
lower cases, so among one more number than there are names taken one is free.

* `numbered_lower_inj` — the number of a numbered name can be told, also in lower case;
* `freeNumber_free` — the number that is looked for is found;
* `UniqueNames.claimAll_fresh` — names that are claimed one after the other differ, also in lower
  case, from each other and from all that were taken.
-/

namespace OfficePictures
namespace FileName

/-! ## Numbered names -/

/-- What is behind the number of a numbered name: the dot and the extension, if there is one. -/
def suffix (name : List Char) : List Char :=
  ((parts name).2.map ('.' :: ·)).getD []

theorem numbered_eq (name : List Char) (number : Nat) :
    numbered name number =
      (parts name).1 ++ '_' :: (Nat.toDigits 10 number ++ suffix name) := by
  simp [numbered, suffix, Text.decimal]

theorem lower_numbered (name : List Char) (number : Nat) :
    Text.lower (numbered name number) =
      Text.lower (parts name).1 ++
        (Text.lowerChar '_' ++ (Nat.toDigits 10 number ++ Text.lower (suffix name))) := by
  rw [numbered_eq, Text.lower_append_cons Text.endsWord_underscore,
    Text.lower_digits_append fun _ => Text.mem_digits_of_mem_toDigits]

theorem numbered_lower_inj {name : List Char} {i j : Nat}
    (h : Text.lower (numbered name i) = Text.lower (numbered name j)) : i = j := by
  rw [lower_numbered, lower_numbered] at h
  have hdigits := List.append_cancel_right (List.append_cancel_left (List.append_cancel_left h))
  exact Text.toDigits_inj hdigits

/-! ## Free numbers -/

/-- As many numbers as there are names taken, and one more, cannot all be taken. -/
theorem exists_free (taken : List (List Char)) (name : List Char) :
    ∃ number ∈ List.range (taken.length + 1),
      Text.lower (numbered name (1 + number)) ∉ taken := by
  by_contra hnone
  push Not at hnone
  -- Else so many different names would be among fewer.
  let candidates :=
    (List.range (taken.length + 1)).map fun number => Text.lower (numbered name (1 + number))
  have hnodup : candidates.Nodup := by
    refine List.nodup_range.map ?_
    intro i j hij
    exact Nat.add_left_cancel (numbered_lower_inj hij)
  have hsubset : candidates ⊆ taken := by
    intro candidate hmem
    rcases List.mem_map.1 hmem with ⟨number, hnumber, rfl⟩
    exact hnone number hnumber
  have hlength := (hnodup.subperm hsubset).length_le
  simp only [candidates, List.length_map, List.length_range] at hlength
  exact Nat.not_succ_le_self _ hlength

/-- The name with the number that is looked for is not among those taken. -/
theorem freeNumber_free (taken : List (List Char)) (name : List Char) :
    Text.lower (numbered name (freeNumber taken name)) ∉ taken := by
  unfold freeNumber
  cases hfound : (List.range (taken.length + 1)).find? fun number =>
      !taken.contains (Text.lower (numbered name (1 + number))) with
  | none =>
      rcases exists_free taken name with ⟨number, hnumber, hfree⟩
      have htaken := List.find?_eq_none.1 hfound number hnumber
      simp [hfree] at htaken
  | some number =>
      have hfree := List.find?_some hfound
      simpa using hfree

end FileName

/-! ## Claimed names -/

namespace UniqueNames

theorem lower_choose_notMem (names : UniqueNames) (name : List Char) :
    Text.lower (names.choose name) ∉ names.taken := by
  unfold choose
  by_cases htaken : names.taken.contains (Text.lower name) = true
  · rw [if_pos htaken]
    exact FileName.freeNumber_free names.taken name
  · rw [if_neg htaken]
    simpa using htaken

/-- Names that are claimed one after the other differ in lower case from each other and from all
that were taken before. -/
theorem claimAll_fresh (names : UniqueNames) (proposed : List String) :
    ((names.claimAll proposed).1.map fun name => Text.lower name.toList).Nodup ∧
      ∀ name ∈ (names.claimAll proposed).1, Text.lower name.toList ∉ names.taken := by
  -- What is claimed first is among the names taken for all others.
  induction proposed generalizing names with
  | nil => exact ⟨List.nodup_nil, by simp [claimAll]⟩
  | cons name proposed ih =>
      rcases ih (names.take (names.choose name.toList)) with ⟨hnodup, hfresh⟩
      have hothers : ∀ other ∈ ((names.take (names.choose name.toList)).claimAll proposed).1,
          Text.lower other.toList ≠ Text.lower (names.choose name.toList) ∧
            Text.lower other.toList ∉ names.taken := by
        intro other hother
        simpa [take] using hfresh other hother
      refine ⟨?_, ?_⟩
      · simp only [claimAll, claim, List.map_cons, List.nodup_cons, String.toList_ofList,
          List.mem_map]
        refine ⟨?_, hnodup⟩
        rintro ⟨other, hother, heq⟩
        exact (hothers other hother).1 heq
      · simp only [claimAll, claim, List.forall_mem_cons, String.toList_ofList]
        exact ⟨lower_choose_notMem names _, fun other hother => (hothers other hother).2⟩

theorem length_claimAll (names : UniqueNames) (proposed : List String) :
    (names.claimAll proposed).1.length = proposed.length := by
  induction proposed generalizing names with
  | nil => rfl
  | cons name proposed ih => simp [claimAll, ih]

end UniqueNames
end OfficePictures
