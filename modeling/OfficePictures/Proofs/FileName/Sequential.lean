import OfficePictures.Picture
import OfficePictures.Proofs.FileName.Safe
import OfficePictures.Toolkit.BuiltIn

/-!
# Sequential — names that are nothing but a number

Pictures that a container has no names for are called by their numbers.  Such names are safe, and
those with different numbers differ also in lower case, whatever extensions they have.  So neither
making them safe nor claiming them changes them.

* `lower_sequentialName_inj` — the number can be told, also in lower case and with any extension;
* `isSafe_sequentialName` — a number with a plain extension is a safe name;
* `Toolkit.HasPlainExtensions` — all types of a toolkit have plain extensions;
* `PictureKind.isPlain_suggestExtension` — then the extensions of pictures are plain;
* `UniqueNames.claimAll_eq_self` — names that differ in lower case are given out as they are.
-/

namespace OfficePictures

/-! ## Numbers in lower case -/

namespace Text

/-- Digits in front of a dot end there. -/
theorem takeWhile_toDigits_append (number : Nat) (rest : List Char) :
    (Nat.toDigits 10 number ++ '.' :: rest).takeWhile Char.isDigit = Nat.toDigits 10 number := by
  have hdigits : ∀ c ∈ Nat.toDigits 10 number, c.isDigit = true := by
    intro c hc
    exact Nat.isDigit_of_mem_toDigits (by decide) (by decide) hc
  rw [List.takeWhile_append_of_pos hdigits]
  exact List.append_nil _

/-- A dot is its own lower case, whatever follows it. -/
theorem exists_lower_dot_cons (text : List Char) : ∃ rest, lower ('.' :: text) = '.' :: rest :=
  ⟨_, rfl⟩

end Text

namespace FileName

theorem toList_sequentialName (number : Nat) (extension : String) :
    (sequentialName number extension).toList =
      "image".toList ++ '_' :: (Nat.toDigits 10 number ++ '.' :: extension.toList) := by
  have hprefix : "image_".toList = "image".toList ++ ['_'] := by decide +kernel
  have hdot : ".".toList = ['.'] := by decide +kernel
  simp [sequentialName, Text.decimal, hprefix, hdot]

/-- Sequential names with the same lower case have the same number. -/
theorem lower_sequentialName_inj {i j : Nat} {extension other : String}
    (h : Text.lower (sequentialName i extension).toList =
      Text.lower (sequentialName j other).toList) : i = j := by
  rcases Text.exists_lower_dot_cons extension.toList with ⟨rest, hrest⟩
  rcases Text.exists_lower_dot_cons other.toList with ⟨otherRest, hotherRest⟩
  -- In front of the number the names are the same, and the number ends at the dot.
  simp only [toList_sequentialName, Text.lower_append_cons Text.endsWord_underscore,
    Text.lower_digits_append fun _ => Text.mem_digits_of_mem_toDigits, hrest, hotherRest] at h
  have hnumbers := List.append_cancel_left (List.append_cancel_left h)
  refine Text.toDigits_inj ?_
  calc
    Nat.toDigits 10 i = (Nat.toDigits 10 i ++ '.' :: rest).takeWhile Char.isDigit :=
      (Text.takeWhile_toDigits_append i rest).symm
    _ = (Nat.toDigits 10 j ++ '.' :: otherRest).takeWhile Char.isDigit := by rw [hnumbers]
    _ = Nat.toDigits 10 j := Text.takeWhile_toDigits_append j otherRest

/-! ## Plain names -/

/-- The characters of names that mean the same everywhere. -/
def plainChars : List Char :=
  "abcdefghijklmnopqrstuvwxyzABCDEFGHIJKLMNOPQRSTUVWXYZ0123456789._".toList

/-- The text has plain characters only. -/
def IsPlain (text : List Char) : Prop :=
  ∀ c ∈ text, c ∈ plainChars

-- Checked on the text: an instance that is searched for goes over all characters that there are.
instance (text : List Char) : Decidable (IsPlain text) :=
  decidable_of_iff (text.all plainChars.contains = true) (by simp [IsPlain])

theorem ordinary_of_mem_plainChars {c : Char} (h : c ∈ plainChars) :
    (c ∉ reserved ∧ Text.isControl c = false) ∧ Text.isBlank c = false := by
  have hall : plainChars.all (fun c =>
      decide (c ∉ reserved ∧ Text.isControl c = false) && !Text.isBlank c) = true := by
    decide +kernel
  have hc := List.all_eq_true.1 hall c h
  simp only [Bool.and_eq_true, decide_eq_true_eq, Bool.not_eq_true'] at hc
  exact hc

/-- A plain name is safe unless it is made of dots. -/
theorem IsPlain.isSafe {name : List Char} (h : IsPlain name) (hnamed : ∃ c ∈ name, c ≠ '.') :
    IsSafe name where
  ordinary c hc := (ordinary_of_mem_plainChars (h c hc)).1
  start c hc := (ordinary_of_mem_plainChars (h c (List.mem_of_head? hc))).2
  finish c hc := (ordinary_of_mem_plainChars (h c (List.mem_of_getLast? hc))).2
  named := hnamed

theorem isPlain_sequentialName (number : Nat) {extension : String}
    (h : IsPlain extension.toList) : IsPlain (sequentialName number extension).toList := by
  have hstem : IsPlain "image".toList := by decide +kernel
  have hdigits : IsPlain Text.digits := by decide +kernel
  have hmarks : '_' ∈ plainChars ∧ '.' ∈ plainChars := by decide +kernel
  intro c hc
  rw [toList_sequentialName, List.mem_append, List.mem_cons, List.mem_append, List.mem_cons] at hc
  rcases hc with hc | rfl | hc | rfl | hc
  · exact hstem c hc
  · exact hmarks.1
  · exact hdigits c (Text.mem_digits_of_mem_toDigits hc)
  · exact hmarks.2
  · exact h c hc

theorem isSafe_sequentialName (number : Nat) {extension : String} (h : IsPlain extension.toList) :
    IsSafe (sequentialName number extension).toList := by
  refine (isPlain_sequentialName number h).isSafe ⟨'_', ?_, by decide⟩
  simp [toList_sequentialName]

end FileName

/-! ## Extensions -/

open FileName (IsPlain)

/-- The extension of every type that a content can have is plain. -/
def Toolkit.HasPlainExtensions [Toolkit] : Prop :=
  ∀ content type, Toolkit.contentType? content = some type → IsPlain type.extension.toList

namespace Signature

theorem mem_of_firstOf {types : List ((Bytes → Bool) × ContentType)} {content : Bytes}
    {type : ContentType} (h : firstOf types content = some type) : type ∈ types.map Prod.snd := by
  rcases Option.map_eq_some_iff.1 h with ⟨entry, hentry, rfl⟩
  exact List.mem_map_of_mem (List.mem_of_find?_eq_some hentry)

theorem isPlain_extension {content : Bytes} {type : ContentType}
    (h : contentType? content = some type) : IsPlain type.extension.toList := by
  have hpictures : ∀ type ∈ pictureTypes.map Prod.snd, IsPlain type.extension.toList := by
    decide +kernel
  have hothers : ∀ type ∈ otherTypes.map Prod.snd, IsPlain type.extension.toList := by
    decide +kernel
  have hformats : ∀ format, IsPlain (ofFormat format).extension.toList := by
    intro format
    cases format <;> decide +kernel
  unfold contentType? at h
  split at h
  · rename_i hfirst
    cases h
    exact hpictures type (mem_of_firstOf hfirst)
  · split at h
    · rename_i format _
      cases h
      exact hformats format
    · exact hothers type (mem_of_firstOf h)

end Signature

theorem Toolkit.hasPlainExtensions_builtIn : @HasPlainExtensions builtIn :=
  fun _ _ h => Signature.isPlain_extension h

namespace PictureKind

theorem isPlain_extension {kind : PictureKind} {extension : String}
    (h : kind.extension? = some extension) : IsPlain extension.toList := by
  cases kind with
  | unknown => cases h
  | _ =>
      cases h
      decide +kernel

theorem isPlain_suggestExtension [Toolkit] (hplain : Toolkit.HasPlainExtensions)
    (kind : PictureKind) (content : Bytes) :
    IsPlain (kind.suggestExtension content).toList := by
  unfold PictureKind.suggestExtension
  cases hkind : kind.extension? with
  | some extension => exact isPlain_extension hkind
  | none =>
      cases htype : Toolkit.contentType? content with
      | some type => exact hplain content type htype
      | none => exact (by decide +kernel : IsPlain "bin".toList)

end PictureKind

/-! ## Claimed names -/

namespace UniqueNames

theorem claim_eq_self {names : UniqueNames} {name : String}
    (h : Text.lower name.toList ∉ names.taken) :
    names.claim name = (name, names.take name.toList) := by
  have hchoose : names.choose name.toList = name.toList := by
    refine if_neg ?_
    simpa using h
  simp [claim, hchoose]

/-- Names that differ in lower case from each other and from all that are taken are given out as
they are. -/
theorem claimAll_eq_self {names : UniqueNames} {proposed : List String}
    (hnodup : (proposed.map fun name => Text.lower name.toList).Nodup)
    (hfree : ∀ name ∈ proposed, Text.lower name.toList ∉ names.taken) :
    (names.claimAll proposed).1 = proposed := by
  induction proposed generalizing names with
  | nil => rfl
  | cons name proposed ih =>
      rcases List.forall_mem_cons.1 hfree with ⟨hname, hothers⟩
      rw [List.map_cons, List.nodup_cons] at hnodup
      have hrest : ((names.take name.toList).claimAll proposed).1 = proposed := by
        refine ih hnodup.2 ?_
        intro other hother
        rw [take, List.mem_cons, not_or]
        -- The first name is taken by now, and no other one has its lower case.
        exact ⟨fun heq => hnodup.1 (List.mem_map.2 ⟨other, hother, heq⟩), hothers other hother⟩
      simp only [claimAll, claim_eq_self hname, hrest]

end UniqueNames
end OfficePictures
