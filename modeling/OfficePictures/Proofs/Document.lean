import OfficePictures.Document
import OfficePictures.Proofs.FileName.Safe

/-!
# Document — what a unique name tells

However hostile the name of a document is, its unique name begins with its number and an
underscore, which neither the replacement of characters nor trimming touches.  So the unique name
tells the number.

* `toList_uniqueName` — the unique name, character by character;
* `isSafe_uniqueName` — it is a safe name;
* `id_eq_of_uniqueName_eq`, `id_eq_of_lower_uniqueName_eq` — documents with the same unique name have
  the same number, also where letter case does not count.
-/

namespace OfficePictures

namespace Document

theorem toList_uniqueName (document : Document) :
    document.uniqueName.toList =
      Nat.toDigits 10 document.id ++
        '_' :: Text.trimEnd (document.name.toList.map FileName.cleanChar) := by
  have hdigits : (Nat.toDigits 10 document.id).map FileName.cleanChar =
      Nat.toDigits 10 document.id := by
    refine (List.map_congr_left fun c hc => ?_).trans (List.map_id _)
    have hdigit := Text.mem_digits_of_mem_toDigits hc
    exact FileName.cleanChar_eq_self (FileName.ordinary_of_mem_digits hdigit).1
  have hunderscore : FileName.cleanChar '_' = '_' :=
    FileName.cleanChar_eq_self FileName.ordinary_underscore
  have hclean : (Text.decimal document.id ++ "_" ++ document.name).toList.map FileName.cleanChar =
      Nat.toDigits 10 document.id ++ '_' :: document.name.toList.map FileName.cleanChar := by
    simp [Text.decimal, hdigits, hunderscore]
  -- A digit is in front, so nothing is trimmed at the start.
  have hhead : ∀ first ∈ (Nat.toDigits 10 document.id).head?, Text.isBlank first = false := by
    intro first hfirst
    have hdigit := Text.mem_digits_of_mem_toDigits (List.mem_of_head? hfirst)
    exact (FileName.ordinary_of_mem_digits hdigit).2
  simp only [uniqueName, FileName.sanitize, String.toList_ofList, FileName.clean, hclean,
    Text.trim_append_cons hhead (by decide : Text.isBlank '_' = false)]
  exact if_neg (by simp)

theorem isSafe_uniqueName (document : Document) : FileName.IsSafe document.uniqueName.toList := by
  simp only [uniqueName, FileName.sanitize, String.toList_ofList]
  exact FileName.isSafe_clean _

/-- The number of a document is what its unique name begins with. -/
theorem takeWhile_uniqueName (document : Document) :
    document.uniqueName.toList.takeWhile Char.isDigit = Nat.toDigits 10 document.id := by
  -- The underscore behind the number is no digit.
  have hdigit : ∀ c ∈ Nat.toDigits 10 document.id, c.isDigit = true := fun c hc =>
    Nat.isDigit_of_mem_toDigits (by decide) (by decide) hc
  rw [toList_uniqueName, List.takeWhile_append_of_pos hdigit,
    List.takeWhile_cons_of_neg (by decide), List.append_nil]

/-- Documents with the same unique name have the same number. -/
theorem id_eq_of_uniqueName_eq {document other : Document}
    (h : document.uniqueName = other.uniqueName) : document.id = other.id := by
  have hdigits : Nat.toDigits 10 document.id = Nat.toDigits 10 other.id := by
    rw [← takeWhile_uniqueName, h, takeWhile_uniqueName]
  exact Text.toDigits_inj hdigits

/-- The number stands in front of the unique name in lower case, too. -/
theorem takeWhile_lower_uniqueName (document : Document) :
    (Text.lower document.uniqueName.toList).takeWhile Char.isDigit =
      Nat.toDigits 10 document.id := by
  have hdigit : ∀ c ∈ Nat.toDigits 10 document.id, c.isDigit = true := fun c hc =>
    Nat.isDigit_of_mem_toDigits (by decide) (by decide) hc
  have hunderscore : ∀ rest, Text.lower ('_' :: rest) = '_' :: Text.lower rest := fun rest =>
    Text.lower_append_cons Text.endsWord_underscore [] rest
  rw [toList_uniqueName, Text.lower_digits_append fun c hc => Text.mem_digits_of_mem_toDigits hc,
    hunderscore, List.takeWhile_append_of_pos hdigit, List.takeWhile_cons_of_neg (by decide),
    List.append_nil]

theorem id_eq_of_lower_uniqueName_eq {document other : Document}
    (h : Text.lower document.uniqueName.toList = Text.lower other.uniqueName.toList) :
    document.id = other.id := by
  have hdigits : Nat.toDigits 10 document.id = Nat.toDigits 10 other.id := by
    rw [← takeWhile_lower_uniqueName, h, takeWhile_lower_uniqueName]
  exact Text.toDigits_inj hdigits

end Document
end OfficePictures
