import OfficePictures.Text.Blank

/-!
# Blank — what trimming leaves

A trimmed text has no white space at its ends, and nothing in it is new.  Trimming stops at the
first character that is no white space, so what is between two such characters stays.

* `head?_trim`, `getLast?_trim` — the ends of a trimmed text;
* `trim_eq_self` — a text with no white space at its ends stays as it is;
* `trim_append_cons` — only the end of a text is trimmed if it begins with no white space.
-/

namespace OfficePictures
namespace Text

/-! ## One end -/

theorem trimEnd_isPrefix (text : List Char) : trimEnd text <+: text := by
  have hsuffix := List.dropWhile_suffix (l := text.reverse) isBlank
  simpa [trimEnd] using List.reverse_prefix.2 hsuffix

theorem getLast?_trimEnd {text : List Char} {c : Char} (h : (trimEnd text).getLast? = some c) :
    isBlank c = false := by
  have hhead := List.head?_dropWhile_not isBlank text.reverse
  rw [trimEnd, List.getLast?_reverse] at h
  rw [h] at hhead
  simpa using hhead

theorem head?_trimStart {text : List Char} {c : Char} (h : (trimStart text).head? = some c) :
    isBlank c = false := by
  have hhead := List.head?_dropWhile_not isBlank text
  rw [trimStart] at h
  rw [h] at hhead
  simpa using hhead

/-- The end of a text is not looked at in front of a character that is no white space. -/
theorem trimEnd_append_cons {c : Char} (h : isBlank c = false) (front back : List Char) :
    trimEnd (front ++ c :: back) = front ++ c :: trimEnd back := by
  simp only [trimEnd, List.reverse_append, List.reverse_cons, List.append_assoc,
    List.dropWhile_append]
  by_cases hback : (back.reverse.dropWhile isBlank).isEmpty = true
  · have hnil : back.reverse.dropWhile isBlank = [] := List.isEmpty_iff.1 hback
    simp [hnil, h]
  · simp [hback]

/-! ## Both ends -/

theorem mem_of_mem_trim {text : List Char} {c : Char} (h : c ∈ trim text) : c ∈ text :=
  (List.dropWhile_sublist isBlank).mem ((trimEnd_isPrefix (trimStart text)).mem h)

theorem head?_trim {text : List Char} {c : Char} (h : (trim text).head? = some c) :
    isBlank c = false := by
  rcases trimEnd_isPrefix (trimStart text) with ⟨blanks, hblanks⟩
  have hstart : (trimStart text).head? = some c := by
    rw [trim] at h
    rw [← hblanks, List.head?_append, h]
    rfl
  exact head?_trimStart hstart

theorem getLast?_trim {text : List Char} {c : Char} (h : (trim text).getLast? = some c) :
    isBlank c = false :=
  getLast?_trimEnd h

theorem trimStart_eq_self {text : List Char} (h : ∀ c ∈ text.head?, isBlank c = false) :
    trimStart text = text := by
  cases text with
  | nil => rfl
  | cons c text => simp [trimStart, h c rfl]

/-- A text with no white space at its ends stays as it is. -/
theorem trim_eq_self {text : List Char} (hstart : ∀ c ∈ text.head?, isBlank c = false)
    (hfinish : ∀ c ∈ text.getLast?, isBlank c = false) : trim text = text := by
  have hreverse : ∀ c ∈ text.reverse.head?, isBlank c = false := by
    rwa [List.head?_reverse]
  rw [trim, trimStart_eq_self hstart, trimEnd]
  have hkeep := trimStart_eq_self hreverse
  rw [trimStart] at hkeep
  rw [hkeep, List.reverse_reverse]

/-- Of a text that begins with no white space, only what is behind any character that is none
either is trimmed. -/
theorem trim_append_cons {front : List Char} {c : Char}
    (hfront : ∀ first ∈ front.head?, isBlank first = false) (hc : isBlank c = false)
    (back : List Char) : trim (front ++ c :: back) = front ++ c :: trimEnd back := by
  have hstart : trimStart (front ++ c :: back) = front ++ c :: back := by
    cases front with
    | nil => simp [trimStart, hc]
    | cons first front => simp [trimStart, hfront first rfl]
  rw [trim, hstart, trimEnd_append_cons hc]

end Text
end OfficePictures
