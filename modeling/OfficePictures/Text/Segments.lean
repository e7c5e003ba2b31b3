/-!
# Segments — text cut at a separator, and put together again

Part names, paths and file names are cut at one character.  `split` keeps every segment, empty
ones included, and `join` puts segments together.  `splitLast?` cuts at the last separator only.
-/

namespace OfficePictures
namespace Text

/-- The segments of a text between the occurrences of `sep`; there is always at least one. -/
def split (sep : Char) : List Char → List (List Char)
  | [] => [[]]
  | c :: rest =>
      if c = sep then
        [] :: split sep rest
      else
        match split sep rest with
        | [] => [[c]]
        | segment :: segments => (c :: segment) :: segments

/-- The segments with `sep` between each two. -/
def join (sep : Char) : List (List Char) → List Char
  | [] => []
  | [segment] => segment
  | segment :: segments => segment ++ sep :: join sep segments

/-- The text before and after the last `sep`, if there is one. -/
def splitLast? (sep : Char) : List Char → Option (List Char × List Char)
  | [] => none
  | c :: rest =>
      match splitLast? sep rest with
      | some (front, back) => some (c :: front, back)
      | none => if c = sep then some ([], rest) else none

/-- The text after the last `sep`, or all of it. -/
def afterLast (sep : Char) (text : List Char) : List Char :=
  match splitLast? sep text with
  | some (_, back) => back
  | none => text

theorem split_ne_nil (sep : Char) (text : List Char) : split sep text ≠ [] := by
  cases text with
  | nil => simp [split]
  | cons c rest =>
      by_cases h : c = sep
      · simp [split, h]
      · simp only [split, h, if_false]
        split <;> simp

theorem eq_of_splitLast? {sep : Char} {text front back : List Char} :
    splitLast? sep text = some (front, back) → text = front ++ sep :: back := by
  induction text generalizing front with
  | nil =>
      intro h
      simp [splitLast?] at h
  | cons c rest ih =>
      intro h
      -- Only if no separator follows, the first character may be the last one.
      cases hr : splitLast? sep rest with
      | none =>
          by_cases hc : c = sep
          · simp [splitLast?, hr, hc] at h
            simp [hc, ← h.1, ← h.2]
          · simp [splitLast?, hr, hc] at h
      | some parts =>
          obtain ⟨front', back'⟩ := parts
          simp [splitLast?, hr] at h
          obtain ⟨rfl, rfl⟩ := h
          simp [ih hr]

end Text
end OfficePictures
