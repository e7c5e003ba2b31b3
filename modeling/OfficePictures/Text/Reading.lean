/-!
# Reading — what is left of a text

Readers of text return what they found together with the rest of the text and a proof that the rest
is not longer, or is shorter, than the text; so a reader that repeats another one ends.
-/

namespace OfficePictures
namespace Text

abbrev Rest (text : List Char) : Type :=
  { rest : List Char // rest.length ≤ text.length }

/-- What can be left of a text of which something was read. -/
abbrev Shorter (text : List Char) : Type :=
  { rest : List Char // rest.length < text.length }

def Rest.all (text : List Char) : Rest text :=
  ⟨text, Nat.le_refl _⟩

/-! ## One rest after another -/

theorem length_le_trans {text next rest : List Char} (hnext : next.length ≤ text.length)
    (hrest : rest.length ≤ next.length) : rest.length ≤ text.length :=
  Nat.le_trans hrest hnext

theorem length_lt_trans {text next rest : List Char} (hnext : next.length < text.length)
    (hrest : rest.length < next.length) : rest.length < text.length :=
  Nat.lt_trans hrest hnext

theorem length_lt_of_lt_of_le {text next rest : List Char} (hnext : next.length < text.length)
    (hrest : rest.length ≤ next.length) : rest.length < text.length :=
  Nat.lt_of_le_of_lt hrest hnext

theorem length_lt_of_le_of_lt {text next rest : List Char} (hnext : next.length ≤ text.length)
    (hrest : rest.length < next.length) : rest.length < text.length :=
  Nat.lt_of_lt_of_le hrest hnext

theorem length_le_of_lt {text rest : List Char} (h : rest.length < text.length) :
    rest.length ≤ text.length :=
  Nat.le_of_lt h

theorem length_tail_lt (c : Char) (rest : List Char) : rest.length < (c :: rest).length :=
  Nat.lt_succ_self _

theorem length_tail_le (c : Char) (rest : List Char) : rest.length ≤ (c :: rest).length :=
  Nat.le_succ _

theorem length_le_cons {rest last : List Char} (c : Char) (h : last.length ≤ rest.length) :
    last.length ≤ (c :: rest).length :=
  Nat.le_succ_of_le h

theorem length_lt_cons {rest last : List Char} (c : Char) (h : last.length ≤ rest.length) :
    last.length < (c :: rest).length :=
  Nat.lt_succ_of_le h

/-! ## Readers -/

theorem length_dropWhile_le (p : Char → Bool) (text : List Char) :
    (text.dropWhile p).length ≤ text.length := by
  induction text with
  | nil => simp
  | cons c rest ih =>
      rw [List.dropWhile_cons]
      split
      · exact Nat.le_succ_of_le ih
      · exact Nat.le_refl _

/-- The text without its first characters that satisfy `p`. -/
def skip (p : Char → Bool) (text : List Char) : Rest text :=
  ⟨text.dropWhile p, length_dropWhile_le p text⟩

/-- What follows the character `c` at the start of the text. -/
def char? (c : Char) : (text : List Char) → Option (Shorter text)
  | [] => none
  | first :: rest => if first = c then some ⟨rest, length_tail_lt first rest⟩ else none

/-- What follows `expected` at the start of the text. -/
def after? (expected : List Char) (text : List Char) : Option (Rest text) :=
  if expected.isPrefixOf text then
    some ⟨text.drop expected.length, by simp⟩
  else
    none

/-- The text in front of the first `stop`, and what follows it. -/
def before? (stop : List Char) : (text : List Char) → Option (List Char × Rest text)
  | [] => if stop = [] then some ([], ⟨[], Nat.le_refl _⟩) else none
  | c :: rest =>
      if stop.isPrefixOf (c :: rest) then
        some ([], ⟨(c :: rest).drop stop.length, by simp⟩)
      else
        match before? stop rest with
        | none => none
        | some (front, ⟨last, hlast⟩) =>
            some (c :: front, ⟨last, Nat.le_succ_of_le hlast⟩)

end Text
end OfficePictures
