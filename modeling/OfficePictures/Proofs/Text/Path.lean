import Mathlib.Data.List.Induction
import OfficePictures.Proofs.Text.Segments
import OfficePictures.Text.Path

/-!
# Path — where a path leads

The segments of a path are idle ones, two dots, and names.  How high a path climbs is a matter of
how many of each there are in front.

* `step?_of_isIdle`, `step?_back`, `step?_of_isName`, `step?_cases` — what a segment of each kind
  does;
* `mem_of_follow?`, `isPlace_of_follow?` — a path leads to names, which come from it or from where
  it begins;
* `follow?_eq_none_iff` — a path leads nowhere if and only if some segments at its start climb above
  the root;
* `length_of_follow?` — how deep the place is that a path leads to;
* `IsDetour.foldlM_step?` — where segments lead that go back and then on by names, with idle ones
  anywhere between them.
-/

namespace OfficePictures
namespace Text

variable {place found steps rest more : List (List Char)} {segment : List Char} {depth : Nat}

/-! ## Kinds of segments -/

/-- A segment that stays where it is. -/
def IsIdle (segment : List Char) : Prop :=
  segment = [] ∨ segment = ['.']

instance : DecidablePred IsIdle :=
  fun segment => inferInstanceAs (Decidable (segment = [] ∨ segment = ['.']))

/-- The segment that goes back by one. -/
def back : List Char :=
  ['.', '.']

/-- A segment that goes on. -/
def IsName (segment : List Char) : Prop :=
  ¬ IsIdle segment ∧ segment ≠ back

instance : DecidablePred IsName :=
  fun segment => inferInstanceAs (Decidable (¬ IsIdle segment ∧ segment ≠ back))

/-- Segments from the root to somewhere: names, each of which is one segment. -/
def IsPlace (place : List (List Char)) : Prop :=
  ∀ segment ∈ place, IsName segment ∧ '/' ∉ segment

theorem not_isIdle_back : ¬ IsIdle back := by
  decide

theorem isIdle_or_back_or_isName (segment : List Char) :
    IsIdle segment ∨ segment = back ∨ IsName segment := by
  by_cases hidle : IsIdle segment
  · exact .inl hidle
  · by_cases hback : segment = back
    · exact .inr (.inl hback)
    · exact .inr (.inr ⟨hidle, hback⟩)

theorem ne_back_of_isIdle (h : IsIdle segment) : segment ≠ back :=
  fun hback => not_isIdle_back (hback ▸ h)

theorem not_isName_of_isIdle (h : IsIdle segment) : ¬ IsName segment :=
  fun hname => hname.1 h

theorem not_isName_back : ¬ IsName back :=
  fun hname => hname.2 rfl

theorem slash_notMem_of_isIdle (h : IsIdle segment) : '/' ∉ segment := by
  rcases h with rfl | rfl <;> decide

theorem step?_of_isIdle (h : IsIdle segment) : step? place segment = some place :=
  if_pos h

theorem step?_back : step? place back = if place = [] then none else some place.dropLast :=
  (if_neg not_isIdle_back).trans (if_pos rfl)

theorem step?_of_isName (h : IsName segment) : step? place segment = some (place ++ [segment]) :=
  (if_neg h.1).trans (if_neg h.2)

/-- What a segment can do. -/
theorem step?_cases (h : step? place segment = some found) :
    (IsIdle segment ∧ found = place) ∨
    (segment = back ∧ place ≠ [] ∧ found = place.dropLast) ∨
    (IsName segment ∧ found = place ++ [segment]) := by
  rcases isIdle_or_back_or_isName segment with hidle | rfl | hname
  · rw [step?_of_isIdle hidle, Option.some.injEq] at h
    exact .inl ⟨hidle, h.symm⟩
  · rw [step?_back] at h
    split at h
    · cases h
    · rename_i hroot
      cases h
      exact .inr (.inl ⟨rfl, hroot, rfl⟩)
  · rw [step?_of_isName hname, Option.some.injEq] at h
    exact .inr (.inr ⟨hname, h.symm⟩)

/-! ## Names that a path leads to -/

theorem mem_of_foldlM_step? (h : steps.foldlM step? place = some found) (hmem : segment ∈ found) :
    segment ∈ place ∨ segment ∈ steps ∧ IsName segment := by
  induction steps generalizing place with
  | nil =>
      cases h
      exact .inl hmem
  | cons step steps ih =>
      rw [List.foldlM_cons] at h
      rcases Option.bind_eq_some_iff.1 h with ⟨next, hnext, h⟩
      rcases ih h with hold | ⟨hsteps, hname⟩
      swap
      · exact .inr ⟨List.mem_cons_of_mem _ hsteps, hname⟩
      -- What is there after the first step, was there before or is that step.
      rcases step?_cases hnext with ⟨-, rfl⟩ | ⟨-, -, rfl⟩ | ⟨hname, rfl⟩
      · exact .inl hold
      · exact .inl (List.dropLast_subset place hold)
      · rcases List.mem_append.1 hold with hold | hnew
        · exact .inl hold
        · rw [List.mem_singleton.1 hnew]
          exact .inr ⟨List.mem_cons_self .., hname⟩

/-- What a path leads to was there where it begins, or it is a name that the path goes on by. -/
theorem mem_of_follow? {path : List Char} (h : follow? place path = some found)
    (hmem : segment ∈ found) : segment ∈ place ∨ IsName segment ∧ '/' ∉ segment := by
  rcases mem_of_foldlM_step? h hmem with hold | ⟨hsegment, hname⟩
  · exact .inl hold
  · exact .inr ⟨hname, sep_notMem_of_mem_split hsegment⟩

theorem isPlace_of_follow? {path : List Char} (h : follow? place path = some found)
    (hplace : IsPlace place) : IsPlace found :=
  fun segment hmem => (mem_of_follow? h hmem).elim (hplace segment) id

/-! ## How high a path climbs -/

/-- How many segments go on. -/
def onward (steps : List (List Char)) : Nat :=
  steps.countP (IsName ·)

/-- How many segments go back. -/
def backward (steps : List (List Char)) : Nat :=
  steps.count back

/-- At some point the segments went back more often than there were names to go back by. -/
def Climbs (depth : Nat) (steps : List (List Char)) : Prop :=
  ∃ front, front <+: steps ∧ depth + onward front < backward front

theorem onward_cons (segment : List Char) (steps : List (List Char)) :
    onward (segment :: steps) = onward steps + if IsName segment then 1 else 0 := by
  simp [onward, List.countP_cons]

theorem backward_cons (segment : List Char) (steps : List (List Char)) :
    backward (segment :: steps) = backward steps + if segment = back then 1 else 0 := by
  simp [backward, List.count_cons]

theorem climbs_cons_iff : Climbs depth (segment :: steps) ↔
    ∃ front, front <+: steps ∧
      depth + onward (segment :: front) < backward (segment :: front) := by
  constructor
  · rintro ⟨front, hprefix, hclimbs⟩
    rcases List.prefix_cons_iff.1 hprefix with rfl | ⟨rest, rfl, hrest⟩
    · cases hclimbs
    · exact ⟨rest, hrest, hclimbs⟩
  · rintro ⟨front, hprefix, hclimbs⟩
    exact ⟨segment :: front, List.cons_prefix_cons.2 ⟨rfl, hprefix⟩, hclimbs⟩

theorem climbs_cons_of_isIdle (h : IsIdle segment) :
    Climbs depth (segment :: steps) ↔ Climbs depth steps := by
  simp only [climbs_cons_iff, onward_cons, backward_cons, if_neg (not_isName_of_isIdle h),
    if_neg (ne_back_of_isIdle h)]
  exact Iff.rfl

/-- Two dots at the root climb above it at once. -/
theorem climbs_cons_back :
    Climbs depth (back :: steps) ↔ depth = 0 ∨ Climbs (depth - 1) steps := by
  simp only [climbs_cons_iff, onward_cons, backward_cons, if_neg not_isName_back, if_pos]
  constructor
  · rintro ⟨front, hprefix, hclimbs⟩
    by_cases hzero : depth = 0
    · exact .inl hzero
    · exact .inr ⟨front, hprefix, by omega⟩
  · rintro (rfl | ⟨front, hprefix, hclimbs⟩)
    · exact ⟨[], List.nil_prefix, by decide⟩
    · exact ⟨front, hprefix, by omega⟩

theorem climbs_cons_of_isName (h : IsName segment) :
    Climbs depth (segment :: steps) ↔ Climbs (depth + 1) steps := by
  simp only [climbs_cons_iff, onward_cons, backward_cons, if_pos h, if_neg h.2]
  refine exists_congr fun front => and_congr_right fun _ => ?_
  omega

theorem foldlM_step?_eq_none_iff :
    steps.foldlM step? place = none ↔ Climbs place.length steps := by
  -- Only the depth of the place matters, and each step changes it as it does the counts.
  induction steps generalizing place with
  | nil => simp [Climbs, onward, backward]
  | cons step steps ih =>
      rw [List.foldlM_cons]
      rcases isIdle_or_back_or_isName step with hidle | rfl | hname
      · rw [step?_of_isIdle hidle, climbs_cons_of_isIdle hidle]
        exact ih
      · rw [step?_back, climbs_cons_back, ← List.length_dropLast]
        by_cases hroot : place = []
        · simp [hroot]
        · rw [if_neg hroot, or_iff_right (mt List.length_eq_zero_iff.1 hroot)]
          exact ih
      · rw [step?_of_isName hname, climbs_cons_of_isName hname]
        exact ih.trans (by rw [List.length_append, List.length_singleton])

/-- Going on adds to the depth of the place, and going back takes from it. -/
theorem length_of_foldlM_step? (h : steps.foldlM step? place = some found) :
    found.length + backward steps = place.length + onward steps := by
  induction steps generalizing place with
  | nil =>
      cases h
      rfl
  | cons step steps ih =>
      rw [List.foldlM_cons] at h
      rcases Option.bind_eq_some_iff.1 h with ⟨next, hnext, h⟩
      have hrest := ih h
      rw [onward_cons, backward_cons]
      rcases step?_cases hnext with ⟨hidle, rfl⟩ | ⟨rfl, hroot, rfl⟩ | ⟨hname, rfl⟩
      · rwa [if_neg (not_isName_of_isIdle hidle), if_neg (ne_back_of_isIdle hidle)]
      · have hpos : 0 < place.length := List.length_pos_iff.2 hroot
        rw [List.length_dropLast] at hrest
        rw [if_pos rfl, if_neg not_isName_back]
        omega
      · rw [List.length_append, List.length_singleton] at hrest
        rw [if_pos hname, if_neg hname.2]
        omega

theorem follow?_eq_none_iff {path : List Char} :
    follow? place path = none ↔ Climbs place.length (split '/' path) :=
  foldlM_step?_eq_none_iff

theorem length_of_follow? {path : List Char} (h : follow? place path = some found) :
    found.length + backward (split '/' path) = place.length + onward (split '/' path) :=
  length_of_foldlM_step? h

/-! ## Back and on -/

/-- Idle segments make no difference. -/
theorem foldlM_step?_filter (place steps : List (List Char)) :
    (steps.filter (¬ IsIdle ·)).foldlM step? place = steps.foldlM step? place := by
  induction steps generalizing place with
  | nil => rfl
  | cons step steps ih =>
      by_cases hidle : IsIdle step
      · rw [List.filter_cons_of_neg (by simpa using hidle), ih, List.foldlM_cons,
          step?_of_isIdle hidle]
        rfl
      · rw [List.filter_cons_of_pos (by simpa using hidle), List.foldlM_cons, List.foldlM_cons]
        exact congrArg _ (funext ih)

theorem foldlM_step?_names (hmore : IsPlace more) (place : List (List Char)) :
    more.foldlM step? place = some (place ++ more) := by
  induction more generalizing place with
  | nil => rw [List.append_nil]; rfl
  | cons name more ih =>
      rcases List.forall_mem_cons.1 hmore with ⟨hname, hmore⟩
      rw [List.foldlM_cons, step?_of_isName hname.1,
        List.append_cons place name more]
      exact ih hmore _

/-- Going back as often as there are names leaves all of them. -/
theorem foldlM_step?_replicate_back (place rest : List (List Char)) :
    (List.replicate rest.length back).foldlM step? (place ++ rest) = some place := by
  -- The last name is the first to be left.
  induction rest using List.reverseRecOn with
  | nil => rw [List.append_nil]; rfl
  | append_singleton rest name ih =>
      rw [List.length_append, List.length_singleton, List.replicate_succ, List.foldlM_cons,
        step?_back, if_neg (by simp), ← List.append_assoc, List.dropLast_concat]
      exact ih

/-- Segments that go back and then on by names, with idle ones anywhere between them. -/
def IsDetour (rest more steps : List (List Char)) : Prop :=
  steps.filter (¬ IsIdle ·) = List.replicate rest.length back ++ more

theorem IsDetour.slash_notMem (h : IsDetour rest more steps) (hmore : IsPlace more) :
    ∀ step ∈ steps, '/' ∉ step := by
  intro step hstep
  by_cases hidle : IsIdle step
  · exact slash_notMem_of_isIdle hidle
  · have hkept : step ∈ List.replicate rest.length back ++ more := by
      rw [← h]
      exact List.mem_filter.2 ⟨hstep, by simpa using hidle⟩
    rcases List.mem_append.1 hkept with hback | hname
    · rw [List.eq_of_mem_replicate hback]
      decide
    · exact (hmore step hname).2

theorem IsDetour.foldlM_step? (h : IsDetour rest more steps) (hmore : IsPlace more)
    (place : List (List Char)) :
    steps.foldlM step? (place ++ rest) = some (place ++ more) := by
  rw [← foldlM_step?_filter, h, List.foldlM_append, foldlM_step?_replicate_back]
  exact foldlM_step?_names hmore place

/-- A path leads along its segments; a path of no segments has one that is empty. -/
theorem follow?_join (hslash : ∀ step ∈ steps, '/' ∉ step) (place : List (List Char)) :
    follow? place (join '/' steps) = steps.foldlM step? place := by
  by_cases hnil : steps = []
  · rw [hnil, List.foldlM_nil]
    rfl
  · rw [follow?, split_join hnil hslash]

end Text
end OfficePictures
