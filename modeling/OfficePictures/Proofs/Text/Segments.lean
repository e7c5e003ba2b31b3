import Mathlib.Data.List.Basic
import OfficePictures.Text.Segments

/-!
# Segments — what is in the segments of a text

* `sep_notMem_of_mem_split`, `mem_of_mem_split` — the segments of a text have no separator, and
  nothing that is not in the text;
* `split_append_cons`, `split_join` — a separator between two texts cuts them apart, and segments
  that were put together come apart again;
* `mem_split_padded_iff` — separators at the ends of a text add empty segments only;
* `splitLast?_eq_some_iff`, `splitLast?_eq_none_iff` — where the last separator is, if there is one;
* `head?_join_ne`, `getLast?_join_ne` — segments that are not empty, put together, have no separator
  at their ends.
-/

namespace OfficePictures
namespace Text

variable {sep : Char}

/-! ## Cutting -/

theorem split_cons_of_ne {c : Char} (h : c ≠ sep) (text : List Char) :
    ∃ segment segments, split sep text = segment :: segments ∧
      split sep (c :: text) = (c :: segment) :: segments := by
  cases hs : split sep text with
  | nil => exact absurd hs (split_ne_nil sep text)
  | cons segment segments =>
      refine ⟨segment, segments, rfl, ?_⟩
      rw [split, if_neg h, hs]

theorem sep_notMem_of_mem_split {text segment : List Char} (h : segment ∈ split sep text) :
    sep ∉ segment := by
  induction text generalizing segment with
  | nil =>
      rw [split, List.mem_singleton] at h
      simp [h]
  | cons c text ih =>
      by_cases hc : c = sep
      · rw [split, if_pos hc] at h
        rcases List.mem_cons.1 h with rfl | htail
        · exact List.not_mem_nil
        · exact ih htail
      · rcases split_cons_of_ne hc text with ⟨first, segments, hs, hcons⟩
        rw [hcons] at h
        rcases List.mem_cons.1 h with rfl | htail
        · have hfirst := ih (hs ▸ List.mem_cons_self ..)
          simp [hfirst, Ne.symm hc]
        · exact ih (hs ▸ List.mem_cons_of_mem _ htail)

theorem mem_of_mem_split {text segment : List Char} {c : Char} (h : segment ∈ split sep text)
    (hc : c ∈ segment) : c ∈ text := by
  induction text generalizing segment with
  | nil =>
      rw [split, List.mem_singleton] at h
      rwa [h] at hc
  | cons first text ih =>
      by_cases hsep : first = sep
      · rw [split, if_pos hsep] at h
        rcases List.mem_cons.1 h with rfl | htail
        · cases hc
        · exact List.mem_cons_of_mem _ (ih htail hc)
      · rcases split_cons_of_ne hsep text with ⟨front, segments, hs, hcons⟩
        rw [hcons] at h
        rcases List.mem_cons.1 h with rfl | htail
        · rcases List.mem_cons.1 hc with rfl | hfront
          · exact List.mem_cons_self ..
          · exact List.mem_cons_of_mem _ (ih (hs ▸ List.mem_cons_self ..) hfront)
        · exact List.mem_cons_of_mem _ (ih (hs ▸ List.mem_cons_of_mem _ htail) hc)

/-- A text without a separator is its only segment. -/
theorem split_eq_self {text : List Char} (h : sep ∉ text) : split sep text = [text] := by
  induction text with
  | nil => rfl
  | cons c text ih =>
      rw [List.mem_cons, not_or] at h
      rw [split, if_neg (Ne.symm h.1), ih h.2]

/-- A separator between two texts cuts them apart. -/
theorem split_append_cons (front back : List Char) :
    split sep (front ++ sep :: back) = split sep front ++ split sep back := by
  induction front with
  | nil => simp [split]
  | cons c front ih =>
      by_cases hc : c = sep
      · simp only [List.cons_append, split, if_pos hc, ih]
      · rcases split_cons_of_ne hc front with ⟨segment, segments, hfront, hcons⟩
        rw [hcons, List.cons_append, split, if_neg hc, ih, hfront]
        rfl

theorem eq_nil_of_mem_split_seps {text segment : List Char} (htext : ∀ c ∈ text, c = sep)
    (h : segment ∈ split sep text) : segment = [] := by
  refine List.eq_nil_iff_forall_not_mem.2 fun c hc => ?_
  have hsep : c = sep := htext c (mem_of_mem_split h hc)
  exact sep_notMem_of_mem_split h (hsep ▸ hc)

/-- Separators at the ends of a text add empty segments only. -/
theorem mem_split_padded_iff {front text back segment : List Char} (hfront : ∀ c ∈ front, c = sep)
    (hback : ∀ c ∈ back, c = sep) (hne : segment ≠ []) :
    segment ∈ split sep (front ++ text ++ back) ↔ segment ∈ split sep text := by
  have hnone : ∀ {seps : List Char}, (∀ c ∈ seps, c = sep) → segment ∉ split sep seps :=
    fun hseps hmem => hne (eq_nil_of_mem_split_seps hseps hmem)
  have hend : segment ∈ split sep (text ++ back) ↔ segment ∈ split sep text := by
    cases back with
    | nil => rw [List.append_nil]
    | cons c back =>
        rcases List.forall_mem_cons.1 hback with ⟨rfl, hback⟩
        rw [split_append_cons, List.mem_append, or_iff_left (hnone hback)]
  rw [List.append_assoc, ← hend]
  rcases List.eq_nil_or_concat front with rfl | ⟨front, c, rfl⟩
  · rw [List.nil_append]
  · rw [List.concat_eq_append] at hfront ⊢
    have hc : c = sep := hfront c (by simp)
    have hseps : ∀ d ∈ front, d = sep := fun d hd => hfront d (List.mem_append_left _ hd)
    rw [hc, List.append_assoc, List.singleton_append, split_append_cons, List.mem_append,
      or_iff_right (hnone hseps)]

/-! ## Cutting at the last separator -/

theorem splitLast?_eq_none_iff {text : List Char} : splitLast? sep text = none ↔ sep ∉ text := by
  induction text with
  | nil => simp [splitLast?]
  | cons c text ih =>
      rw [splitLast?, List.mem_cons, not_or, ← ih]
      cases splitLast? sep text with
      | some cut => simp
      | none => simp [eq_comm]

theorem splitLast?_append_cons {front back : List Char} (h : sep ∉ back) :
    splitLast? sep (front ++ sep :: back) = some (front, back) := by
  induction front with
  | nil => simp [splitLast?, splitLast?_eq_none_iff.2 h]
  | cons c front ih => rw [List.cons_append, splitLast?, ih]

theorem sep_notMem_of_splitLast? {text front back : List Char}
    (h : splitLast? sep text = some (front, back)) : sep ∉ back := by
  induction text generalizing front with
  | nil => cases h
  | cons c text ih =>
      rw [splitLast?] at h
      cases hcut : splitLast? sep text with
      | none =>
          by_cases hc : c = sep
          · simp only [hcut, hc, if_true, Option.some.injEq, Prod.mk.injEq] at h
            rw [← h.2]
            exact splitLast?_eq_none_iff.1 hcut
          · simp [hcut, hc] at h
      | some cut =>
          rw [hcut] at h
          cases h
          exact ih hcut

theorem splitLast?_eq_some_iff {text front back : List Char} :
    splitLast? sep text = some (front, back) ↔ text = front ++ sep :: back ∧ sep ∉ back := by
  constructor
  · intro h
    exact ⟨eq_of_splitLast? h, sep_notMem_of_splitLast? h⟩
  · rintro ⟨rfl, hback⟩
    exact splitLast?_append_cons hback

/-! ## Putting together -/

/-- Segments that were put together come apart again. -/
theorem split_join {segments : List (List Char)} (hne : segments ≠ [])
    (h : ∀ segment ∈ segments, sep ∉ segment) : split sep (join sep segments) = segments := by
  induction segments with
  | nil => exact absurd rfl hne
  | cons segment segments ih =>
      rcases List.forall_mem_cons.1 h with ⟨hsegment, hsegments⟩
      cases segments with
      | nil => exact split_eq_self hsegment
      | cons next segments =>
          rw [join, split_append_cons, split_eq_self hsegment, ih (List.cons_ne_nil _ _) hsegments]
          · rfl
          · intro hnil
            cases hnil

theorem mem_join {segments : List (List Char)} {c : Char} (h : c ∈ join sep segments) :
    c = sep ∨ ∃ segment ∈ segments, c ∈ segment := by
  induction segments with
  | nil => cases h
  | cons segment segments ih =>
      cases segments with
      | nil => exact .inr ⟨segment, List.mem_cons_self .., h⟩
      | cons next segments =>
          rcases List.mem_append.1 h with hfirst | hrest
          · exact .inr ⟨segment, List.mem_cons_self .., hfirst⟩
          · rcases List.mem_cons.1 hrest with rfl | hrest
            · exact .inl rfl
            · rcases ih hrest with hsep | ⟨other, hother, hc⟩
              · exact .inl hsep
              · exact .inr ⟨other, List.mem_cons_of_mem _ hother, hc⟩

theorem join_ne_nil {segments : List (List Char)} (hne : segments ≠ [])
    (h : ∀ segment ∈ segments, segment ≠ []) : join sep segments ≠ [] := by
  match segments with
  | [segment] => exact h segment (List.mem_cons_self ..)
  | segment :: next :: segments => simp [join]

theorem head?_join_ne_of_head? {segments : List (List Char)}
    (hfirst : segments.head? ≠ some []) (h : ∀ segment ∈ segments, sep ∉ segment) :
    (join sep segments).head? ≠ some sep := by
  match segments with
  | [] => simp [join]
  | [segment] =>
      intro hhead
      exact h segment (List.mem_cons_self ..) (List.mem_of_head? hhead)
  | segment :: next :: segments =>
      have hne : segment ≠ [] := fun hnil => hfirst (congrArg some hnil)
      rw [join, List.head?_append_of_ne_nil _ hne]
      · intro hhead
        exact h segment (List.mem_cons_self ..) (List.mem_of_head? hhead)
      · intro hnil
        cases hnil

theorem head?_join_ne {segments : List (List Char)}
    (h : ∀ segment ∈ segments, segment ≠ [] ∧ sep ∉ segment) :
    (join sep segments).head? ≠ some sep := by
  refine head?_join_ne_of_head? ?_ fun segment hsegment => (h segment hsegment).2
  intro hhead
  exact (h [] (List.mem_of_head? hhead)).1 rfl

theorem getLast?_join_ne {segments : List (List Char)}
    (h : ∀ segment ∈ segments, segment ≠ [] ∧ sep ∉ segment) :
    (join sep segments).getLast? ≠ some sep := by
  induction segments with
  | nil => simp [join]
  | cons segment segments ih =>
      rcases List.forall_mem_cons.1 h with ⟨hsegment, hsegments⟩
      cases segments with
      | nil =>
          intro hlast
          exact hsegment.2 (List.mem_of_getLast? hlast)
      | cons next segments =>
          have hrest : join sep (next :: segments) ≠ [] :=
            join_ne_nil (List.cons_ne_nil _ _) fun other hother => (hsegments other hother).1
          rw [join, List.append_cons, List.getLast?_append_of_ne_nil _ hrest]
          · exact ih hsegments
          · intro hnil
            cases hnil

end Text
end OfficePictures
