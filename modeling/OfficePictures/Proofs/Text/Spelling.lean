import OfficePictures.Proofs.Text.Lowercase
import OfficePictures.Text.Path

/-!
# Spelling — texts that differ in the case of ASCII letters

Two texts that differ in nothing but the case of ASCII letters have the same `asciiLower`.  What
does not look at that case can be worked out on it as well.

* `lower_asciiLower` — the full lower case is the same;
* `splitLast?_asciiLower`, `split_asciiLower`, `join_asciiLower` — cutting and putting together at
  a character that is no letter go along with it;
* `follow?_asciiLower` — and so does going along a path.
-/

namespace OfficePictures
namespace Text

/-! ## Characters -/

/-- The letters that `Char.toLower` changes. -/
def capitals : List Char :=
  ['A', 'B', 'C', 'D', 'E', 'F', 'G', 'H', 'I', 'J', 'K', 'L', 'M', 'N', 'O', 'P', 'Q', 'R', 'S',
    'T', 'U', 'V', 'W', 'X', 'Y', 'Z']

theorem toLower_eq_or_mem_capitals (c : Char) : c.toLower = c ∨ c ∈ capitals := by
  by_cases hcapital : c.val ≥ 'A'.val ∧ c.val ≤ 'Z'.val
  · right
    have hcodes : ∀ d : Fin 26, Char.ofNat (65 + d.val) ∈ capitals := by
      decide
    have hrange : 65 ≤ c.toNat ∧ c.toNat ≤ 90 := hcapital
    have hmem := hcodes ⟨c.toNat - 65, by omega⟩
    have hcode : 65 + (c.toNat - 65) = c.toNat := by
      omega
    simpa only [hcode, Char.ofNat_toNat] using hmem
  · left
    exact dif_neg hcapital

/-- What does not tell the capitals from their lower case does not see it at all. -/
theorem toLower_invariant {β : Type} {f : Char → β}
    (h : capitals.map (fun c => f c.toLower) = capitals.map f) (c : Char) : f c.toLower = f c := by
  rcases toLower_eq_or_mem_capitals c with hsame | hcapital
  · rw [hsame]
  · exact List.map_inj_left.1 h c hcapital

@[simp] theorem isCased_toLower (c : Char) : isCased c.toLower = isCased c :=
  toLower_invariant (f := isCased) (by decide +kernel) c

@[simp] theorem isCaseIgnorable_toLower (c : Char) : isCaseIgnorable c.toLower = isCaseIgnorable c :=
  toLower_invariant (f := isCaseIgnorable) (by decide +kernel) c

@[simp] theorem lowerChar_toLower (c : Char) : lowerChar c.toLower = lowerChar c :=
  toLower_invariant (f := lowerChar) (by decide +kernel) c

/-- The character is neither a capital nor the lower case of one. -/
def IsNoLetter (sep : Char) : Prop :=
  sep ∉ capitals ∧ sep ∉ capitals.map Char.toLower

instance (sep : Char) : Decidable (IsNoLetter sep) :=
  inferInstanceAs (Decidable (_ ∧ _))

theorem IsNoLetter.toLower_eq_iff {sep : Char} (h : IsNoLetter sep) (c : Char) :
    c.toLower = sep ↔ c = sep := by
  rcases toLower_eq_or_mem_capitals c with hsame | hcapital
  · rw [hsame]
  · refine iff_of_false ?_ ?_
    · rintro rfl
      exact h.2 (List.mem_map_of_mem hcapital)
    · rintro rfl
      exact h.1 hcapital

theorem IsNoLetter.toLower_eq {sep : Char} (h : IsNoLetter sep) : sep.toLower = sep :=
  (h.toLower_eq_iff sep).2 rfl

theorem isNoLetter_sigma : IsNoLetter 'Σ' := by
  decide +kernel

theorem isNoLetter_slash : IsNoLetter '/' := by
  decide

theorem isNoLetter_backslash : IsNoLetter '\\' := by
  decide

theorem isNoLetter_dot : IsNoLetter '.' := by
  decide

/-! ## Lower case -/

theorem asciiLower_cons (c : Char) (text : List Char) :
    asciiLower (c :: text) = c.toLower :: asciiLower text :=
  rfl

theorem asciiLower_append (front back : List Char) :
    asciiLower (front ++ back) = asciiLower front ++ asciiLower back :=
  List.map_append

@[simp] theorem asciiLower_eq_nil_iff {text : List Char} : asciiLower text = [] ↔ text = [] :=
  List.map_eq_nil_iff

@[simp] theorem asciiLower_asciiLower (text : List Char) :
    asciiLower (asciiLower text) = asciiLower text := by
  have htwice : ∀ c : Char, c.toLower.toLower = c.toLower :=
    toLower_invariant (f := Char.toLower) (by decide +kernel)
  rw [asciiLower, asciiLower, List.map_map]
  exact List.map_congr_left fun c _ => htwice c

theorem casedFollows_asciiLower (text : List Char) :
    casedFollows (asciiLower text) = casedFollows text := by
  unfold casedFollows
  induction text with
  | nil => rfl
  | cons c text ih =>
      rw [asciiLower_cons, List.dropWhile_cons, List.dropWhile_cons, isCaseIgnorable_toLower]
      cases isCaseIgnorable c with
      | true => exact ih
      | false => exact isCased_toLower c

theorem lowerFrom_asciiLower (afterCased : Bool) (text : List Char) :
    lowerFrom afterCased (asciiLower text) = lowerFrom afterCased text := by
  induction text generalizing afterCased with
  | nil => rfl
  | cons c text ih =>
      rw [asciiLower_cons, lowerFrom, lowerFrom]
      simp only [isNoLetter_sigma.toLower_eq_iff, casedFollows_asciiLower, lowerChar_toLower,
        isCaseIgnorable_toLower, isCased_toLower, ih]

@[simp] theorem lower_asciiLower (text : List Char) : lower (asciiLower text) = lower text :=
  lowerFrom_asciiLower false text

/-! ## Segments -/

section Segments

variable {sep : Char}

theorem splitLast?_asciiLower (h : IsNoLetter sep) (text : List Char) :
    splitLast? sep (asciiLower text) = (splitLast? sep text).map (Prod.map asciiLower asciiLower) := by
  induction text with
  | nil => rfl
  | cons c text ih =>
      rw [asciiLower_cons, splitLast?, splitLast?, ih]
      cases splitLast? sep text with
      | some parts => rfl
      | none =>
          by_cases hc : c = sep
          · simp [h.toLower_eq_iff, hc, asciiLower]
          · simp [h.toLower_eq_iff, hc]

theorem afterLast_asciiLower (h : IsNoLetter sep) (text : List Char) :
    afterLast sep (asciiLower text) = asciiLower (afterLast sep text) := by
  rw [afterLast, afterLast, splitLast?_asciiLower h]
  cases splitLast? sep text <;> rfl

theorem split_asciiLower (h : IsNoLetter sep) (text : List Char) :
    split sep (asciiLower text) = (split sep text).map asciiLower := by
  induction text with
  | nil => rfl
  | cons c text ih =>
      rw [asciiLower_cons, split, split, ih]
      by_cases hc : c = sep
      · simp [h.toLower_eq_iff, hc, asciiLower]
      · simp only [h.toLower_eq_iff, hc, if_false]
        cases split sep text <;> rfl

theorem join_asciiLower (h : IsNoLetter sep) (segments : List (List Char)) :
    join sep (segments.map asciiLower) = asciiLower (join sep segments) := by
  induction segments with
  | nil => rfl
  | cons segment segments ih =>
      cases segments with
      | nil => rfl
      | cons next segments =>
          calc join sep ((segment :: next :: segments).map asciiLower)
              = asciiLower segment ++ sep :: join sep ((next :: segments).map asciiLower) := rfl
            _ = asciiLower segment ++ asciiLower (sep :: join sep (next :: segments)) := by
                rw [ih, asciiLower_cons, h.toLower_eq]
            _ = asciiLower (join sep (segment :: next :: segments)) :=
                (asciiLower_append segment _).symm

end Segments

/-! ## Paths -/

theorem step?_asciiLower {place place' : List (List Char)}
    (h : place.map asciiLower = place'.map asciiLower) (segment : List Char) :
    (step? place segment).map (List.map asciiLower) =
      (step? place' segment).map (List.map asciiLower) := by
  have hroot : place = [] ↔ place' = [] := by
    rw [← List.map_eq_nil_iff, h, List.map_eq_nil_iff]
  unfold step?
  split
  · exact congrArg some h
  · split
    · by_cases hempty : place' = []
      · rw [if_pos hempty, if_pos (hroot.2 hempty)]
      · rw [if_neg hempty, if_neg fun h' => hempty (hroot.1 h')]
        simp [List.map_dropLast, h]
    · simp [h]

/-- Where a path leads is spelled as the place from which it is followed. -/
theorem follow?_asciiLower {place place' : List (List Char)}
    (h : place.map asciiLower = place'.map asciiLower) (path : List Char) :
    (follow? place path).map (List.map asciiLower) =
      (follow? place' path).map (List.map asciiLower) := by
  unfold follow?
  generalize split '/' path = steps
  induction steps generalizing place place' with
  | nil => exact congrArg some h
  | cons segment steps ih =>
      have hstep := step?_asciiLower h segment
      rw [List.foldlM_cons, List.foldlM_cons]
      cases hplace : step? place segment with
      | none =>
          rw [hplace] at hstep
          rw [Option.map_eq_none_iff.1 hstep.symm]
      | some next =>
          rw [hplace] at hstep
          rcases Option.map_eq_some_iff.1 hstep.symm with ⟨next', hplace', hnext⟩
          rw [hplace']
          exact ih hnext.symm

end Text
end OfficePictures
