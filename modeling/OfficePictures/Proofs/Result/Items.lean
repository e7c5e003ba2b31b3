import Mathlib.Data.List.Forall2
import OfficePictures.Proofs.Result

/-!
# Items — one step for each item of a list

A reader that takes the same step for each item of a list ends well if all steps do, and otherwise
with the failure of the first step that fails.

* `Result.mapM_eq_ok_iff`, `Result.exists_mapM_iff` — when all steps end well, and what they give;
* `Result.mapM_eq_error_iff` — the first step that fails decides;
* `Result.isPrefix_of_mapM` — fewer items at the end give fewer results at the end;
* `Result.map_mapM_cons`, `Result.map_mapM_append` — steps whose results are not needed.
-/

namespace OfficePictures
namespace Result

variable {ε α β : Type} {f : α → Except ε β} {items : List α} {list : List β}

theorem mapM_cons_eq_ok_iff {item : α} :
    (item :: items).mapM f = .ok list ↔
      ∃ b more, f item = .ok b ∧ items.mapM f = .ok more ∧ list = b :: more := by
  rw [List.mapM_cons]
  constructor
  · intro h
    rcases exists_of_bind h with ⟨b, hb, h⟩
    rcases exists_of_bind h with ⟨more, hmore, h⟩
    cases h
    exact ⟨b, more, hb, hmore, rfl⟩
  · rintro ⟨b, more, hb, hmore, rfl⟩
    simp [hb, hmore, bind, Except.bind, pure, Except.pure]

theorem mapM_eq_ok_iff :
    items.mapM f = .ok list ↔ List.Forall₂ (fun item b => f item = .ok b) items list := by
  induction items generalizing list with
  | nil =>
      rw [List.mapM_nil, List.forall₂_nil_left_iff]
      constructor
      · intro h
        cases h
        rfl
      · rintro rfl
        rfl
  | cons item items ih =>
      rw [mapM_cons_eq_ok_iff, List.forall₂_cons_left_iff]
      constructor
      · rintro ⟨b, more, hb, hmore, rfl⟩
        exact ⟨b, more, hb, ih.1 hmore, rfl⟩
      · rintro ⟨b, more, hb, hmore, rfl⟩
        exact ⟨b, more, hb, ih.2 hmore, rfl⟩

theorem exists_mapM_iff :
    (∃ list, items.mapM f = .ok list) ↔ ∀ item ∈ items, ∃ b, f item = .ok b := by
  induction items with
  | nil =>
      refine iff_of_true ⟨[], rfl⟩ ?_
      intro item hitem
      cases hitem
  | cons item items ih =>
      rw [List.forall_mem_cons, ← ih]
      constructor
      · rintro ⟨list, h⟩
        rcases mapM_cons_eq_ok_iff.1 h with ⟨b, more, hb, hmore, -⟩
        exact ⟨⟨b, hb⟩, more, hmore⟩
      · rintro ⟨⟨b, hb⟩, more, hmore⟩
        exact ⟨b :: more, mapM_cons_eq_ok_iff.2 ⟨b, more, hb, hmore, rfl⟩⟩

/-- The items up to the first whose step fails, with its failure. -/
def FailsFirst (f : α → Except ε β) (items : List α) (e : ε) : Prop :=
  ∃ front item rest, items = front ++ item :: rest ∧ (∀ other ∈ front, ∃ b, f other = .ok b) ∧
    f item = .error e

theorem failsFirst_cons_iff {item : α} {e : ε} :
    FailsFirst f (item :: items) e ↔
      f item = .error e ∨ (∃ b, f item = .ok b) ∧ FailsFirst f items e := by
  constructor
  · rintro ⟨front, failing, rest, hsplit, hfront, hfails⟩
    cases front with
    | nil =>
        cases hsplit
        exact .inl hfails
    | cons first front =>
        cases hsplit
        rcases List.forall_mem_cons.1 hfront with ⟨hfirst, hfront⟩
        exact .inr ⟨hfirst, front, failing, rest, rfl, hfront, hfails⟩
  · rintro (hfails | ⟨hfirst, front, failing, rest, rfl, hfront, hfails⟩)
    · refine ⟨[], item, items, rfl, ?_, hfails⟩
      intro other hother
      cases hother
    · exact ⟨item :: front, failing, rest, rfl, List.forall_mem_cons.2 ⟨hfirst, hfront⟩, hfails⟩

theorem mapM_eq_error_iff {e : ε} : items.mapM f = .error e ↔ FailsFirst f items e := by
  induction items with
  | nil =>
      constructor
      · intro h
        cases h
      · rintro ⟨front, item, rest, hsplit, -⟩
        cases front <;> cases hsplit
  | cons item items ih =>
      rw [failsFirst_cons_iff, ← ih, List.mapM_cons]
      cases hitem : f item with
      | error found => simp [bind, Except.bind]
      | ok b =>
          cases hitems : items.mapM f with
          | error found => simp [bind, Except.bind]
          | ok more => simp [bind, Except.bind, pure, Except.pure]

/-- Items in front of others give the results in front of theirs. -/
theorem isPrefix_of_mapM {others : List α} {list' : List β} (hfront : items <+: others)
    (h : items.mapM f = .ok list) (hothers : others.mapM f = .ok list') : list <+: list' := by
  rcases hfront with ⟨rest, rfl⟩
  rw [List.mapM_append] at hothers
  rcases exists_of_bind hothers with ⟨found, hfound, hothers⟩
  rcases exists_of_bind hothers with ⟨more, -, hothers⟩
  cases hothers
  have hsame : found = list := Except.ok.inj (hfound.symm.trans h)
  exact hsame ▸ List.prefix_append found more

/-! ## Steps taken for their failures only -/

section Checks

variable {γ : Type}

theorem map_mapM_cons (f : α → Except ε β) (item : α) (items : List α) (c : γ) :
    ((item :: items).mapM f).map (fun _ => c) =
      f item >>= fun _ => (items.mapM f).map fun _ => c := by
  rw [List.mapM_cons]
  cases f item with
  | error e => rfl
  | ok b => cases items.mapM f <;> rfl

theorem map_mapM_append (f : α → Except ε β) (items others : List α) (c : γ) :
    ((items ++ others).mapM f).map (fun _ => c) =
      items.mapM f >>= fun _ => (others.mapM f).map fun _ => c := by
  rw [List.mapM_append]
  cases items.mapM f with
  | error e => rfl
  | ok list => cases others.mapM f <;> rfl

end Checks

end Result
end OfficePictures
