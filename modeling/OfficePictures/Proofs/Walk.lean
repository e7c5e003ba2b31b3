import OfficePictures.Proofs.Result.Items
import OfficePictures.Walk

/-!
# Walk — what is gathered from a walk

* `Walk.gatherItems_eq_ok_iff`, `Walk.gatherItems_eq_error_iff` — what is gathered from items, and
  the failure of the first that fails;
* `Walk.mem_of_gather` — what was gathered was yielded by an item of the walk;
* `Walk.isPrefix_of_gather` — a walk that ends earlier gathers what was gathered up to there;
* `Walk.tightened_gather` — if every item yields the same or is refused, so does the walk.
-/

namespace OfficePictures
namespace Walk

variable {ε α β : Type}

theorem gatherItems_cons (f : α → Except ε (List β)) (item : α) (items : List α) :
    gatherItems f (item :: items) = (do
      let found ← f item
      let more ← gatherItems f items
      return found ++ more) := by
  cases hitem : f item with
  | error e => simp only [gatherItems, hitem, bind, Except.bind]
  | ok found =>
      cases hitems : gatherItems f items <;>
        simp only [gatherItems, hitem, hitems, bind, Except.bind, pure, Except.pure]

theorem gather_eq (f : α → Except ε (List β)) (walk : Walk ε α) :
    walk.gather f = (do
      let found ← gatherItems f walk.items
      match walk.obstacle with
      | some e => .error e
      | none => .ok found) := by
  cases hitems : gatherItems f walk.items with
  | error e => simp only [gather, hitems, bind, Except.bind]
  | ok found =>
      cases hobstacle : walk.obstacle <;>
        simp only [gather, hitems, hobstacle, bind, Except.bind]

theorem gatherItems_eq_mapM (f : α → Except ε (List β)) (items : List α) :
    gatherItems f items = (items.mapM f).map List.flatten := by
  induction items with
  | nil => rfl
  | cons item items ih =>
      rw [gatherItems_cons, ih, List.mapM_cons]
      cases f item with
      | error e => rfl
      | ok found => cases items.mapM f <;> rfl

/-- What is gathered is what the items yield, one after the other. -/
theorem gatherItems_eq_ok_iff {f : α → Except ε (List β)} {items : List α} {list : List β} :
    gatherItems f items = .ok list ↔
      ∃ parts, List.Forall₂ (fun item part => f item = .ok part) items parts ∧
        list = parts.flatten := by
  rw [gatherItems_eq_mapM]
  constructor
  · intro h
    rcases Result.exists_of_map h with ⟨parts, hparts, rfl⟩
    exact ⟨parts, Result.mapM_eq_ok_iff.1 hparts, rfl⟩
  · rintro ⟨parts, hparts, rfl⟩
    rw [Result.mapM_eq_ok_iff.2 hparts]
    rfl

/-- The first item that fails decides. -/
theorem gatherItems_eq_error_iff {f : α → Except ε (List β)} {items : List α} {e : ε} :
    gatherItems f items = .error e ↔ Result.FailsFirst f items e := by
  rw [gatherItems_eq_mapM, ← Result.mapM_eq_error_iff]
  constructor
  · intro h
    cases hitems : items.mapM f with
    | error found =>
        rw [hitems] at h
        cases h
        rfl
    | ok parts =>
        rw [hitems] at h
        cases h
  · intro h
    rw [h]
    rfl

/-- What is gathered may be sifted at once, or item by item. -/
theorem gatherItems_filterMap {γ : Type} (f : α → Except ε (List β)) (g : β → Option γ)
    (items : List α) :
    gatherItems (fun item => (f item).map (List.filterMap g)) items =
      (gatherItems f items).map (List.filterMap g) := by
  induction items with
  | nil => rfl
  | cons item items ih =>
      rw [gatherItems_cons, gatherItems_cons, ih]
      cases f item with
      | error e => rfl
      | ok found =>
          cases gatherItems f items with
          | error e => rfl
          | ok more =>
              simp only [bind, Except.bind, pure, Except.pure, Except.map, List.filterMap_append]

/-! ## Where results come from -/

theorem mem_of_gatherItems {f : α → Except ε (List β)} {items : List α} {list : List β} {b : β}
    (h : gatherItems f items = .ok list) (hb : b ∈ list) :
    ∃ item ∈ items, ∃ found, f item = .ok found ∧ b ∈ found := by
  induction items generalizing list with
  | nil =>
      cases h
      cases hb
  | cons item items ih =>
      rw [gatherItems_cons] at h
      rcases Result.exists_of_bind h with ⟨found, hitem, h⟩
      rcases Result.exists_of_bind h with ⟨more, hitems, h⟩
      cases h
      rcases List.mem_append.1 hb with hfound | hmore
      · exact ⟨item, List.mem_cons_self .., found, hitem, hfound⟩
      · rcases ih hitems hmore with ⟨other, hother, yielded, hyielded, hmem⟩
        exact ⟨other, List.mem_cons_of_mem _ hother, yielded, hyielded, hmem⟩

theorem mem_gatherItems_of_mem {f : α → Except ε (List β)} {items : List α} {list found : List β}
    {item : α} {b : β} (h : gatherItems f items = .ok list) (hitem : item ∈ items)
    (hfound : f item = .ok found) (hb : b ∈ found) : b ∈ list := by
  induction items generalizing list with
  | nil => cases hitem
  | cons first items ih =>
      rw [gatherItems_cons] at h
      rcases Result.exists_of_bind h with ⟨front, hfront, h⟩
      rcases Result.exists_of_bind h with ⟨more, hmore, h⟩
      cases h
      rcases List.mem_cons.1 hitem with rfl | hitem
      · have hsame : front = found := Except.ok.inj (hfront.symm.trans hfound)
        exact List.mem_append_left _ (hsame ▸ hb)
      · exact List.mem_append_right _ (ih hmore hitem)

/-- Nothing stopped a walk from which something was gathered. -/
theorem ok_of_gather {f : α → Except ε (List β)} {walk : Walk ε α} {list : List β}
    (h : walk.gather f = .ok list) :
    gatherItems f walk.items = .ok list ∧ walk.obstacle = none := by
  rw [gather_eq] at h
  rcases Result.exists_of_bind h with ⟨found, hitems, h⟩
  cases hobstacle : walk.obstacle with
  | some e =>
      rw [hobstacle] at h
      cases h
  | none =>
      rw [hobstacle] at h
      cases h
      exact ⟨hitems, rfl⟩

theorem mem_of_gather {f : α → Except ε (List β)} {walk : Walk ε α} {list : List β} {b : β}
    (h : walk.gather f = .ok list) (hb : b ∈ list) :
    ∃ item ∈ walk.items, ∃ found, f item = .ok found ∧ b ∈ found :=
  mem_of_gatherItems (ok_of_gather h).1 hb

/-! ## Walks that end earlier -/

theorem isPrefix_of_gatherItems {f : α → Except ε (List β)} {items others : List α}
    {list list' : List β} (hfront : items <+: others) (h : gatherItems f items = .ok list)
    (hothers : gatherItems f others = .ok list') : list <+: list' := by
  rw [gatherItems_eq_mapM] at h hothers
  rcases Result.exists_of_map h with ⟨found, hfound, rfl⟩
  rcases Result.exists_of_map hothers with ⟨found', hfound', rfl⟩
  rcases Result.isPrefix_of_mapM hfront hfound hfound' with ⟨more, rfl⟩
  rw [List.flatten_append]
  exact List.prefix_append _ _

/-- Whatever stopped a walk, it gathers what a longer walk gathers from the same items. -/
theorem isPrefix_of_gather {f : α → Except ε (List β)} {walk longer : Walk ε α}
    {list list' : List β} (hfront : walk.items <+: longer.items) (h : walk.gather f = .ok list)
    (hlonger : longer.gather f = .ok list') : list <+: list' :=
  isPrefix_of_gatherItems hfront (ok_of_gather h).1 (ok_of_gather hlonger).1

/-! ## Tighter limits -/

section Tightened

open Result

variable {IsRefusal : ε → Prop} {f g : α → Except ε (List β)}

theorem tightened_gatherItems (h : ∀ item, Tightened IsRefusal (f item) (g item))
    (items : List α) : Tightened IsRefusal (gatherItems f items) (gatherItems g items) := by
  induction items with
  | nil => exact .refl _
  | cons item items ih =>
      rw [gatherItems_cons, gatherItems_cons]
      exact (h item).bind fun found => ih.bind fun more => .refl _

theorem tightened_gather (h : ∀ item, Tightened IsRefusal (f item) (g item))
    (walk : Walk ε α) : Tightened IsRefusal (walk.gather f) (walk.gather g) := by
  rw [gather_eq, gather_eq]
  exact (tightened_gatherItems h walk.items).bind fun found => .refl _

end Tightened

end Walk
end OfficePictures
