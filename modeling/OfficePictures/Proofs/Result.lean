/-!
# Result — steps that may fail

A reader goes step by step, and the first step that fails decides.

* `Result.exists_of_bind`, `Result.exists_of_map` — if a reader ends well, so did its steps;
* `Result.Tightened` — how a reader under tighter limits compares with the same reader under wider
  ones: it gives the same, or it refuses;
* `Tightened.bind` — readers that compare so step by step compare so as a whole.
-/

namespace OfficePictures
namespace Result

variable {ε α β : Type}

/-! ## Steps of a reader that ends well -/

theorem exists_of_bind {step : Except ε α} {next : α → Except ε β} {b : β}
    (h : step >>= next = .ok b) : ∃ a, step = .ok a ∧ next a = .ok b := by
  cases step with
  | error e => cases h
  | ok a => exact ⟨a, rfl, h⟩

theorem exists_of_map {step : Except ε α} {f : α → β} {b : β} (h : step.map f = .ok b) :
    ∃ a, step = .ok a ∧ f a = b := by
  cases step with
  | error e => cases h
  | ok a => exact ⟨a, rfl, Except.ok.inj h⟩

theorem ok_of_mapError {ε' : Type} {step : Except ε α} {f : ε → ε'} {a : α}
    (h : step.mapError f = .ok a) : step = .ok a := by
  cases step with
  | error e => cases h
  | ok found => exact congrArg Except.ok (Except.ok.inj h)

theorem ok_of_toOption {result : Except ε α} {a : α} (h : result.toOption = some a) :
    result = .ok a := by
  cases result with
  | error e => cases h
  | ok found => exact congrArg Except.ok (Option.some.inj h)

/-! ## Tighter limits -/

/-- What a reader gives under tighter limits, beside what it gives under wider ones: no other
result, and no failure of its own but a refusal. -/
structure Tightened (IsRefusal : ε → Prop) (tight wide : Except ε α) : Prop where
  keeps : ∀ a, tight = .ok a → wide = .ok a
  refuses : ∀ a, wide = .ok a → tight = .ok a ∨ ∃ e, tight = .error e ∧ IsRefusal e

namespace Tightened

variable {IsRefusal : ε → Prop}

/-- A reader that does not look at the limits. -/
theorem refl (result : Except ε α) : Tightened IsRefusal result result :=
  ⟨fun _ h => h, fun _ h => .inl h⟩

/-- A reader that refuses under the tighter limits. -/
theorem of_refusal {e : ε} (h : IsRefusal e) (wide : Except ε α) :
    Tightened IsRefusal (.error e) wide where
  keeps := by
    intro _ hok
    cases hok
  refuses := fun _ _ => .inr ⟨e, rfl, h⟩

/-- A comparison with fewer refusals. -/
theorem mono {IsRefusal' : ε → Prop} {tight wide : Except ε α}
    (h : Tightened IsRefusal tight wide) (hmono : ∀ e, IsRefusal e → IsRefusal' e) :
    Tightened IsRefusal' tight wide where
  keeps := h.keeps
  refuses := fun a ha =>
    (h.refuses a ha).imp_right fun ⟨e, herror, hrefusal⟩ => ⟨e, herror, hmono e hrefusal⟩

theorem bind {tight wide : Except ε α} {next next' : α → Except ε β}
    (h : Tightened IsRefusal tight wide) (hnext : ∀ a, Tightened IsRefusal (next a) (next' a)) :
    Tightened IsRefusal (tight >>= next) (wide >>= next') where
  keeps := by
    intro b hb
    rcases exists_of_bind hb with ⟨a, ha, hb⟩
    rw [h.keeps a ha]
    exact (hnext a).keeps b hb
  refuses := by
    intro b hb
    rcases exists_of_bind hb with ⟨a, ha, hb⟩
    -- The first step refuses, or it gives the same and the next step decides.
    rcases h.refuses a ha with hsame | ⟨e, herror, hrefusal⟩
    · rw [hsame]
      exact (hnext a).refuses b hb
    · exact .inr ⟨e, by rw [herror]; rfl, hrefusal⟩

theorem map {tight wide : Except ε α} (f : α → β) (h : Tightened IsRefusal tight wide) :
    Tightened IsRefusal (tight.map f) (wide.map f) where
  keeps := by
    intro b hb
    rcases exists_of_map hb with ⟨a, ha, rfl⟩
    rw [h.keeps a ha]
    rfl
  refuses := by
    intro b hb
    rcases exists_of_map hb with ⟨a, ha, rfl⟩
    rcases h.refuses a ha with hsame | ⟨e, herror, hrefusal⟩
    · exact .inl (by rw [hsame]; rfl)
    · exact .inr ⟨e, by rw [herror]; rfl, hrefusal⟩

/-- Faults that are told in other words. -/
theorem mapError {ε' : Type} {IsRefusal' : ε' → Prop} {tight wide : Except ε α} {f : ε → ε'}
    (h : Tightened IsRefusal tight wide) (hf : ∀ e, IsRefusal e → IsRefusal' (f e)) :
    Tightened IsRefusal' (tight.mapError f) (wide.mapError f) where
  keeps := by
    intro a ha
    rw [h.keeps a (ok_of_mapError ha)]
    rfl
  refuses := by
    intro a ha
    rcases h.refuses a (ok_of_mapError ha) with hsame | ⟨e, herror, hrefusal⟩
    · exact .inl (by rw [hsame]; rfl)
    · exact .inr ⟨f e, by rw [herror]; rfl, hf e hrefusal⟩

end Tightened
end Result
end OfficePictures
