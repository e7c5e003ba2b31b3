/-!
# Walk — consecutive items up to an obstacle

Streams of records are read one record after the other.  A walk holds the items that could be read
and, if it did not reach the end, what stopped it; so there is at most one obstacle, and it comes
last.

`Walk.gather` treats the items in order.  The first item that fails decides, and the obstacle counts
only if no item fails before it.
-/

namespace OfficePictures

/-- The items that were read, and what stopped the walk. -/
structure Walk (ε α : Type) where
  items : List α
  obstacle : Option ε
  deriving DecidableEq, Repr

namespace Walk

variable {ε α β : Type}

/-- The walk that has nothing to read. -/
def done : Walk ε α :=
  ⟨[], none⟩

def stopped (obstacle : ε) : Walk ε α :=
  ⟨[], some obstacle⟩

def cons (item : α) (walk : Walk ε α) : Walk ε α :=
  ⟨item :: walk.items, walk.obstacle⟩

@[simp] theorem items_cons (item : α) (walk : Walk ε α) :
    (cons item walk).items = item :: walk.items :=
  rfl

@[simp] theorem obstacle_cons (item : α) (walk : Walk ε α) :
    (cons item walk).obstacle = walk.obstacle :=
  rfl

/-- What each item yields, in one list; the first failure decides. -/
def gatherItems (f : α → Except ε (List β)) : List α → Except ε (List β)
  | [] => .ok []
  | item :: items =>
      match f item with
      | .error e => .error e
      | .ok found =>
          match gatherItems f items with
          | .error e => .error e
          | .ok more => .ok (found ++ more)

/-- What the items yield, in one list, if no item fails and nothing stopped the walk. -/
def gather (f : α → Except ε (List β)) (walk : Walk ε α) : Except ε (List β) :=
  match gatherItems f walk.items with
  | .error e => .error e
  | .ok found =>
      match walk.obstacle with
      | some e => .error e
      | none => .ok found

@[simp] theorem gather_done (f : α → Except ε (List β)) : (done : Walk ε α).gather f = .ok [] :=
  rfl

/-- The item in front decides first, and what it yields comes first. -/
theorem gather_cons (f : α → Except ε (List β)) (item : α) (walk : Walk ε α) :
    (cons item walk).gather f = (do
      let found ← f item
      let more ← walk.gather f
      return found ++ more) := by
  cases hitem : f item with
  | error e => simp [gather, gatherItems, hitem, bind, Except.bind]
  | ok found =>
      cases hitems : gatherItems f walk.items with
      | error e => simp [gather, gatherItems, hitem, hitems, bind, Except.bind]
      | ok more =>
          cases hobstacle : walk.obstacle <;>
            simp [gather, gatherItems, hitem, hitems, hobstacle, bind, Except.bind, pure,
              Except.pure]

end Walk
end OfficePictures
