import Mathlib.Algebra.Group.Nat.Defs
import OfficePictures.Proofs.Art.Location

/-!
# Guarded — readers that count in machine words

A machine counts in words of 64 bits and looks into a buffer by position.  A sum that fits no word,
and a bound that is not inside the buffer, is a trap: the reader ends there, whatever it was about
to tell.  Positions may also be looked up, and then there is nothing outside.

Guarded readers do this step by step.  They are compared with the readers of the library, which
count without bounds and cut buffers as lists: where a guarded reader is shown to be
`.ok` of the other, it runs into no trap.

* `add`, `mul`, `entry`, `part`, `put` — steps that can run into a trap, and when they do not;
* `u16?_eq`, `u32?_eq` — fields are looked up without one;
* `Guarded.bind_eq`, `Attempt.of_bind` — a reader that is free of traps, one step after the other;
* `Guarded.ite_eq`, `Attempt.ite_of` — and one way or the other.
-/

namespace OfficePictures
namespace Machine

/-- Why a machine does not go on. -/
inductive Trap
  /-- A sum or a product fits no word. -/
  | overflow
  /-- A position or a part is not inside the buffer. -/
  | outside
  deriving DecidableEq, Repr

/-- What a step comes to that may run into a trap. -/
abbrev Guarded (α : Type) := Except Trap α

/-- A reader that may run into a trap and, apart from that, may find a fault. -/
abbrev Attempt (α : Type) := ExceptT Fault Guarded α

/-- A step without a trap, and what follows it. -/
theorem Guarded.bind_eq {α β : Type} {step : Guarded α} {a : α} (h : step = .ok a)
    (next : α → Guarded β) : (step >>= next) = next a := by
  subst h
  rfl

/-- A choice between steps without a trap. -/
theorem Guarded.ite_eq {α : Type} {p : Prop} [Decidable p] {step other : Guarded α} {a b : α}
    (h : p → step = .ok a) (hother : ¬ p → other = .ok b) :
    (if p then step else other) = .ok (if p then a else b) := by
  by_cases hp : p
  · rw [if_pos hp, if_pos hp]
    exact h hp
  · rw [if_neg hp, if_neg hp]
    exact hother hp

/-- A loop whose rounds are free of traps. -/
theorem Guarded.foldlM_eq {α S : Type} {step : S → α → Guarded S} {taking : S → α → S}
    {list : List α} (h : ∀ state, ∀ a ∈ list, step state a = .ok (taking state a)) (state : S) :
    list.foldlM step state = .ok (list.foldl taking state) := by
  induction list generalizing state with
  | nil => rfl
  | cons a list ih =>
      rw [List.foldlM_cons, bind_eq (h state a (List.mem_cons_self ..)), List.foldl_cons]
      exact ih (fun state b hb => h state b (List.mem_cons_of_mem a hb)) _

/-! ## Words -/

def add (a b : Nat) : Guarded Nat :=
  if a + b < 2 ^ 64 then .ok (a + b) else .error .overflow

def mul (a b : Nat) : Guarded Nat :=
  if a * b < 2 ^ 64 then .ok (a * b) else .error .overflow

/-- The sum, if it fits a word. -/
def add? (a b : Nat) : Option Nat :=
  if a + b < 2 ^ 64 then some (a + b) else none

theorem add_eq {a b : Nat} (h : a + b < 2 ^ 64) : add a b = .ok (a + b) :=
  if_pos h

theorem mul_eq {a b : Nat} (h : a * b < 2 ^ 64) : mul a b = .ok (a * b) :=
  if_pos h

theorem add?_eq {a b : Nat} (h : a + b < 2 ^ 64) : add? a b = some (a + b) :=
  if_pos h

/-- A sum that is looked up in front of a bound. -/
theorem filter_add?_eq {a b : Nat} (h : a + b < 2 ^ 64) (bound : Nat) :
    (add? a b).filter (· ≤ bound) = if a + b ≤ bound then some (a + b) else none := by
  rw [add?_eq h, Option.filter_some]
  simp only [decide_eq_true_eq]

/-- A sum, and that it is one. -/
def sum (a b : Nat) : Guarded { n : Nat // n = a + b } :=
  if a + b < 2 ^ 64 then .ok ⟨a + b, rfl⟩ else .error .overflow

theorem sum_eq {a b : Nat} (h : a + b < 2 ^ 64) : sum a b = .ok ⟨a + b, rfl⟩ :=
  if_pos h

/-! ## Buffers -/

def entry {α : Type} (data : List α) (i : Nat) : Guarded α :=
  match data[i]? with
  | some found => .ok found
  | none => .error .outside

/-- The bytes from `start` up to `stop`. -/
def part (data : Bytes) (start stop : Nat) : Guarded Bytes :=
  if start ≤ stop ∧ stop ≤ data.length then .ok ((data.drop start).take (stop - start))
  else .error .outside

/-- The bytes from `start` up to `stop`, if these bounds are inside. -/
def part? (data : Bytes) (start stop : Nat) : Option Bytes :=
  if start ≤ stop ∧ stop ≤ data.length then some ((data.drop start).take (stop - start)) else none

/-- Puts bytes into a buffer in place of those from `start` up to `stop`, which are as many. -/
def put (data : Bytes) (start stop : Nat) (bytes : Bytes) : Guarded Bytes :=
  if start ≤ stop ∧ stop ≤ data.length ∧ bytes.length = stop - start then
    .ok (data.take start ++ bytes ++ data.drop stop)
  else
    .error .outside

theorem entry_eq {α : Type} {data : List α} {i : Nat} (h : i < data.length) :
    entry data i = .ok data[i] := by
  rw [entry, List.getElem?_eq_getElem h]

theorem part_eq {data : Bytes} {start stop : Nat} (h : start ≤ stop) (hstop : stop ≤ data.length) :
    part data start stop = .ok ((data.drop start).take (stop - start)) :=
  if_pos ⟨h, hstop⟩

theorem part?_add (data : Bytes) (start length : Nat) :
    part? data start (start + length) = Bytes.slice? data start length := by
  rw [part?, Bytes.slice?, Nat.add_sub_cancel_left]
  simp only [Nat.le_add_right, true_and]

/-- The bytes behind a position are a part if the position is inside. -/
theorem part?_length {data : Bytes} {start : Nat} :
    part? data start data.length = if start ≤ data.length then some (data.drop start) else none := by
  have hrest : (data.drop start).take (data.length - start) = data.drop start := by
    rw [← List.length_drop, List.take_length]
  rw [part?, hrest]
  simp only [Nat.le_refl, and_true]

theorem put_append {front middle back bytes : Bytes} (h : bytes.length = middle.length) :
    put (front ++ (middle ++ back)) front.length (front.length + middle.length) bytes =
      .ok (front ++ (bytes ++ back)) := by
  have hbounds : front.length ≤ front.length + middle.length ∧
      front.length + middle.length ≤ (front ++ (middle ++ back)).length ∧
      bytes.length = front.length + middle.length - front.length := by
    simp only [List.length_append]
    omega
  rw [put, if_pos hbounds, List.take_left, ← List.drop_drop, List.drop_left, List.drop_left,
    List.append_assoc]

/-! ## Fields -/

/-- The bytes of the field of `width` bytes at `offset`, if the data reach that far. -/
def field? (data : Bytes) (offset width : Nat) : Option Bytes :=
  (add? offset width).bind (part? data offset)

/-- The unsigned 16-bit field at `offset`. -/
def u16? (data : Bytes) (offset : Nat) : Guarded (Option UInt16) :=
  match field? data offset 2 with
  | none => return none
  | some field => do
      let first ← entry field 0
      let second ← entry field 1
      return some (UInt16.ofNat (Bytes.toNat [first, second]))

/-- The unsigned 32-bit field at `offset`. -/
def u32? (data : Bytes) (offset : Nat) : Guarded (Option UInt32) :=
  match field? data offset 4 with
  | none => return none
  | some field => do
      let first ← entry field 0
      let second ← entry field 1
      let third ← entry field 2
      let fourth ← entry field 3
      return some (UInt32.ofNat (Bytes.toNat [first, second, third, fourth]))

section Fields

variable {data : Bytes} {offset width : Nat}

/-- A field that is looked up is inside or not, wherever it is said to begin, as long as the data
themselves end where words can reach. -/
theorem field?_eq (h : offset + width < 2 ^ 64 ∨ data.length < 2 ^ 64) :
    field? data offset width = Bytes.slice? data offset width := by
  by_cases hword : offset + width < 2 ^ 64
  · rw [field?, add?_eq hword, Option.bind_some, part?_add]
  · -- A field that begins so far behind is not inside.
    have houtside : ¬ offset + width ≤ data.length := by omega
    rw [field?, add?, if_neg hword, Option.bind_none, Bytes.slice?, if_neg houtside]

theorem natAt?_eq_slice? (hwidth : 0 < width) :
    Bytes.natAt? data offset width = (Bytes.slice? data offset width).map Bytes.toNat := by
  have hlength := Bytes.length_take_drop data offset width
  unfold Bytes.natAt? Bytes.slice?
  dsimp only
  by_cases hinside : offset + width ≤ data.length
  · have hwhole : ((data.drop offset).take width).length = width := by omega
    rw [if_pos hwhole, if_pos hinside, Option.map_some]
  · have hshort : ((data.drop offset).take width).length ≠ width := by omega
    rw [if_neg hshort, if_neg hinside, Option.map_none]

theorem length_of_slice? {field : Bytes} (h : Bytes.slice? data offset width = some field) :
    field.length = width := by
  unfold Bytes.slice? at h
  split at h
  · cases h
    rw [Bytes.length_take_drop]
    omega
  · cases h

/-- Fields of 16 bits are read without a trap. -/
theorem u16?_eq (h : offset + 2 < 2 ^ 64 ∨ data.length < 2 ^ 64) :
    u16? data offset = .ok (Bytes.u16? data offset) := by
  rw [u16?, field?_eq h, Bytes.u16?, natAt?_eq_slice? (by decide)]
  cases hfield : Bytes.slice? data offset 2 with
  | none => rfl
  | some field =>
      -- A field that is inside has both of its bytes.
      rcases List.length_eq_two.1 (length_of_slice? hfield) with ⟨first, second, rfl⟩
      rfl

/-- Fields of 32 bits are read without a trap. -/
theorem u32?_eq (h : offset + 4 < 2 ^ 64 ∨ data.length < 2 ^ 64) :
    u32? data offset = .ok (Bytes.u32? data offset) := by
  rw [u32?, field?_eq h, Bytes.u32?, natAt?_eq_slice? (by decide)]
  cases hfield : Bytes.slice? data offset 4 with
  | none => rfl
  | some field =>
      have hlength := length_of_slice? hfield
      rcases field with _ | ⟨first, _ | ⟨second, _ | ⟨third, _ | ⟨fourth, _ | ⟨fifth, rest⟩⟩⟩⟩⟩
      case cons.cons.cons.cons.nil => rfl
      all_goals simp only [List.length_cons, List.length_nil] at hlength; omega

theorem le_length_of_u16? {value : UInt16} (h : Bytes.u16? data offset = some value) :
    offset + 2 ≤ data.length := by
  rcases Option.map_eq_some_iff.1 h with ⟨_, hn, -⟩
  exact Bytes.le_length_of_natAt? hn (by decide)

theorem exists_u32?_eq_some (h : offset + 4 ≤ data.length) :
    ∃ value, Bytes.u32? data offset = some value := by
  rw [Bytes.u32?, natAt?_eq_slice? (by decide), Bytes.slice?, if_pos h]
  exact ⟨_, rfl⟩

end Fields

/-! ## Readers without traps -/

namespace Attempt

variable {α β : Type}

/-- The reader that comes to a result without a trap. -/
def of (result : Except Fault α) : Attempt α :=
  ExceptT.mk (.ok result)

theorem of_ok_bind (a : α) (next : α → Attempt β) : (of (.ok a) >>= next) = next a :=
  rfl

/-- A reader goes on where the step in front of it found no fault. -/
theorem of_bind {result : Except Fault α} {next : α → Attempt β} {following : α → Except Fault β}
    (h : ∀ a, result = .ok a → next a = of (following a)) :
    (of result >>= next) = of (result >>= following) := by
  cases result with
  | error fault => rfl
  | ok a => exact h a rfl

/-- Where nothing more is found, what was found before stays as it is. -/
theorem of_nothing (found : List α) :
    (return found : Attempt (List α)) = of ((Except.ok []).map (found ++ ·)) :=
  congrArg of (congrArg Except.ok (List.append_nil found).symm)

/-- A choice between readers that are free of traps. -/
theorem ite_of {p : Prop} [Decidable p] {reader other : Attempt α} {result following : Except Fault α}
    (h : p → reader = of result) (hother : ¬ p → other = of following) :
    (if p then reader else other) = of (if p then result else following) := by
  by_cases hp : p
  · rw [if_pos hp, if_pos hp]
    exact h hp
  · rw [if_neg hp, if_neg hp]
    exact hother hp

theorem lift_bind {step : Guarded α} {a : α} (h : step = .ok a) (next : α → Attempt β) :
    ((liftM step : Attempt α) >>= next) = next a := by
  subst h
  rfl

/-- A loop whose rounds are free of traps; the first fault ends it. -/
theorem foldlM_of {step : β → α → Attempt β} {taking : β → α → Except Fault β}
    (h : ∀ state a, step state a = of (taking state a)) (list : List α) (state : β) :
    list.foldlM step state = of (list.foldlM taking state) := by
  induction list generalizing state with
  | nil => rfl
  | cons a list ih =>
      rw [List.foldlM_cons, List.foldlM_cons, h]
      exact of_bind fun state _ => ih state

end Attempt

end Machine
end OfficePictures
