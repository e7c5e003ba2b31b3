import OfficePictures.Proofs.Machine.Guarded

/-!
# Record — art records read in machine words

A guarded reader keeps the whole stream and counts positions in it.  It runs into no trap as long as
the stream ends below half of the greatest word.

* `HasRoom` — bytes whose offsets are all small enough;
* `recordAt_eq` — one record;
* `walk` — records one after the other, each treated before the next one is read;
* `walk_eq` — such a walk does what the library does with the list of the records.
-/

namespace OfficePictures

/-! ## Walks with a state -/

namespace Walk

variable {ε α β S : Type}

/-- Takes the items into a state, one after the other; the first failure decides, and the obstacle
comes last. -/
def fold (step : S → α → Except ε S) (state : S) (walk : Walk ε α) : Except ε S := do
  let state ← walk.items.foldlM step state
  match walk.obstacle with
  | some e => .error e
  | none => .ok state

theorem fold_cons (step : S → α → Except ε S) (state : S) (item : α) (walk : Walk ε α) :
    (cons item walk).fold step state = (step state item >>= fun state => walk.fold step state) := by
  rw [fold, items_cons, List.foldlM_cons]
  cases step state item <;> rfl

/-- To collect what the items yield behind what there is already. -/
def appending (f : α → Except ε (List β)) (found : List β) (item : α) : Except ε (List β) :=
  (f item).map (found ++ ·)

theorem foldlM_appending (f : α → Except ε (List β)) (found : List β) (items : List α) :
    items.foldlM (appending f) found = (gatherItems f items).map (found ++ ·) := by
  induction items generalizing found with
  | nil => exact congrArg Except.ok (List.append_nil found).symm
  | cons item items ih =>
      rw [List.foldlM_cons, gatherItems, appending]
      cases f item with
      | error e => rfl
      | ok more =>
          refine (ih (found ++ more)).trans ?_
          cases gatherItems f items with
          | error e => rfl
          | ok rest => exact congrArg Except.ok (List.append_assoc found more rest)

theorem fold_appending (f : α → Except ε (List β)) (found : List β) (walk : Walk ε α) :
    walk.fold (appending f) found = (walk.gather f).map (found ++ ·) := by
  rw [fold, foldlM_appending, gather]
  cases gatherItems f walk.items with
  | error e => rfl
  | ok more => cases walk.obstacle <;> rfl

end Walk

namespace Machine

/-! ## One record -/

/-- All offsets in these bytes, which begin at `base`, are below half of the greatest word. -/
def HasRoom (data : Bytes) (base : Nat) : Prop :=
  base + data.length < 2 ^ 63

/-- The header that begins at `position`.  Its first field has the version as its last hexadecimal
digit, in front of it the instance. -/
def header? (data : Bytes) (position : Nat) : Guarded (Option Art.Header) := do
  match ← u16? data position with
  | none => return none
  | some first =>
      match ← u16? data (← add position 2) with
      | none => return none
      | some recType =>
          match ← u32? data (← add position 4) with
          | none => return none
          | some length =>
              let version : Fin 16 := ⟨first.toNat % 16, Nat.mod_lt _ (Nat.succ_pos 15)⟩
              let instanceId : Fin 4096 := ⟨first.toNat / 16 % 4096, Nat.mod_lt _ (Nat.succ_pos 4095)⟩
              return some ⟨version, instanceId, recType, length⟩

/-- The record at `position` of `data`, which begins at `base` of its stream. -/
def recordAt (data : Bytes) (position base : Nat) : Attempt Art.Record := do
  let absolute ← add base position
  match ← header? data position with
  | none => throw (.record absolute .headerTruncated)
  | some header =>
      let start ← add position Art.Header.size
      match (add? start header.length.toNat).filter (· ≤ data.length) with
      | none =>
          let remaining := data.length - start
          throw (.record absolute (.overrun header.recType header.length.toNat remaining))
      | some stop =>
          let body ← part data start stop
          return ⟨header, absolute, body⟩

def bodyOffset (record : Art.Record) : Guarded Nat :=
  add record.offset Art.Header.size

section Record

variable {data : Bytes} {position base : Nat}

theorem header?_eq (h : data.length < 2 ^ 63) :
    header? data position = .ok (Art.Header.read? data position) := by
  unfold header? Art.Header.read?
  rw [u16?_eq (.inr (by omega))]
  cases hfirst : Bytes.u16? data position with
  | none => rfl
  | some first =>
      -- Where the first field is inside, the sums for the others are small.
      have hinside := le_length_of_u16? hfirst
      rw [add_eq (by omega), add_eq (by omega)]
      simp only [bind, Except.bind, u16?_eq (.inr (by omega : data.length < 2 ^ 64)),
        u32?_eq (.inr (by omega : data.length < 2 ^ 64)), Option.bind]
      cases Bytes.u16? data (position + 2) with
      | none => rfl
      | some recType => cases Bytes.u32? data (position + 4) <;> rfl

/-- A record inside a small stream is read without a trap. -/
theorem recordAt_eq (hroom : HasRoom data base) (hposition : position ≤ data.length) :
    recordAt data position base = .of (Art.Record.readAt data position base) := by
  have hbound : base + data.length < 2 ^ 63 := hroom
  unfold recordAt Art.Record.readAt Art.Record.read
  rw [Attempt.lift_bind (add_eq (by omega)), Attempt.lift_bind (header?_eq (by omega)),
    Art.Header.read?_drop]
  cases hheader : Art.Header.read? data position with
  | none => rfl
  | some header =>
      have hsize : position + Art.Header.size ≤ data.length :=
        Art.Header.le_length_of_read? hheader
      have hlength : header.length.toNat < 2 ^ 32 := header.length.toNat_lt
      dsimp only
      rw [Attempt.lift_bind (add_eq (by omega)), filter_add?_eq (by omega), List.drop_drop]
      have hbody := Bytes.length_take_drop data (position + Art.Header.size) header.length.toNat
      by_cases hinside : position + Art.Header.size + header.length.toNat ≤ data.length
      · rw [if_pos hinside, if_neg (by omega)]
        dsimp only
        rw [Attempt.lift_bind (part_eq (Nat.le_add_right _ _) hinside), Nat.add_sub_cancel_left]
        rfl
      · rw [if_neg hinside, if_pos (by omega), List.length_drop]
        rfl

/-- Without room, the sum for the offset of a record can be too great. -/
example : (recordAt [0] 1 (2 ^ 64 - 1)).run = .error .overflow := by
  decide

theorem bodyOffset_eq {record : Art.Record} (h : record.offset < 2 ^ 63) :
    bodyOffset record = .ok record.bodyOffset := by
  have hsize : Art.Header.size = 8 := rfl
  exact add_eq (by omega)

/-- There is room in the body of a record for what lies there. -/
theorem HasRoom.body {record : Art.Record} (hroom : HasRoom data base)
    (hlies : record.LiesIn data base) : HasRoom record.body record.bodyOffset := by
  have hend := hlies.end_le
  unfold HasRoom Art.Record.bodyOffset at *
  unfold Art.Record.size at hend
  omega

theorem HasRoom.offset_lt {record : Art.Record} (hroom : HasRoom data base)
    (hlies : record.LiesIn data base) : record.offset < 2 ^ 63 := by
  have hend := hlies.end_le
  unfold HasRoom at hroom
  omega

end Record

/-! ## Records one after the other -/

/-- Takes the records from `position` on into a state. -/
def walk {S : Type} (data : Bytes) (base : Nat) (step : S → Art.Record → Attempt S) (state : S)
    (position : Nat) : Attempt S :=
  if data.length - position < Art.Header.size then
    return state
  else do
    let record ← recordAt data position base
    let ⟨length, _⟩ ← sum Art.Header.size record.body.length
    let ⟨next, _⟩ ← sum position length
    let state ← step state record
    walk data base step state next
termination_by data.length - position
decreasing_by
  simp only [Art.Header.size] at *
  omega

/-- A walk over a small stream runs into no trap if its steps do not. -/
theorem walk_eq {S : Type} {data : Bytes} {base : Nat} {step : S → Art.Record → Attempt S}
    {taking : S → Art.Record → Except Fault S} (hroom : HasRoom data base)
    (hstep : ∀ state record, record.LiesIn data base → step state record = .of (taking state record))
    (state : S) {position : Nat} (hposition : position ≤ data.length) :
    walk data base step state position =
      .of ((Art.Record.scan (data.drop position) (base + position)).fold taking state) := by
  have hsize : Art.Header.size = 8 := rfl
  have hbound : base + data.length < 2 ^ 63 := hroom
  induction hleft : data.length - position using Nat.strongRecOn generalizing state position with
  | ind left ih =>
      have htake := Bytes.length_take_drop data position Art.Header.size
      rw [walk, Art.Record.scan]
      by_cases hend : data.length - position < Art.Header.size
      · rw [if_pos hend, if_pos (by omega)]
        rfl
      · rw [if_neg hend, if_neg (by omega), recordAt_eq hroom hposition, Art.Record.readAt]
        cases hread : Art.Record.read (data.drop position) (base + position) with
        | error fault => rfl
        | ok record =>
            have hlies : record.LiesIn data base := ⟨position, hread⟩
            have hrecord := (Art.Record.size_of_read hread).2
            rw [List.length_drop, Art.Record.size] at hrecord
            refine (Attempt.lift_bind (sum_eq (by omega)) _).trans ?_
            refine (Attempt.lift_bind (sum_eq (by omega)) _).trans ?_
            dsimp only
            rw [hstep state record hlies, Walk.fold_cons]
            -- The walk goes on behind the record, with less of the stream left.
            refine Attempt.of_bind ?_
            intro state _
            have hwhole : record.size = Art.Header.size + record.body.length := rfl
            have hinside : position + record.size ≤ data.length := by omega
            have hless : data.length - (position + record.size) < left := by omega
            rw [List.drop_drop, Nat.add_assoc base]
            exact ih _ hless state hinside rfl

end Machine
end OfficePictures
