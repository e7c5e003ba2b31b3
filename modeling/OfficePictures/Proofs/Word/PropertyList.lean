import Mathlib.Data.List.Induction
import OfficePictures.Proofs.Bytes
import OfficePictures.Word.PropertyList

/-!
# PropertyList — the walk over the changes of a run

Changes stand one behind the other, and only the opcode of a change tells where the next one begins.
The walk takes them one by one; what it knows at the end is what the last change of each kind said.

* `Change`, `Opcode.Takes` — a change as it is written, with an operand of the length of its class;
* `pictureLocationFrom_bytes_append` — one step of the walk takes one change, whatever follows it;
* `pictureLocation?_eq_some_iff` — what a whole list of changes tells;
* `Ends`, `Ends.three_mul_steps_le` — the walk over any bytes, with its steps counted;
* `pictureLocation?_by_changes` — all of it together.
-/

namespace OfficePictures
namespace Word

/-! ## Changes as they are written -/

namespace Opcode

/-- The class of an opcode, its upper three bits. -/
def operandClass (opcode : Opcode) : Nat :=
  opcode.code.toNat / 0x2000

/-- The operands that an opcode has.  The class fixes their length; in class 6 they begin with the
number of bytes behind their first one. -/
inductive Takes (opcode : Opcode) (operand : Bytes) : Prop
  | one (hclass : opcode.operandClass = 0 ∨ opcode.operandClass = 1) (hlength : operand.length = 1)
  | two
      (hclass : opcode.operandClass = 2 ∨ opcode.operandClass = 4 ∨ opcode.operandClass = 5)
      (hlength : operand.length = 2)
  | three (hclass : opcode.operandClass = 7) (hlength : operand.length = 3)
  | four (hclass : opcode.operandClass = 3) (hlength : operand.length = 4)
  | counted {size : UInt8} {rest : Bytes} (hclass : opcode.operandClass = 6)
      (hoperand : operand = size :: rest) (hlength : rest.length = size.toNat)

/-- The opcodes that tell whether a run stands for a picture, and for which. -/
def telling : List Opcode :=
  [formData, embeddedObject, object, special, pictureLocation]

theorem shiftRight_eq_iff (opcode : Opcode) (operandClass : UInt16) :
    opcode.code >>> 13 = operandClass ↔ opcode.operandClass = operandClass.toNat := by
  rw [← UInt16.toNat_inj, UInt16.toNat_shiftRight, Nat.shiftRight_eq_div_pow]
  rfl

theorem Takes.operandLength? {opcode : Opcode} {operand : Bytes} (h : opcode.Takes operand)
    (rest : Bytes) : opcode.operandLength? (operand ++ rest).head? = some operand.length := by
  unfold Opcode.operandLength?
  simp only [shiftRight_eq_iff]
  cases h with
  | one hclass hlength => simp [hclass, hlength]
  | two hclass hlength => rcases hclass with hclass | hclass | hclass <;> simp [hclass, hlength]
  | three hclass hlength => simp [hclass, hlength]
  | four hclass hlength => simp [hclass, hlength]
  | counted hclass hoperand hlength => simp [hclass, hoperand, hlength]

theorem Takes.length_eq_one {opcode : Opcode} {operand : Bytes} (h : opcode.Takes operand)
    (hclass : opcode.operandClass = 0) : operand.length = 1 := by
  cases h with
  | one _ hlength => exact hlength
  | two hother _ => omega
  | three hother _ => omega
  | four hother _ => omega
  | counted hother _ _ => omega

theorem Takes.length_eq_four {opcode : Opcode} {operand : Bytes} (h : opcode.Takes operand)
    (hclass : opcode.operandClass = 3) : operand.length = 4 := by
  cases h with
  | one hother _ => omega
  | two hother _ => omega
  | three hother _ => omega
  | four _ hlength => exact hlength
  | counted hother _ _ => omega

theorem Takes.ne_nil {opcode : Opcode} {operand : Bytes} (h : opcode.Takes operand) :
    operand ≠ [] := by
  rintro rfl
  cases h with
  | one _ hlength => cases hlength
  | two _ hlength => cases hlength
  | three _ hlength => cases hlength
  | four _ hlength => cases hlength
  | counted _ hoperand _ => cases hoperand

theorem excludes_iff (opcode : Opcode) :
    opcode.excludes = true ↔ opcode = formData ∨ opcode = embeddedObject ∨ opcode = object := by
  simp [excludes, or_assoc]

/-- Opcodes are written with their lower byte first. -/
theorem exists_ofBytes_eq (opcode : Opcode) :
    ∃ first second, Bytes.ofU16 opcode.code = [first, second] ∧ ofBytes first second = opcode := by
  refine ⟨_, _, rfl, ?_⟩
  have hcode : Bytes.toNat (Bytes.ofU16 opcode.code) = opcode.code.toNat := by
    rw [Bytes.ofU16, Bytes.toNat_ofNat]
    exact Nat.mod_eq_of_lt opcode.code.toNat_lt
  calc
    ofBytes _ _ = ⟨UInt16.ofNat (Bytes.toNat (Bytes.ofU16 opcode.code))⟩ := rfl
    _ = opcode := by rw [hcode, UInt16.ofNat_toNat]

end Opcode

/-- A change as it is written. -/
structure Change where
  opcode : Opcode
  operand : Bytes
  takes : opcode.Takes operand

namespace Change

def bytes (change : Change) : Bytes :=
  Bytes.ofU16 change.opcode.code ++ change.operand

/-- The change says that the run is no inline picture. -/
def Excludes (change : Change) : Prop :=
  (change.opcode = .formData ∨ change.opcode = .embeddedObject ∨ change.opcode = .object) ∧
    change.operand = [1]

instance (change : Change) : Decidable change.Excludes :=
  inferInstanceAs (Decidable (_ ∧ _))

/-- The operand of the last change with an opcode. -/
def lastOperand? (opcode : Opcode) (changes : List Change) : Option Bytes :=
  (changes.filter (·.opcode = opcode)).getLast?.map Change.operand

theorem lastOperand?_append_singleton (opcode : Opcode) (changes : List Change) (change : Change) :
    lastOperand? opcode (changes ++ [change]) =
      if change.opcode = opcode then some change.operand else lastOperand? opcode changes := by
  unfold lastOperand?
  rw [List.filter_append]
  by_cases hopcode : change.opcode = opcode
  · simp [hopcode]
  · simp [hopcode]

/-- What follows a change is not taken for the first byte of its operand. -/
theorem head?_operand_append (change : Change) (rest : Bytes) :
    (change.operand ++ rest).head? = change.operand.head? := by
  obtain ⟨first, others, hoperand⟩ := List.exists_cons_of_ne_nil change.takes.ne_nil
  rw [hoperand]
  rfl

/-- The flags of a run have an operand of one byte. -/
theorem head?_operand_eq_one_iff {change : Change} (hclass : change.opcode.operandClass = 0) :
    change.operand.head? = some 1 ↔ change.operand = [1] := by
  obtain ⟨value, hoperand⟩ := List.length_eq_one_iff.1 (change.takes.length_eq_one hclass)
  simp [hoperand]

theorem excludes_iff (change : Change) :
    change.Excludes ↔ (change.opcode.excludes && change.operand.head? = some 1) = true := by
  rw [Bool.and_eq_true, decide_eq_true_iff, Opcode.excludes_iff, Excludes]
  refine and_congr_right fun hopcode => (head?_operand_eq_one_iff ?_).symm
  rcases hopcode with hopcode | hopcode | hopcode <;> rw [hopcode] <;> rfl

/-- The operand of a location is a field of four bytes. -/
theorem exists_operand_eq_ofU32 {change : Change} (hopcode : change.opcode = .pictureLocation) :
    ∃ value, change.operand = Bytes.ofU32 value :=
  Bytes.exists_eq_ofU32 (change.takes.length_eq_four (by rw [hopcode]; rfl))

end Change

/-! ## Walking over what was written -/

/-- The state after a change. -/
def RunState.taking (state : RunState) (change : Change) : RunState :=
  state.after change.opcode change.operand

/-- What follows a change has no part in what the change says. -/
theorem RunState.after_append (state : RunState) (change : Change) (rest : Bytes) :
    state.after change.opcode (change.operand ++ rest) = state.taking change := by
  unfold taking after
  rw [change.head?_operand_append]
  refine ite_congr rfl (fun hopcode => ?_) fun _ => rfl
  obtain ⟨value, hoperand⟩ := Change.exists_operand_eq_ofU32 hopcode
  rw [hoperand, Bytes.u32?_ofU32, Bytes.u32?_ofU32_append]

namespace RunState

variable {state : RunState} {change : Change}

theorem taking_of_location (hopcode : change.opcode = .pictureLocation) {location : UInt32}
    (hoperand : change.operand = Bytes.ofU32 location) :
    state.taking change = { state with location := some location } := by
  rw [taking, after, if_pos hopcode, hoperand, Bytes.u32?_ofU32]

theorem taking_of_special (hopcode : change.opcode = .special) :
    state.taking change = { state with special := change.operand = [1] } := by
  have hclass : change.opcode.operandClass = 0 := by
    rw [hopcode]
    rfl
  have hother : change.opcode ≠ .pictureLocation := by
    rw [hopcode]
    decide
  rw [taking, after, if_neg hother, if_pos hopcode]
  simp only [Change.head?_operand_eq_one_iff hclass]

theorem taking_of_other (hlocation : change.opcode ≠ .pictureLocation)
    (hspecial : change.opcode ≠ .special) : state.taking change = state := by
  rw [taking, after, if_neg hlocation, if_neg hspecial]

theorem result_eq_some_iff (location : UInt32) :
    state.result = some location ↔ state.special = true ∧ state.location = some location := by
  unfold result
  cases state.special <;> simp

end RunState

theorem pictureLocationFrom_cons (state : RunState) (first second : UInt8) (operand : Bytes) :
    pictureLocationFrom state (first :: second :: operand) =
      match (Opcode.ofBytes first second).operandLength? operand.head? with
      | none => state.result
      | some length =>
          if (Opcode.ofBytes first second).excludes && operand.head? = some 1 then none
          else pictureLocationFrom (state.after (Opcode.ofBytes first second) operand)
            (operand.drop length) := by
  rw [pictureLocationFrom, firstChange?]
  cases (Opcode.ofBytes first second).operandLength? operand.head? <;> rfl

theorem pictureLocationFrom_of_length_lt {changes : Bytes} (h : changes.length < 2)
    (state : RunState) : pictureLocationFrom state changes = state.result := by
  rw [pictureLocationFrom]
  rcases changes with _ | ⟨first, _ | ⟨second, rest⟩⟩
  · rfl
  · rfl
  · simp only [List.length_cons] at h
    omega

/-- One step of the walk takes one change, and goes on right behind it. -/
theorem pictureLocationFrom_bytes_append (state : RunState) (change : Change) (rest : Bytes) :
    pictureLocationFrom state (change.bytes ++ rest) =
      if change.Excludes then none else pictureLocationFrom (state.taking change) rest := by
  obtain ⟨first, second, hbytes, hopcode⟩ := change.opcode.exists_ofBytes_eq
  have hfront : change.bytes ++ rest = first :: second :: (change.operand ++ rest) := by
    rw [Change.bytes, hbytes, List.append_assoc]
    rfl
  rw [hfront, pictureLocationFrom_cons, hopcode, change.takes.operandLength?]
  dsimp only
  rw [change.head?_operand_append, List.drop_left, state.after_append]
  exact ite_congr (propext change.excludes_iff.symm) (fun _ => rfl) fun _ => rfl

/-- A walk over changes, with at most a lone byte behind them: one that excludes the run ends it, and
otherwise the last state decides. -/
theorem pictureLocationFrom_changes (state : RunState) (changes : List Change) {padding : Bytes}
    (hpadding : padding.length ≤ 1) :
    pictureLocationFrom state (changes.flatMap Change.bytes ++ padding) =
      if ∃ change ∈ changes, change.Excludes then none
      else (changes.foldl RunState.taking state).result := by
  induction changes generalizing state with
  | nil =>
      rw [List.flatMap_nil, List.nil_append,
        pictureLocationFrom_of_length_lt (Nat.lt_succ_of_le hpadding)]
      simp
  | cons change changes ih =>
      rw [List.flatMap_cons, List.append_assoc, pictureLocationFrom_bytes_append, ih]
      by_cases hexcludes : change.Excludes
      · simp [hexcludes]
      · simp [hexcludes]

/-- What is known after some changes is what the last change of each kind said. -/
theorem foldl_taking (changes : List Change) :
    ((changes.foldl RunState.taking .initial).special = true ↔
      Change.lastOperand? .special changes = some [1]) ∧
    ∀ location, (changes.foldl RunState.taking .initial).location = some location ↔
      Change.lastOperand? .pictureLocation changes = some (Bytes.ofU32 location) := by
  -- The last change speaks last, so the induction takes it off first.
  induction changes using List.reverseRecOn with
  | nil => simp [Change.lastOperand?, RunState.initial]
  | append_singleton changes change ih =>
      rw [List.foldl_append, List.foldl_cons, List.foldl_nil]
      simp only [Change.lastOperand?_append_singleton]
      by_cases hlocation : change.opcode = .pictureLocation
      · obtain ⟨value, hoperand⟩ := Change.exists_operand_eq_ofU32 hlocation
        have hspecial : change.opcode ≠ .special := by
          rw [hlocation]
          decide
        rw [RunState.taking_of_location hlocation hoperand, if_neg hspecial]
        refine ⟨ih.1, fun location => ?_⟩
        rw [if_pos hlocation, hoperand, Option.some.injEq, Option.some.injEq, Bytes.ofU32_inj]
      · by_cases hspecial : change.opcode = .special
        · rw [RunState.taking_of_special hspecial, if_pos hspecial, if_neg hlocation]
          refine ⟨?_, ih.2⟩
          rw [decide_eq_true_iff, Option.some.injEq]
        · rw [RunState.taking_of_other hlocation hspecial, if_neg hspecial, if_neg hlocation]
          exact ih

/-- What a list of changes tells of its run. -/
theorem pictureLocation?_eq_some_iff (changes : List Change) {padding : Bytes}
    (hpadding : padding.length ≤ 1) (location : UInt32) :
    pictureLocation? (changes.flatMap Change.bytes ++ padding) = some location ↔
      (∀ change ∈ changes, ¬ change.Excludes) ∧
        Change.lastOperand? .special changes = some [1] ∧
          Change.lastOperand? .pictureLocation changes = some (Bytes.ofU32 location) := by
  obtain ⟨hspecial, hlocation⟩ := foldl_taking changes
  rw [pictureLocation?, pictureLocationFrom_changes _ _ hpadding, Option.ite_none_left_eq_some,
    RunState.result_eq_some_iff, hspecial, hlocation, not_exists]
  simp only [not_and]

/-! ## Changes of other kinds -/

namespace Change

/-- Whether the change can tell something of the picture of its run. -/
def IsTelling (change : Change) : Prop :=
  change.opcode ∈ Opcode.telling

instance (change : Change) : Decidable change.IsTelling :=
  inferInstanceAs (Decidable (_ ∈ _))

theorem lastOperand?_filter {opcode : Opcode} (hopcode : opcode ∈ Opcode.telling)
    (changes : List Change) :
    lastOperand? opcode (changes.filter (·.IsTelling)) = lastOperand? opcode changes := by
  have hfilter : (changes.filter (·.IsTelling)).filter (·.opcode = opcode) =
      changes.filter (·.opcode = opcode) := by
    rw [List.filter_filter]
    refine List.filter_congr fun change _ => ?_
    rw [← Bool.decide_and]
    refine decide_eq_decide.2 ⟨fun h => h.1, fun h => ⟨h, ?_⟩⟩
    rw [IsTelling, h]
    exact hopcode
  rw [lastOperand?, hfilter, lastOperand?]

theorem Excludes.isTelling {change : Change} (h : change.Excludes) : change.IsTelling := by
  rcases h.1 with hopcode | hopcode | hopcode <;> rw [IsTelling, hopcode] <;> decide

end Change

/-- Lists that have the same telling changes in the same order tell the same. -/
theorem pictureLocation?_congr {changes others : List Change} {padding otherPadding : Bytes}
    (hpadding : padding.length ≤ 1) (hother : otherPadding.length ≤ 1)
    (h : changes.filter (·.IsTelling) = others.filter (·.IsTelling)) :
    pictureLocation? (changes.flatMap Change.bytes ++ padding) =
      pictureLocation? (others.flatMap Change.bytes ++ otherPadding) := by
  have hexcludes : ∀ list : List Change, (∀ change ∈ list, ¬ change.Excludes) ↔
      ∀ change ∈ list.filter (·.IsTelling), ¬ change.Excludes := by
    intro list
    simp only [List.mem_filter, decide_eq_true_iff]
    exact ⟨fun hlist change hchange => hlist change hchange.1,
      fun hlist change hchange hexcl => hlist change ⟨hchange, hexcl.isTelling⟩ hexcl⟩
  have hspecial : Opcode.special ∈ Opcode.telling := by decide
  have hlocation : Opcode.pictureLocation ∈ Opcode.telling := by decide
  refine Option.ext fun location => ?_
  rw [pictureLocation?_eq_some_iff _ hpadding, pictureLocation?_eq_some_iff _ hother,
    hexcludes changes, hexcludes others, ← Change.lastOperand?_filter hspecial,
    ← Change.lastOperand?_filter hlocation, h, Change.lastOperand?_filter hspecial,
    Change.lastOperand?_filter hlocation]

/-! ## The steps of the walk -/

/-- The walk over `changes` from a state ends with a result, after so many changes were looked at. -/
inductive Ends : Nat → RunState → Bytes → Option UInt32 → Prop
  | noOpcode (state : RunState) {changes : Bytes} (hshort : changes.length < 2) :
      Ends 0 state changes state.result
  | noLength (state : RunState) {first second : UInt8} {operand : Bytes}
      (hlength : (Opcode.ofBytes first second).operandLength? operand.head? = none) :
      Ends 1 state (first :: second :: operand) state.result
  | excluded (state : RunState) {first second : UInt8} {operand : Bytes} {length : Nat}
      (hlength : (Opcode.ofBytes first second).operandLength? operand.head? = some length)
      (hexcludes : (Opcode.ofBytes first second).excludes && operand.head? = some 1) :
      Ends 1 state (first :: second :: operand) none
  | next {state : RunState} {first second : UInt8} {operand : Bytes} {length steps : Nat}
      {result : Option UInt32}
      (hlength : (Opcode.ofBytes first second).operandLength? operand.head? = some length)
      (hexcludes : ¬ ((Opcode.ofBytes first second).excludes && operand.head? = some 1))
      (hrest : Ends steps (state.after (Opcode.ofBytes first second) operand)
        (operand.drop length) result) :
      Ends (steps + 1) state (first :: second :: operand) result

theorem Opcode.one_le_of_operandLength? {opcode : Opcode} {first : Option UInt8} {length : Nat}
    (h : opcode.operandLength? first = some length) : 1 ≤ length := by
  unfold operandLength? at h
  dsimp only at h
  split_ifs at h
  -- An operand that tells its own length has the byte that does so.
  case neg =>
    rcases Option.map_eq_some_iff.1 h with ⟨size, -, rfl⟩
    exact Nat.le_add_left 1 _
  all_goals cases h; decide

namespace Ends

variable {state : RunState} {changes : Bytes} {steps : Nat} {result : Option UInt32}

theorem result_eq (h : Ends steps state changes result) :
    result = pictureLocationFrom state changes := by
  induction h with
  | noOpcode state hshort => rw [pictureLocationFrom_of_length_lt hshort]
  | noLength state hlength => rw [pictureLocationFrom_cons, hlength]
  | excluded state hlength hexcludes =>
      rw [pictureLocationFrom_cons, hlength]
      exact (if_pos hexcludes).symm
  | next hlength hexcludes _ ih =>
      rw [pictureLocationFrom_cons, hlength, ih]
      exact (if_neg hexcludes).symm

/-- Each change that is looked at is an opcode and at least one byte more, but for the last one,
whose operand may be missing. -/
theorem three_mul_steps_le (h : Ends steps state changes result) :
    3 * steps ≤ changes.length + 1 := by
  induction h with
  | noOpcode state hshort => omega
  | noLength state hlength =>
      simp only [List.length_cons]
      omega
  | excluded state hlength hexcludes =>
      simp only [List.length_cons]
      omega
  | next hlength hexcludes _ ih =>
      have hone := Opcode.one_le_of_operandLength? hlength
      rw [List.length_drop] at ih
      simp only [List.length_cons]
      omega

end Ends

theorem exists_ends (state : RunState) (changes : Bytes) :
    ∃ steps, Ends steps state changes (pictureLocationFrom state changes) := by
  induction hlength : changes.length using Nat.strongRecOn generalizing state changes with
  | ind length ih =>
      by_cases hshort : changes.length < 2
      · rw [pictureLocationFrom_of_length_lt hshort]
        exact ⟨0, .noOpcode state hshort⟩
      · rcases changes with _ | ⟨first, _ | ⟨second, operand⟩⟩
        · exact absurd (Nat.zero_lt_succ 1) hshort
        · exact absurd (Nat.lt_succ_self 1) hshort
        · rw [pictureLocationFrom_cons]
          cases hoperand : (Opcode.ofBytes first second).operandLength? operand.head? with
          | none => exact ⟨1, .noLength state hoperand⟩
          | some count =>
              dsimp only
              split
              · rename_i hexcludes
                exact ⟨1, .excluded state hoperand hexcludes⟩
              · rename_i hexcludes
                have hless : (operand.drop count).length < length :=
                  hlength ▸ length_drop_lt first second operand count
                rcases ih _ hless (state.after (Opcode.ofBytes first second) operand) _ rfl with
                  ⟨steps, hsteps⟩
                exact ⟨steps + 1, .next hoperand hexcludes hsteps⟩

/-- A run stands for a picture if none of its changes excludes that, the last change of the special
flag switches it on, and there is a location, of which the last one counts.  Changes with other
opcodes can be inserted or left out, whatever is in their operands.  Over any bytes at all the walk
ends, with one step for three bytes and at most one more. -/
theorem pictureLocation?_by_changes :
    (∀ (changes : List Change) (padding : Bytes), padding.length ≤ 1 → ∀ location,
      pictureLocation? (changes.flatMap Change.bytes ++ padding) = some location ↔
        (∀ change ∈ changes, ¬ change.Excludes) ∧
          Change.lastOperand? .special changes = some [1] ∧
            Change.lastOperand? .pictureLocation changes = some (Bytes.ofU32 location)) ∧
    (∀ (changes others : List Change) (padding otherPadding : Bytes),
      padding.length ≤ 1 → otherPadding.length ≤ 1 →
        changes.filter (·.IsTelling) = others.filter (·.IsTelling) →
          pictureLocation? (changes.flatMap Change.bytes ++ padding) =
            pictureLocation? (others.flatMap Change.bytes ++ otherPadding)) ∧
    ∀ bytes : Bytes, (∃ steps, Ends steps .initial bytes (pictureLocation? bytes)) ∧
      ∀ steps result, Ends steps .initial bytes result →
        result = pictureLocation? bytes ∧ steps ≤ bytes.length / 3 + 1 := by
  refine ⟨fun changes padding hpadding location => pictureLocation?_eq_some_iff _ hpadding _,
    fun changes others padding otherPadding hpadding hother h =>
      pictureLocation?_congr hpadding hother h, fun bytes => ⟨exists_ends _ _, ?_⟩⟩
  intro steps result h
  have hsteps := h.three_mul_steps_le
  exact ⟨h.result_eq, by omega⟩

/-- The changes of a picture, with one between them whose operand looks like a flag that excludes
it. -/
def pictureRun : List Change :=
  [⟨.special, [1], .one (.inl rfl) rfl⟩,
    ⟨⟨0xC615⟩, [3, 0x06, 0x08, 1], .counted rfl rfl rfl⟩,
    ⟨.pictureLocation, [0x30, 0, 0, 0], .four rfl rfl⟩]

theorem pictureLocation?_by_changes_picture :
    pictureLocation? (pictureRun.flatMap Change.bytes ++ [0]) = some 0x30 ∧
      pictureLocation? (pictureRun.flatMap Change.bytes ++ [0]) =
        pictureLocation? ((pictureRun.filter (·.IsTelling)).flatMap Change.bytes ++ []) ∧
      (none = pictureLocation? [0x55] ∧ 0 ≤ [(0x55 : UInt8)].length / 3 + 1) := by
  refine ⟨(pictureLocation?_by_changes.1 pictureRun [0] (by decide) 0x30).2 ⟨by decide, rfl, rfl⟩,
    pictureLocation?_by_changes.2.1 pictureRun _ [0] [] (by decide) (by decide) rfl,
    (pictureLocation?_by_changes.2.2 [0x55]).2 0 none (.noOpcode .initial (by decide))⟩

end Word
end OfficePictures
