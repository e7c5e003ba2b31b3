import OfficePictures.Proofs.Machine.Record
import OfficePictures.Proofs.Word.PropertyList
import OfficePictures.Word.FormattedPage

/-!
# FormattedPage — pages of character properties read in machine words

The places on a page come from its bytes, and the places of pages from the numbers in a table.  All
of them are looked up, so that a wrong one is passed over; the sums that lead to them are small.

* `pictureLocation?_eq` — the changes of one run;
* `takePage_eq` — the runs of a page, whose locations are added to those found before;
* `pictureLocations_eq` — the pages of a document.
-/

namespace OfficePictures
namespace Machine

open Word

/-! ## Runs -/

/-- The number of bytes of the operand of a change. -/
def operandLength? (opcode : Opcode) (first : Option UInt8) : Guarded (Option Nat) :=
  let operandClass := opcode.code >>> 13
  if operandClass = 0 ∨ operandClass = 1 then return some 1
  else if operandClass = 2 ∨ operandClass = 4 ∨ operandClass = 5 then return some 2
  else if operandClass = 3 then return some 4
  else if operandClass = 7 then return some 3
  else
    match first with
    | none => return none
    | some size => do
        let length ← add size.toNat 1
        return some length

/-- What is known after a change whose operand is at `operand`. -/
def after (state : RunState) (opcode : Opcode) (changes : Bytes) (operand : Nat) :
    Guarded RunState :=
  if opcode = .pictureLocation then do
    let location ← u32? changes operand
    return { state with location }
  else if opcode = .special then
    return { state with special := changes[operand]? = some 1 }
  else
    return state

/-- A field that was looked up is inside. -/
theorem le_length_of_u16?_eq {data : Bytes} {offset : Nat} {value : UInt16}
    (h : u16? data offset = .ok (some value)) : offset + 2 ≤ data.length := by
  by_cases hword : offset + 2 < 2 ^ 64
  · rw [u16?_eq (.inl hword)] at h
    exact le_length_of_u16? (Except.ok.inj h)
  · have hnone : field? data offset 2 = none := by
      rw [field?, add?, if_neg hword, Option.bind_none]
    rw [u16?, hnone] at h
    cases h

/-- Where the picture lies of a run whose remaining changes begin at `position`. -/
def pictureLocationFrom (changes : Bytes) (state : RunState) (position : Nat) :
    Guarded (Option UInt32) :=
  match hcode : u16? changes position with
  | .error trap => .error trap
  | .ok none => return state.result
  | .ok (some code) =>
      have _hinside : position + 2 ≤ changes.length := le_length_of_u16?_eq hcode
      do
        let ⟨operand, _⟩ ← sum position 2
        match ← operandLength? ⟨code⟩ changes[operand]? with
        | none => return state.result
        | some length =>
            if (Opcode.mk code).excludes && changes[operand]? = some 1 then
              return none
            else
              let state ← after state ⟨code⟩ changes operand
              let ⟨next, _⟩ ← sum operand length
              pictureLocationFrom changes state next
termination_by changes.length - position

section Runs

theorem operandLength?_eq (opcode : Opcode) (first : Option UInt8) :
    operandLength? opcode first = .ok (opcode.operandLength? first) := by
  unfold operandLength? Opcode.operandLength?
  dsimp only
  -- In all classes but one the length is fixed.
  refine Guarded.ite_eq (fun _ => rfl) fun _ => ?_
  refine Guarded.ite_eq (fun _ => rfl) fun _ => ?_
  refine Guarded.ite_eq (fun _ => rfl) fun _ => ?_
  refine Guarded.ite_eq (fun _ => rfl) fun _ => ?_
  cases first with
  | none => rfl
  | some size =>
      have hbyte : size.toNat < 256 := size.toNat_lt
      exact Guarded.bind_eq (add_eq (by omega)) _

theorem length_le_of_operandLength? {opcode : Opcode} {first : Option UInt8} {length : Nat}
    (h : opcode.operandLength? first = some length) : length ≤ 256 := by
  unfold Opcode.operandLength? at h
  dsimp only at h
  split_ifs at h
  -- An operand that tells its own length does so in one byte.
  case neg =>
    rcases Option.map_eq_some_iff.1 h with ⟨size, -, rfl⟩
    have hbyte : size.toNat < 256 := size.toNat_lt
    omega
  all_goals cases h; decide

theorem after_eq {changes : Bytes} (h : changes.length < 2 ^ 63) (state : RunState)
    (opcode : Opcode) (operand : Nat) :
    after state opcode changes operand = .ok (state.after opcode (changes.drop operand)) := by
  unfold after RunState.after
  rw [List.head?_drop]
  refine Guarded.ite_eq (fun _ => ?_) fun _ => Guarded.ite_eq (fun _ => rfl) fun _ => rfl
  rw [Guarded.bind_eq (u32?_eq (.inr (by omega))), Bytes.u32?, Bytes.u32?, Bytes.natAt?_drop]
  rfl

theorem u16?_of_drop_eq_cons {data rest : Bytes} {position : Nat} {first second : UInt8}
    (h : data.drop position = first :: second :: rest) :
    Bytes.u16? data position = some (UInt16.ofNat (Bytes.toNat [first, second])) := by
  rw [Bytes.u16?, Bytes.natAt?, h]
  rfl

theorem exists_drop_eq_cons {data : Bytes} {position : Nat} (h : position + 2 ≤ data.length) :
    ∃ first second, data.drop position = first :: second :: data.drop (position + 2) := by
  refine ⟨data[position], data[position + 1], ?_⟩
  calc
    data.drop position = data[position] :: data.drop (position + 1) :=
      List.drop_eq_getElem_cons (by omega)
    _ = data[position] :: data[position + 1] :: data.drop (position + 2) := by
      rw [List.drop_eq_getElem_cons (by omega : position + 1 < data.length)]

/-- Behind the last field, and from a lone byte on, there is no change. -/
theorem pictureLocationFrom_of_outside {changes : Bytes} {position : Nat}
    (h : changes.length < 2 ^ 63) (houtside : ¬ position + 2 ≤ changes.length) (state : RunState) :
    pictureLocationFrom changes state position =
      .ok (Word.pictureLocationFrom state (changes.drop position)) := by
  have hfield : u16? changes position = .ok (Bytes.u16? changes position) :=
    u16?_eq (.inr (by omega))
  have hshort : (changes.drop position).length < 2 := by
    rw [List.length_drop]
    omega
  rw [pictureLocationFrom, pictureLocationFrom_of_length_lt hshort]
  split
  · rename_i trap htrap
    cases hfield.symm.trans htrap
  · rfl
  · rename_i code hcode
    exact absurd (le_length_of_u16?_eq hcode) houtside

/-- The changes of a run are read without a trap, whatever lengths they tell. -/
theorem pictureLocationFrom_eq {changes : Bytes} (h : changes.length < 2 ^ 63) (state : RunState)
    (position : Nat) :
    pictureLocationFrom changes state position =
      .ok (Word.pictureLocationFrom state (changes.drop position)) := by
  induction hleft : changes.length - position using Nat.strongRecOn generalizing state position with
  | ind left ih =>
      by_cases hinside : position + 2 ≤ changes.length
      · rcases exists_drop_eq_cons hinside with ⟨first, second, hcons⟩
        have hfield : u16? changes position = .ok (Bytes.u16? changes position) :=
          u16?_eq (.inr (by omega))
        rw [u16?_of_drop_eq_cons hcons] at hfield
        rw [pictureLocationFrom]
        split
        · rename_i trap htrap
          cases hfield.symm.trans htrap
        · rename_i hnone
          cases hfield.symm.trans hnone
        · rename_i code hcode
          cases hfield.symm.trans hcode
          dsimp only
          rw [Guarded.bind_eq (sum_eq (by omega)), Guarded.bind_eq (operandLength?_eq _ _), hcons,
            pictureLocationFrom_cons, List.head?_drop, Opcode.ofBytes]
          dsimp only
          cases hlength : Opcode.operandLength? ⟨UInt16.ofNat (Bytes.toNat [first, second])⟩
              changes[position + 2]? with
          | none => rfl
          | some length =>
              refine Guarded.ite_eq (fun _ => rfl) fun _ => ?_
              -- The next change begins behind the operand, with less of the run left.
              have hsmall := length_le_of_operandLength? hlength
              have hless : changes.length - (position + 2 + length) < left := by omega
              rw [Guarded.bind_eq (after_eq h _ _ _), Guarded.bind_eq (sum_eq (by omega)),
                List.drop_drop]
              exact ih _ hless _ _ rfl
      · exact pictureLocationFrom_of_outside h hinside state

end Runs

/-! ## Pages -/

/-- The property list of one run of a page whose list places begin at `offsets`. -/
def runProperties? (page : Bytes) (offsets run : Nat) : Guarded (Option Bytes) := do
  let index ← add offsets run
  match page[index]? with
  | none => return none
  | some half =>
      let place ← mul half.toNat 2
      if place = 0 then
        return none
      else
        match page[place]? with
        | none => return none
        | some length =>
            let start ← add place 1
            let stop ← add start length.toNat
            return part? page start stop

/-- Adds a location that is not there yet. -/
def addNew (found : List UInt32) (location : UInt32) : List UInt32 :=
  if found.contains location then found else found ++ [location]

def takeRun (page : Bytes) (offsets : Nat) (found : List UInt32) (run : Nat) :
    Guarded (List UInt32) := do
  match ← runProperties? page offsets run with
  | none => return found
  | some changes =>
      match ← pictureLocationFrom changes .initial 0 with
      | none => return found
      | some location => return addNew found location

/-- Takes the locations of the runs of a page. -/
def takePage (page : Bytes) (found : List UInt32) : Guarded (List UInt32) := do
  let runs := (page.getLast?.getD 0).toNat
  let offsets ← mul 4 (← add runs 1)
  (List.range runs).foldlM (takeRun page offsets) found

/-- The number of a page in a table of `pages` pages, if it is inside. -/
def number? (table : Bytes) (pages index : Nat) : Guarded (Option UInt32) := do
  let behind ← add pages 1
  let place ← mul (← add behind index) 4
  u32? table place

/-- The page of a number, if it is inside the stream. -/
def page? (stream : Bytes) (number : UInt32) : Guarded (Option Bytes) := do
  let start ← mul (number.toNat % pageNumberCount) pageLength
  return field? stream start pageLength

/-- Takes the locations of the pages at some indexes of a table; a number that is missing ends
them. -/
def takePages (stream table : Bytes) (pages : Nat) (found : List UInt32) :
    List Nat → Guarded (List UInt32)
  | [] => return found
  | index :: rest => do
      match ← number? table pages index with
      | none => return found
      | some number =>
          match ← page? stream number with
          | none => takePages stream table pages found rest
          | some page =>
              let found ← takePage page found
              takePages stream table pages found rest

def pictureLocations (stream table : Bytes) : Guarded (List UInt32) :=
  let pages := (table.length - 4) / 8
  takePages stream table pages [] (List.range pages)

section Pages

variable {page stream table : Bytes}

theorem runProperties?_eq {runs run : Nat} (hruns : runs < 256) (hrun : run < runs) :
    runProperties? page (4 * (runs + 1)) run = .ok (Word.runProperties? page runs run) := by
  unfold runProperties? Word.runProperties?
  rw [Guarded.bind_eq (add_eq (by omega))]
  cases page[4 * (runs + 1) + run]? with
  | none => rfl
  | some half =>
      have hhalf : half.toNat < 256 := half.toNat_lt
      dsimp only
      rw [Guarded.bind_eq (mul_eq (by omega)), Nat.mul_comm half.toNat 2]
      simp only [bind, Option.bind_some]
      refine Guarded.ite_eq (fun _ => rfl) fun _ => ?_
      cases page[2 * half.toNat]? with
      | none => rfl
      | some length =>
          have hlength : length.toNat < 256 := length.toNat_lt
          dsimp only
          refine (Guarded.bind_eq (add_eq (by omega)) _).trans ?_
          refine (Guarded.bind_eq (add_eq (by omega)) _).trans ?_
          rw [part?_add]
          rfl

/-- A property list tells its length in one byte. -/
theorem length_lt_of_runProperties? {runs run : Nat} {changes : Bytes}
    (h : Word.runProperties? page runs run = some changes) : changes.length < 256 := by
  rcases Option.bind_eq_some_iff.1 h with ⟨half, -, h⟩
  dsimp only at h
  split at h
  · cases h
  · rcases Option.bind_eq_some_iff.1 h with ⟨length, -, h⟩
    rw [length_of_slice? h]
    exact length.toNat_lt

theorem takeRun_eq {runs run : Nat} (hruns : runs < 256) (hrun : run < runs)
    (found : List UInt32) :
    takeRun page (4 * (runs + 1)) found run =
      .ok (((Word.runProperties? page runs run).bind pictureLocation?).elim found
        (addNew found)) := by
  unfold takeRun
  rw [Guarded.bind_eq (runProperties?_eq hruns hrun)]
  cases hchanges : Word.runProperties? page runs run with
  | none => rfl
  | some changes =>
      have hlength := length_lt_of_runProperties? hchanges
      dsimp only
      rw [Guarded.bind_eq (pictureLocationFrom_eq (by omega) _ _), List.drop_zero,
        Option.bind_some, pictureLocation?]
      cases Word.pictureLocationFrom .initial changes <;> rfl

/-- The runs of a page are read without a trap, whatever number of them the page tells. -/
theorem takePage_eq (page : Bytes) (found : List UInt32) :
    takePage page found =
      .ok (((pageProperties page).filterMap pictureLocation?).foldl addNew found) := by
  have hruns : (page.getLast?.getD 0).toNat < 256 := UInt8.toNat_lt _
  unfold takePage pageProperties
  dsimp only
  rw [Guarded.bind_eq (add_eq (by omega)), Guarded.bind_eq (mul_eq (by omega)),
    List.filterMap_filterMap, List.foldl_filterMap]
  apply Guarded.foldlM_eq
  intro found run hrun
  rw [takeRun_eq hruns (List.mem_range.1 hrun)]
  cases (Word.runProperties? page (page.getLast?.getD 0).toNat run).bind pictureLocation? <;> rfl

theorem number?_eq {pages index : Nat} (htable : table.length < 2 ^ 63)
    (hinside : 4 * (pages + 1 + index) + 4 ≤ table.length) :
    number? table pages index = .ok (Bytes.u32? table (4 * (pages + 1 + index))) := by
  unfold number?
  rw [Guarded.bind_eq (add_eq (by omega)), Guarded.bind_eq (add_eq (by omega)),
    Guarded.bind_eq (mul_eq (by omega)), Nat.mul_comm _ 4]
  exact u32?_eq (.inr (by omega))

/-- The numbers of pages have few bits, so that their places are looked up without a trap. -/
theorem page?_eq (stream : Bytes) (number : UInt32) :
    page? stream number =
      .ok (Bytes.slice? stream (pageLength * (number.toNat % pageNumberCount)) pageLength) := by
  have hlength : pageLength = 512 := rfl
  have hsmall : number.toNat % pageNumberCount < 2 ^ 22 := Nat.mod_lt _ (Nat.zero_lt_succ _)
  have hstart : number.toNat % pageNumberCount * pageLength < 2 ^ 31 := by
    rw [hlength]
    omega
  unfold page?
  rw [Guarded.bind_eq (mul_eq (by omega)), field?_eq (.inl (by omega)), Nat.mul_comm]
  rfl

/-- A page is passed over or taken. -/
theorem takePages_cons {pages index : Nat} {rest : List Nat} {number : UInt32}
    (hnumber : number? table pages index = .ok (some number)) (found : List UInt32) :
    takePages stream table pages found (index :: rest) =
      takePages stream table pages
        ((pageLocations stream (number.toNat % pageNumberCount)).foldl addNew found) rest := by
  rw [takePages, Guarded.bind_eq hnumber]
  dsimp only
  rw [Guarded.bind_eq (page?_eq stream number), pageLocations]
  cases Bytes.slice? stream (pageLength * (number.toNat % pageNumberCount)) pageLength with
  | none => rfl
  | some page => exact Guarded.bind_eq (takePage_eq page found) _

theorem takePages_eq (stream : Bytes) {pages : Nat} (htable : table.length < 2 ^ 63)
    (hpages : pages = (table.length - 4) / 8) {indexes : List Nat}
    (hindexes : ∀ index ∈ indexes, index < pages) (found : List UInt32) :
    takePages stream table pages found indexes =
      .ok (((indexes.filterMap fun index =>
        (Bytes.u32? table (4 * (pages + 1 + index))).map (·.toNat % pageNumberCount)).flatMap
          (pageLocations stream)).foldl addNew found) := by
  induction indexes generalizing found with
  | nil => rfl
  | cons index rest ih =>
      have hindex := hindexes index (List.mem_cons_self ..)
      -- The positions of the text and the numbers of all pages are inside the table.
      have hinside : 4 * (pages + 1 + index) + 4 ≤ table.length := by omega
      rcases exists_u32?_eq_some hinside with ⟨number, hnumber⟩
      rw [takePages_cons ((number?_eq htable hinside).trans (congrArg Except.ok hnumber)),
        List.filterMap_cons, hnumber, Option.map_some]
      dsimp only
      rw [List.flatMap_cons, List.foldl_append]
      exact ih (fun index h => hindexes index (List.mem_cons_of_mem _ h)) _

theorem firstOccurrences_eq_foldl (seen list : List UInt32) :
    firstOccurrences seen list = list.foldl addNew seen.reverse := by
  induction list generalizing seen with
  | nil => rfl
  | cons location rest ih =>
      rw [firstOccurrences, List.foldl_cons, ih, addNew, List.contains_reverse]
      split
      · rfl
      · rw [List.reverse_cons]

/-- The locations of inline pictures are found without a trap, whatever pages a table tells and
whatever stands on them. -/
theorem pictureLocations_eq (stream : Bytes) (htable : table.length < 2 ^ 63) :
    pictureLocations stream table = .ok (Word.pictureLocations stream table) := by
  unfold pictureLocations Word.pictureLocations pageNumbers
  rw [firstOccurrences_eq_foldl]
  exact takePages_eq stream htable rfl (fun index h => List.mem_range.1 h) []

end Pages

end Machine
end OfficePictures
