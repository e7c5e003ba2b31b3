import Mathlib.Data.Nat.Bitwise
import OfficePictures.Proofs.Bytes
import OfficePictures.Proofs.Result.Items
import OfficePictures.Word.Fib

/-!
# Fib — the file information block follows its own counts

Each of the three arrays of the block stands behind its count, so the place of a pair depends on both
counts in front of it.  The fields that are needed are read in their order, and the first one that is
cut off or not acceptable decides; a pair beyond the count of pairs is not needed.

* `Field`, `fields` — the fields of a block in the order in which they are read;
* `read_eq` — reading a block is checking these fields;
* `Layout`, `Layout.placed_of_drop` — what is chosen for a block, and where its fields come to stand;
* `read_by_counts` — a block that was laid out is read back, whatever its counts are, and any other
  stream fails at its first field that fails.
-/

namespace OfficePictures
namespace Word
namespace Fib

variable {stream : Bytes} {fault : Fault}

/-! ## The fields of a block -/

/-- A field of the block: its place, the fault of a stream that ends before it does, and the fault
that its value may be. -/
structure Field where
  offset : Nat
  width : Nat
  cutFault : Fault
  defect? : Nat → Option Fault

def Field.check (stream : Bytes) (field : Field) : Except Fault Unit :=
  if stream.length < field.offset + field.width then
    .error field.cutFault
  else
    match field.defect? (stream.valueAt field.offset field.width) with
    | some fault => .error fault
    | none => .ok ()

/-- A field that may hold any number. -/
def numberField (offset width : Nat) : Field :=
  ⟨offset, width, .notOpened .fibTruncated, fun _ => none⟩

/-- The field that says that the document is one of Word. -/
def signatureField : Field :=
  ⟨0, 2, .notOpened .notWord, fun n => if n = 0xA5EC then none else some (.notOpened .notWord)⟩

/-- The version; the formats before 106 were others. -/
def versionField : Field :=
  ⟨2, 2, .notOpened .fibTruncated,
    fun n => if n < 106 then some (.oldFormat (.word (UInt16.ofNat n))) else none⟩

/-- The flags, of which bit 8 says that the document is encrypted. -/
def flagsField : Field :=
  ⟨10, 2, .notOpened .fibTruncated, fun n => if n.testBit 8 then some .encrypted else none⟩

/-- The place of the second count, behind the array of 16-bit values. -/
def longsOffset (stream : Bytes) : Nat :=
  34 + 2 * stream.valueAt 32 2

/-- The place of the third count, behind the array of 32-bit values. -/
def pairsOffset (stream : Bytes) : Nat :=
  longsOffset stream + 2 + 4 * stream.valueAt (longsOffset stream) 2

def pairCount (stream : Bytes) : Nat :=
  stream.valueAt (pairsOffset stream) 2

def pairOffset (stream : Bytes) (index : Nat) : Nat :=
  pairsOffset stream + 2 + 8 * index

/-- The two fields of a pair, if there is one of that number. -/
def pairFields (stream : Bytes) (index : Nat) : List Field :=
  if index < pairCount stream then
    [numberField (pairOffset stream index) 4, numberField (pairOffset stream index + 4) 4]
  else
    []

/-- The fields that are needed, in the order in which they are read. -/
def fields (stream : Bytes) : List Field :=
  [signatureField, versionField, flagsField, numberField 32 2, numberField (longsOffset stream) 2,
    numberField (pairsOffset stream) 2] ++ (pairFields stream 12 ++ pairFields stream 50)

/-- The part that a pair tells; none if there is no such pair or its length is zero. -/
def partAt? (stream : Bytes) (index : Nat) : Option TableRange :=
  if index < pairCount stream ∧ stream.valueAt (pairOffset stream index + 4) 4 ≠ 0 then
    some ⟨stream.valueAt (pairOffset stream index) 4, stream.valueAt (pairOffset stream index + 4) 4⟩
  else
    none

/-- What the fields tell. -/
def told (stream : Bytes) : Fib where
  tableStream := if (stream.valueAt 10 2).testBit 9 then .one else .zero
  formattedPages := partAt? stream 12
  drawingGroup := partAt? stream 50

/-! ## Reading is checking -/

theorem toNat_ofNat_valueAt_two (stream : Bytes) (offset : Nat) :
    (UInt16.ofNat (stream.valueAt offset 2)).toNat = stream.valueAt offset 2 :=
  UInt16.toNat_ofNat_of_lt' (stream.valueAt_lt offset 2)

theorem toNat_ofNat_valueAt_four (stream : Bytes) (offset : Nat) :
    (UInt32.ofNat (stream.valueAt offset 4)).toNat = stream.valueAt offset 4 :=
  UInt32.toNat_ofNat_of_lt' (stream.valueAt_lt offset 4)

theorem ofNat_valueAt_four_eq_zero_iff (stream : Bytes) (offset : Nat) :
    UInt32.ofNat (stream.valueAt offset 4) = 0 ↔ stream.valueAt offset 4 = 0 := by
  rw [← UInt32.toNat_inj, toNat_ofNat_valueAt_four]
  rfl

section Steps

variable {α : Type}

/-- A field that may hold any number, in front of what is done with it. -/
theorem field16_bind (stream : Bytes) (offset : Nat) (next : UInt16 → Except Fault α) :
    field16 stream offset >>= next = (numberField offset 2).check stream >>= fun _ =>
      next (UInt16.ofNat (stream.valueAt offset 2)) := by
  unfold field16 Bytes.u16? Field.check
  rw [Bytes.natAt?_eq stream offset (by decide)]
  by_cases hcut : stream.length < offset + 2
  · simp only [numberField, hcut, if_true]
    rfl
  · simp only [numberField, hcut, if_false]
    rfl

theorem field32_bind (stream : Bytes) (offset : Nat) (next : UInt32 → Except Fault α) :
    field32 stream offset >>= next = (numberField offset 4).check stream >>= fun _ =>
      next (UInt32.ofNat (stream.valueAt offset 4)) := by
  unfold field32 Bytes.u32? Field.check
  rw [Bytes.natAt?_eq stream offset (by decide)]
  by_cases hcut : stream.length < offset + 4
  · simp only [numberField, hcut, if_true]
    rfl
  · simp only [numberField, hcut, if_false]
    rfl

/-- A field whose number is judged once it is read. -/
theorem numberField_bind_judged (stream : Bytes) (offset width : Nat) (defect? : Nat → Option Fault)
    (next : Except Fault α) :
    ((numberField offset width).check stream >>= fun _ =>
      match defect? (stream.valueAt offset width) with
      | some fault => .error fault
      | none => next) =
      (Field.mk offset width (.notOpened .fibTruncated) defect?).check stream >>= fun _ => next := by
  unfold Field.check
  by_cases hcut : stream.length < offset + width
  · simp only [numberField, hcut, if_true]
    rfl
  · simp only [numberField, hcut, if_false]
    cases defect? (stream.valueAt offset width) <;> rfl

theorem signature_step (stream : Bytes) (next : Except Fault α) :
    (if stream.u16? 0 ≠ some signature then throw (.notOpened .notWord) else next) =
      signatureField.check stream >>= fun _ => next := by
  have hsignature : UInt16.ofNat (stream.valueAt 0 2) = signature ↔
      stream.valueAt 0 2 = 0xA5EC := by
    rw [← UInt16.toNat_inj, toNat_ofNat_valueAt_two]
    rfl
  unfold Bytes.u16? Field.check
  rw [Bytes.natAt?_eq stream 0 (by decide)]
  by_cases hcut : stream.length < 0 + 2
  · simp only [signatureField, hcut, if_true]
    rfl
  · simp only [signatureField, hcut, if_false, Option.map_some, ne_eq, Option.some.injEq,
      hsignature]
    by_cases hvalue : stream.valueAt 0 2 = 0xA5EC <;> simp only [hvalue] <;> rfl

theorem version_step (stream : Bytes) (next : Except Fault α) :
    (field16 stream 2 >>= fun version =>
      if version < firstVersion then throw (.oldFormat (.word version)) else next) =
      versionField.check stream >>= fun _ => next := by
  have hversion : UInt16.ofNat (stream.valueAt 2 2) < firstVersion ↔
      stream.valueAt 2 2 < 106 := by
    rw [UInt16.lt_iff_toNat_lt, toNat_ofNat_valueAt_two]
    rfl
  rw [field16_bind]
  refine (bind_congr fun _ => ?_).trans (numberField_bind_judged stream 2 2 versionField.defect? next)
  simp only [hversion, versionField]
  split <;> rfl

/-- A flag is a bit of the number. -/
theorem and_ne_zero_iff_testBit (stream : Bytes) (offset : Nat) {flag : UInt16} {bit : Nat}
    (hflag : flag.toNat = 2 ^ bit) :
    UInt16.ofNat (stream.valueAt offset 2) &&& flag ≠ 0 ↔
      (stream.valueAt offset 2).testBit bit = true := by
  rw [ne_eq, ← UInt16.toNat_inj, UInt16.toNat_and, toNat_ofNat_valueAt_two, hflag, Nat.and_comm,
    Nat.two_pow_and]
  cases (stream.valueAt offset 2).testBit bit <;> simp

theorem flags_step (stream : Bytes) (next : UInt16 → Except Fault α) :
    (field16 stream 10 >>= fun flags =>
      if flags &&& encryptedFlag ≠ 0 then throw .encrypted else next flags) =
      flagsField.check stream >>= fun _ => next (UInt16.ofNat (stream.valueAt 10 2)) := by
  have hencrypted := and_ne_zero_iff_testBit stream 10
    (show encryptedFlag.toNat = 2 ^ 8 from rfl)
  rw [field16_bind]
  refine (bind_congr fun _ => ?_).trans (numberField_bind_judged stream 10 2 flagsField.defect? _)
  simp only [hencrypted, flagsField]
  split <;> rfl

theorem pair_bind (stream : Bytes) (index : Nat)
    (next : Option TableRange → Except Fault α) :
    pair stream (pairsOffset stream + 2) (pairCount stream) index >>= next =
      (pairFields stream index).mapM (Field.check stream) >>= fun _ =>
        next (partAt? stream index) := by
  unfold pair pairFields partAt? pairOffset
  by_cases hindex : index < pairCount stream
  · rw [if_neg (Nat.not_le_of_lt hindex), if_pos hindex]
    simp only [bind_assoc, pure_bind, List.mapM_cons, List.mapM_nil, hindex, true_and]
    refine (field32_bind stream _ _).trans (bind_congr fun _ => ?_)
    refine (field32_bind stream _ _).trans (bind_congr fun _ => ?_)
    simp only [toNat_ofNat_valueAt_four, ofNat_valueAt_four_eq_zero_iff, ne_eq, ite_not]
  · rw [if_pos (Nat.le_of_not_lt hindex), if_neg hindex, if_neg (fun h => hindex h.1)]
    rfl

end Steps

theorem read_eq (stream : Bytes) :
    read stream = ((fields stream).mapM (Field.check stream)).map fun _ => told stream := by
  rw [fields]
  simp only [List.cons_append, List.nil_append, Result.map_mapM_cons, Result.map_mapM_append]
  refine (signature_step stream _).trans (bind_congr fun _ => ?_)
  refine (version_step stream _).trans (bind_congr fun _ => ?_)
  refine (flags_step stream _).trans (bind_congr fun _ => ?_)
  -- Each count that was read is in the offset of the next field.
  refine (field16_bind stream _ _).trans (bind_congr fun _ => ?_)
  simp only [toNat_ofNat_valueAt_two]
  refine (field16_bind stream _ _).trans (bind_congr fun _ => ?_)
  simp only [toNat_ofNat_valueAt_two]
  refine (field16_bind stream _ _).trans (bind_congr fun _ => ?_)
  simp only [toNat_ofNat_valueAt_two]
  refine (pair_bind stream 12 _).trans (bind_congr fun _ => ?_)
  refine (pair_bind stream 50 _).trans ?_
  have htable := and_ne_zero_iff_testBit stream 10 (show tableOneFlag.toNat = 2 ^ 9 from rfl)
  simp only [htable, told]
  cases (pairFields stream 50).mapM (Field.check stream) <;> rfl

/-! ## A block as it was laid out -/

theorem check_of_holds {field : Field} {n : Nat}
    (h : stream.Holds field.offset field.width n) (hn : field.defect? n = none) :
    field.check stream = .ok () := by
  rw [Field.check, if_neg (Nat.not_lt.2 h.2), h.1, hn]

/-- What is chosen for a block; the three counts are those of what stands behind them. -/
structure Layout where
  version : UInt16
  afterVersion : Bytes
  flags : UInt16
  afterFlags : Bytes
  shortCount : UInt16
  shorts : Bytes
  longCount : UInt16
  longs : Bytes
  pairs : List (UInt32 × UInt32)
  le_version : 106 ≤ version.toNat
  length_afterVersion : afterVersion.length = 6
  not_encrypted : flags.toNat.testBit 8 = false
  length_afterFlags : afterFlags.length = 20
  length_shorts : shorts.length = 2 * shortCount.toNat
  length_longs : longs.length = 4 * longCount.toNat
  length_pairs_lt : pairs.length < 2 ^ 16

namespace Layout

def pairBytes (pair : UInt32 × UInt32) : Bytes :=
  Bytes.ofU32 pair.1 ++ Bytes.ofU32 pair.2

def pairCount (layout : Layout) : UInt16 :=
  UInt16.ofNat layout.pairs.length

def bytes (layout : Layout) : Bytes :=
  Bytes.ofU16 signature ++ Bytes.ofU16 layout.version ++ layout.afterVersion ++
    Bytes.ofU16 layout.flags ++ layout.afterFlags ++
    Bytes.ofU16 layout.shortCount ++ layout.shorts ++
    Bytes.ofU16 layout.longCount ++ layout.longs ++
    Bytes.ofU16 layout.pairCount ++ layout.pairs.flatMap pairBytes

def tableStream (layout : Layout) : TableStream :=
  if layout.flags.toNat.testBit 9 then .one else .zero

/-- The part that the pair of a number tells. -/
def part? (layout : Layout) (index : Nat) : Option TableRange :=
  (layout.pairs[index]?).bind fun pair =>
    if pair.2 = 0 then none else some ⟨pair.1.toNat, pair.2.toNat⟩

theorem toNat_pairCount (layout : Layout) : layout.pairCount.toNat = layout.pairs.length :=
  UInt16.toNat_ofNat_of_lt' layout.length_pairs_lt

/-- The fields of the block are where the counts in front of them say. -/
structure Placed (layout : Layout) (rest stream : Bytes) : Prop where
  signature : stream.Holds 0 2 0xA5EC
  version : stream.Holds 2 2 layout.version.toNat
  flags : stream.Holds 10 2 layout.flags.toNat
  shortCount : stream.Holds 32 2 layout.shortCount.toNat
  longCount : stream.Holds (longsOffset stream) 2 layout.longCount.toNat
  pairCount : stream.Holds (pairsOffset stream) 2 layout.pairs.length
  pairs : stream.drop (pairsOffset stream + 2) = layout.pairs.flatMap pairBytes ++ rest

variable {layout : Layout} {rest : Bytes} {index : Nat}

/-- Going along the block: each count gives the place of the next one. -/
theorem placed_of_drop (h : stream.drop 0 = layout.bytes ++ rest) : layout.Placed rest stream := by
  simp only [bytes, List.append_assoc] at h
  obtain ⟨hsignature, h⟩ := Bytes.holds_of_drop_u16 h
  obtain ⟨hversion, h⟩ := Bytes.holds_of_drop_u16 h
  obtain ⟨hflags, h⟩ := Bytes.holds_of_drop_u16 (Bytes.drop_of_drop h layout.length_afterVersion)
  obtain ⟨hshorts, h⟩ := Bytes.holds_of_drop_u16 (Bytes.drop_of_drop h layout.length_afterFlags)
  obtain ⟨hlongs, h⟩ := Bytes.holds_of_drop_u16 (Bytes.drop_of_drop h layout.length_shorts)
  obtain ⟨hpairs, h⟩ := Bytes.holds_of_drop_u16 (Bytes.drop_of_drop h layout.length_longs)
  rw [layout.toNat_pairCount] at hpairs
  have hshorts : stream.Holds 32 2 layout.shortCount.toNat := hshorts
  have hlongs : stream.Holds (longsOffset stream) 2 layout.longCount.toNat := by
    rw [longsOffset, hshorts.1]
    exact hlongs
  have hpairsOffset :
      pairsOffset stream = 34 + 2 * layout.shortCount.toNat + 2 + 4 * layout.longCount.toNat := by
    rw [pairsOffset, hlongs.1, longsOffset, hshorts.1]
  refine ⟨hsignature, hversion, hflags, hshorts, hlongs, ?_, ?_⟩
  · rw [hpairsOffset]
    exact hpairs
  · rw [hpairsOffset]
    exact h

/-- A pair stands 8 bytes behind the one before. -/
theorem holds_pair {start : Nat} {pairs : List (UInt32 × UInt32)} {pair : UInt32 × UInt32}
    (h : stream.drop start = pairs.flatMap pairBytes ++ rest)
    (hpair : pairs[index]? = some pair) :
    stream.Holds (start + 8 * index) 4 pair.1.toNat ∧
      stream.Holds (start + 8 * index + 4) 4 pair.2.toNat := by
  induction pairs generalizing start index with
  | nil => cases hpair
  | cons first pairs ih =>
      rw [List.flatMap_cons, pairBytes, List.append_assoc, List.append_assoc] at h
      obtain ⟨hoffset, h⟩ := Bytes.holds_of_drop_u32 h
      obtain ⟨hlength, h⟩ := Bytes.holds_of_drop_u32 h
      cases index with
      | zero =>
          cases hpair
          exact ⟨hoffset, hlength⟩
      | succ index =>
          have hnext : start + 4 + 4 + 8 * index = start + 8 * (index + 1) := by omega
          rw [← hnext]
          exact ih h hpair

namespace Placed

variable (h : layout.Placed rest stream)

include h

theorem pairCount_eq : Fib.pairCount stream = layout.pairs.length :=
  h.pairCount.1

theorem holds_pair {pair : UInt32 × UInt32} (hpair : layout.pairs[index]? = some pair) :
    stream.Holds (pairOffset stream index) 4 pair.1.toNat ∧
      stream.Holds (pairOffset stream index + 4) 4 pair.2.toNat :=
  Layout.holds_pair h.pairs hpair

theorem partAt?_eq : partAt? stream index = layout.part? index := by
  unfold partAt? part?
  rw [h.pairCount_eq]
  cases hpair : layout.pairs[index]? with
  | none =>
      rw [if_neg (fun hpart => Nat.not_lt.2 (List.getElem?_eq_none_iff.1 hpair) hpart.1)]
      rfl
  | some pair =>
      have hindex : index < layout.pairs.length := List.getElem?_eq_some_iff.1 hpair |>.1
      rcases h.holds_pair hpair with ⟨hoffset, hlength⟩
      simp only [hindex, true_and, hoffset.1, hlength.1, Option.bind_some, ← UInt32.toNat_inj,
        UInt32.toNat_zero, ne_eq, ite_not]

theorem pairFields_check : ∀ field ∈ pairFields stream index, field.check stream = .ok () := by
  unfold pairFields
  rw [h.pairCount_eq]
  split
  next hindex =>
    rcases h.holds_pair (List.getElem?_eq_getElem hindex) with ⟨hoffset, hlength⟩
    simp only [List.forall_mem_cons]
    exact ⟨check_of_holds hoffset rfl, check_of_holds hlength rfl, List.forall_mem_nil _⟩
  next =>
    exact List.forall_mem_nil _

theorem fields_check : ∀ field ∈ fields stream, field.check stream = .ok () := by
  have hversion : versionField.defect? layout.version.toNat = none :=
    if_neg (Nat.not_lt.2 layout.le_version)
  have hflags : flagsField.defect? layout.flags.toNat = none :=
    if_neg (Bool.eq_false_iff.1 layout.not_encrypted)
  unfold fields
  simp only [List.forall_mem_append, List.forall_mem_cons]
  refine ⟨⟨check_of_holds h.signature rfl, check_of_holds h.version hversion,
    check_of_holds h.flags hflags, check_of_holds h.shortCount rfl, check_of_holds h.longCount rfl,
    check_of_holds h.pairCount rfl, List.forall_mem_nil _⟩, h.pairFields_check, h.pairFields_check⟩

theorem told_eq : told stream = ⟨layout.tableStream, layout.part? 12, layout.part? 50⟩ := by
  rw [told, h.partAt?_eq, h.partAt?_eq, h.flags.1, tableStream]

end Placed

theorem part?_eq_none_iff : layout.part? index = none ↔
    layout.pairs.length ≤ index ∨ ∃ pair, layout.pairs[index]? = some pair ∧ pair.2 = 0 := by
  unfold part?
  rw [← List.getElem?_eq_none_iff]
  cases layout.pairs[index]? with
  | none => simp
  | some pair => simp

end Layout

/-! ## What reading a block comes to -/

theorem read_eq_ok_iff {fib : Fib} : read stream = .ok fib ↔
    (∀ field ∈ fields stream, field.check stream = .ok ()) ∧ fib = told stream := by
  rw [read_eq]
  constructor
  · intro h
    rcases Result.exists_of_map h with ⟨list, hlist, rfl⟩
    refine ⟨fun field hfield => ?_, rfl⟩
    rcases Result.exists_mapM_iff.1 ⟨list, hlist⟩ field hfield with ⟨⟨⟩, hcheck⟩
    exact hcheck
  · rintro ⟨hcheck, rfl⟩
    rcases Result.exists_mapM_iff.2 (fun field hfield => ⟨(), hcheck field hfield⟩) with
      ⟨list, hlist⟩
    rw [hlist]
    rfl

theorem read_eq_error_iff :
    read stream = .error fault ↔ Result.FailsFirst (Field.check stream) (fields stream) fault := by
  rw [read_eq, ← Result.mapM_eq_error_iff]
  cases (fields stream).mapM (Field.check stream) <;> simp [Except.map]

/-- A block that was laid out is read back, whatever its counts are, what stands in the areas between
them and what follows the block; there is no part if there is no such pair or its length is zero.  Of
any bytes at all the fields are checked in their order: the first that is cut off or not acceptable
gives the fault, and if there is none they tell what is read. -/
theorem read_by_counts :
    (∀ (layout : Layout) (rest : Bytes), read (layout.bytes ++ rest) =
      .ok ⟨layout.tableStream, layout.part? 12, layout.part? 50⟩) ∧
    (∀ (layout : Layout) (index : Nat), layout.part? index = none ↔ layout.pairs.length ≤ index ∨
      ∃ pair, layout.pairs[index]? = some pair ∧ pair.2 = 0) ∧
    ∀ stream : Bytes,
      (∀ fault, read stream = .error fault ↔
        Result.FailsFirst (Field.check stream) (fields stream) fault) ∧
      (∀ fib, read stream = .ok fib ↔
        (∀ field ∈ fields stream, field.check stream = .ok ()) ∧ fib = told stream) := by
  refine ⟨fun layout rest => ?_, fun layout index => Layout.part?_eq_none_iff, fun stream =>
    ⟨fun fault => read_eq_error_iff, fun fib => read_eq_ok_iff⟩⟩
  have h : layout.Placed rest (layout.bytes ++ rest) := Layout.placed_of_drop List.drop_zero
  exact read_eq_ok_iff.2 ⟨h.fields_check, h.told_eq.symm⟩

/-- A block of 51 pairs, behind arrays of which one is empty and the other is not. -/
def fullLayout : Layout where
  version := 193
  afterVersion := List.replicate 6 0xFF
  flags := 0x0200
  afterFlags := List.replicate 20 0xFF
  shortCount := 0
  shorts := []
  longCount := 2
  longs := List.replicate 8 0xFF
  pairs := List.replicate 12 (7, 7) ++ (0x40, 0) :: List.replicate 37 (7, 7) ++ [(0x1234, 0x56)]
  le_version := by decide
  length_afterVersion := rfl
  not_encrypted := rfl
  length_afterFlags := rfl
  length_shorts := rfl
  length_longs := rfl
  length_pairs_lt := by decide

theorem read_by_counts_full :
    read (fullLayout.bytes ++ [0x2A]) = .ok ⟨.one, none, some ⟨0x1234, 0x56⟩⟩ ∧
      read (Bytes.ofU16 signature) = .error (.notOpened .fibTruncated) := by
  constructor
  · rw [read_by_counts.1 fullLayout [0x2A]]
    rfl
  · refine ((read_by_counts.2.2 (Bytes.ofU16 signature)).1 _).2
      ⟨[signatureField], versionField, _, rfl, ?_, rfl⟩
    exact List.forall_mem_singleton.2 ⟨(), rfl⟩

end Fib
end Word
end OfficePictures
