import OfficePictures.Proofs.Machine.InlinePicture

/-!
# OwnBlock — an inline picture is read from its own block

What a location yields is settled by the bytes from the position of its block up to the end that the
block tells.  Two streams that have these bytes in common yield the same there, whatever else they
hold, also where a reader in place looks at a byte behind the block.

* `locationPictures_eq`, `locationPictures_eq_nil` — what is yielded where there is a block, and
  where there is none;
* `HasBlock.of_agreeOn`, `locationPictures_congr` — two streams with a block in common;
* `locationPictures_named` — where the art records begin behind the name of a file;
* `inlinePictures_congr` — the same for all locations;
* `inlinePictures_from_own_blocks` — all of it together.
-/

namespace OfficePictures
namespace Word

open Art

variable {limits : Limits} {stream other : Bytes} {position length : Nat} {location : UInt32}

/-! ## What a block yields -/

theorem locationPictures_eq (hblock : HasBlock stream location.toNat length) :
    locationPictures stream limits location =
      blockPictures limits (blockAt stream location.toNat (location.toNat + length))
        location.toNat := by
  have hend := blockEnd?_eq_some_iff.2 ⟨length, hblock, rfl⟩
  unfold locationPictures
  dsimp only
  rw [hend]
  rfl

/-- A location without a block yields nothing. -/
theorem locationPictures_eq_nil (hnone : ∀ length, ¬ HasBlock stream location.toNat length) :
    locationPictures stream limits location = .ok [] := by
  unfold locationPictures
  dsimp only
  cases hend : blockEnd? stream location.toNat with
  | none => rfl
  | some blockEnd =>
      rcases blockEnd?_eq_some_iff.1 hend with ⟨length, hblock, -⟩
      exact absurd hblock (hnone length)

/-! ## Two streams -/

/-- A stream that agrees on a block has it too. -/
theorem HasBlock.of_agreeOn (hblock : HasBlock stream position length)
    (hagree : stream.AgreeOn other position (position + length)) :
    HasBlock other position length := by
  -- The header lies inside the block, so its fields are among the bytes that both streams have.
  have hheader : 68 ≤ length := hblock.header_le
  constructor
  · exact hagree.holds (Nat.le_refl _) (by omega) (by decide) hblock.length_field
  · exact hagree.holds (Nat.le_add_right _ _) (by omega) (by decide) hblock.header_field
  · exact hblock.header_le
  · exact hagree.le_length (by omega) hblock.le_length

theorem blockAt_congr (hagree : stream.AgreeOn other position (position + length)) :
    blockAt stream position (position + length) = blockAt other position (position + length) := by
  unfold blockAt
  rw [Nat.add_sub_cancel_left]
  exact hagree.take_drop_eq (Nat.le_refl _)

/-- Streams that agree on the block at a location yield the same pictures there, or the same
failure. -/
theorem locationPictures_congr (hblock : HasBlock stream location.toNat length)
    (hagree : stream.AgreeOn other location.toNat (location.toNat + length)) :
    locationPictures stream limits location = locationPictures other limits location := by
  calc
    locationPictures stream limits location =
        blockPictures limits (blockAt stream location.toNat (location.toNat + length))
          location.toNat := locationPictures_eq hblock
    _ = blockPictures limits (blockAt other location.toNat (location.toNat + length))
          location.toNat := by rw [blockAt_congr hagree]
    _ = locationPictures other limits location :=
      (locationPictures_eq (hblock.of_agreeOn hagree)).symm

/-- A reader in place that may look behind the block finds what the block of the other stream
yields. -/
theorem takeBlock_congr (hother : other.length < 2 ^ 62)
    (hblock : HasBlock stream location.toNat length)
    (hagree : stream.AgreeOn other location.toNat (location.toNat + length)) (blips : List Blip) :
    Machine.takeBlock other limits blips location =
      .of ((locationPictures stream limits location).map (blips ++ ·)) := by
  rw [Machine.takeBlock_eq hother, Walk.appending, locationPictures_congr hblock hagree]

/-! ## The name of a file -/

theorem shapePictures_nil (limits : Limits) (offset : Nat) :
    shapePictures limits [] offset = .ok [] := by
  rw [shapePictures, Record.scan_of_short (by decide)]
  rfl

/-- The art records begin behind the name whose length the byte behind the header tells, at the
latest at the end of the block. -/
theorem locationPictures_named {start : Nat} (hblock : HasBlock stream location.toNat length)
    (hform : stream.Holds (location.toNat + 6) 2 namedShapeForm.toNat)
    (hstart : start = min (location.toNat + 69 + (stream[location.toNat + 68]?.getD 0).toNat)
      (location.toNat + length)) :
    locationPictures stream limits location =
      shapePictures limits ((stream.drop start).take (location.toNat + length - start)) start := by
  have hheader : 68 ≤ length := hblock.header_le
  have hnamed : (Bytes.u16? (blockAt stream location.toNat (location.toNat + length)) 6).getD 0 =
      namedShapeForm := by
    rw [u16?_blockAt (by omega), Bytes.u16?_eq_some_iff.2 hform, Option.getD_some]
  -- Counted from the start of the stream, the end of the name is where a reader in place finds it.
  have hname : location.toNat + (blockHeaderLength + nameLength
      ((blockAt stream location.toNat (location.toNat + length)).drop blockHeaderLength)) =
        start := by
    have hbehind : location.toNat + blockHeaderLength ≤ location.toNat + length :=
      Nat.add_le_add_left hheader _
    rw [drop_blockAt, ← Nat.add_assoc, add_nameLength hbehind hblock.le_length, hstart]
    rfl
  rw [locationPictures_eq hblock, blockPictures_eq, if_pos hnamed, drop_blockAt, hname]

/-- A block whose name leaves it holds no picture. -/
theorem locationPictures_of_overlong (hblock : HasBlock stream location.toNat length)
    (hform : stream.Holds (location.toNat + 6) 2 namedShapeForm.toNat)
    (hlong : length ≤ 69 + (stream[location.toNat + 68]?.getD 0).toNat) :
    locationPictures stream limits location = .ok [] := by
  -- The records would begin where the block ends.
  have hend : location.toNat + length =
      min (location.toNat + 69 + (stream[location.toNat + 68]?.getD 0).toNat)
        (location.toNat + length) := by
    omega
  rw [locationPictures_named hblock hform hend, Nat.sub_self, List.take_zero, shapePictures_nil]

/-- Neither does a block that is only a header, whatever its form. -/
theorem locationPictures_of_headerOnly
    (hblock : HasBlock stream location.toNat blockHeaderLength) :
    locationPictures stream limits location = .ok [] := by
  -- Nothing stands behind the header, so nothing is left wherever the content of a form begins.
  have hempty : ∀ count, blockHeaderLength ≤ count →
      (blockAt stream location.toNat (location.toNat + blockHeaderLength)).drop count = [] := by
    intro count hcount
    apply List.drop_eq_nil_of_le
    rw [blockAt, Nat.add_sub_cancel_left]
    exact Nat.le_trans (List.length_take_le _ _) hcount
  rw [locationPictures_eq hblock, blockPictures_eq, hempty _ (Nat.le_refl _),
    hempty _ (Nat.le_add_right _ _), shapePictures_nil, shapePictures_nil, if_pos rfl, ite_self,
    ite_self]

/-! ## All locations -/

/-- At `position` both streams have the same block, or neither has one. -/
def SameBlock (stream other : Bytes) (position : Nat) : Prop :=
  (∃ length, HasBlock stream position length ∧
    stream.AgreeOn other position (position + length)) ∨
    ∀ length, ¬ HasBlock stream position length ∧ ¬ HasBlock other position length

theorem SameBlock.locationPictures_eq (h : SameBlock stream other location.toNat) :
    locationPictures stream limits location = locationPictures other limits location := by
  rcases h with ⟨length, hblock, hagree⟩ | hnone
  · exact locationPictures_congr hblock hagree
  · rw [locationPictures_eq_nil fun length => (hnone length).1,
      locationPictures_eq_nil fun length => (hnone length).2]

/-- Streams that differ only outside the blocks at the locations have the same inline pictures. -/
theorem inlinePictures_congr {locations : List UInt32}
    (h : ∀ location ∈ locations, SameBlock stream other location.toNat) :
    inlinePictures stream locations limits = inlinePictures other locations limits := by
  unfold inlinePictures
  induction locations with
  | nil => rfl
  | cons location locations ih =>
      rcases List.forall_mem_cons.1 h with ⟨hlocation, hlocations⟩
      rw [Walk.gatherItems_cons, Walk.gatherItems_cons, hlocation.locationPictures_eq,
        ih hlocations]

/-- The inline pictures are what the locations yield, one after the other, and the first failure
decides.  A location yields what is in its own block: no byte in front of it or behind it counts,
neither for a reader that takes the block apart nor for one that reads in place. -/
theorem inlinePictures_from_own_blocks :
    (∀ stream limits locations list, inlinePictures stream locations limits = .ok list ↔
      ∃ parts, List.Forall₂ (fun location part => locationPictures stream limits location = .ok part)
        locations parts ∧ list = parts.flatten) ∧
    (∀ stream limits locations fault, inlinePictures stream locations limits = .error fault ↔
      Result.FailsFirst (locationPictures stream limits) locations fault) ∧
    (∀ stream limits (location : UInt32), (∀ length, ¬ HasBlock stream location.toNat length) →
      locationPictures stream limits location = .ok []) ∧
    (∀ stream other limits (location : UInt32) length, HasBlock stream location.toNat length →
      stream.AgreeOn other location.toNat (location.toNat + length) →
        locationPictures stream limits location = locationPictures other limits location ∧
        (other.length < 2 ^ 62 → ∀ blips, Machine.takeBlock other limits blips location =
          .of ((locationPictures stream limits location).map (blips ++ ·)))) ∧
    (∀ stream limits (location : UInt32) length, HasBlock stream location.toNat length →
      length = blockHeaderLength ∨ stream.Holds (location.toNat + 6) 2 namedShapeForm.toNat ∧
          length ≤ 69 + (stream[location.toNat + 68]?.getD 0).toNat →
        locationPictures stream limits location = .ok []) ∧
    ∀ stream other limits locations,
      (∀ location ∈ locations, SameBlock stream other location.toNat) →
        inlinePictures stream locations limits = inlinePictures other locations limits := by
  refine ⟨?_, ?_, ?_, ?_, ?_, ?_⟩
  · intro stream limits locations list
    exact Walk.gatherItems_eq_ok_iff
  · intro stream limits locations fault
    exact Walk.gatherItems_eq_error_iff
  · intro stream limits location hnone
    exact locationPictures_eq_nil hnone
  · intro stream other limits location length hblock hagree
    exact ⟨locationPictures_congr hblock hagree,
      fun hother => takeBlock_congr hother hblock hagree⟩
  · intro stream limits location length hblock hcase
    rcases hcase with rfl | ⟨hform, hlong⟩
    · exact locationPictures_of_headerOnly hblock
    · exact locationPictures_of_overlong hblock hform hlong
  · intro stream other limits locations h
    exact inlinePictures_congr h

/-- A block of the given form: its header, then the content. -/
def blockOf (form : UInt16) (content : Bytes) : Bytes :=
  Bytes.ofU32 (UInt32.ofNat (68 + content.length)) ++ (Bytes.ofU16 68 ++ (Bytes.ofU16 form ++
    (List.replicate 60 0 ++ content)))

/-- A name that would leave its block, a bare metafile, and only a header. -/
def threeBlocks : Bytes :=
  blockOf namedShapeForm [9, 0x61] ++ (blockOf 8 [1, 2, 3] ++ blockOf shapeForm [])

theorem hasBlock_threeBlocks :
    HasBlock threeBlocks 0 70 ∧ HasBlock threeBlocks 70 71 ∧
      HasBlock threeBlocks 141 blockHeaderLength :=
  ⟨by decide +kernel, by decide +kernel, by decide +kernel⟩

/-- The blocks yield the metafile, also if other bytes stand behind it; its length is refused first
where it is over the limit. -/
theorem inlinePictures_from_own_blocks_three :
    inlinePictures threeBlocks [0, 70, 141, 1] ⟨3, 0⟩ = .ok [⟨.wmf, [1, 2, 3], 138⟩] ∧
    inlinePictures threeBlocks [0, 70, 141] ⟨2, 0⟩ = .error (.tooLarge 2) ∧
    inlinePictures threeBlocks [0, 70] ⟨3, 0⟩ =
      inlinePictures (threeBlocks.take 141 ++ [7]) [0, 70] ⟨3, 0⟩ ∧
    Machine.takeBlock (threeBlocks.take 141 ++ [7]) ⟨3, 0⟩ [] 70 =
      .of ((locationPictures threeBlocks ⟨3, 0⟩ 70).map ([] ++ ·)) := by
  obtain ⟨hall, hfails, hnone, hown, hempty, hsame⟩ := inlinePictures_from_own_blocks
  obtain ⟨hname, hbare, hheader⟩ := hasBlock_threeBlocks
  have hagree : ∀ start stop, stop ≤ 141 →
      threeBlocks.AgreeOn (threeBlocks.take 141 ++ [7]) start stop := by
    intro start stop hstop place _ hplace
    have hfront : place < (threeBlocks.take 141).length :=
      Nat.lt_of_lt_of_le hplace (Nat.le_trans hstop (by decide +kernel))
    rw [List.getElem?_append_left hfront, List.getElem?_take_of_lt (Nat.lt_of_lt_of_le hplace hstop)]
  have hnameNil : ∀ limits, locationPictures threeBlocks limits 0 = .ok [] := by
    intro limits
    exact hempty threeBlocks limits 0 70 hname
      (.inr ⟨by decide +kernel, by decide +kernel⟩)
  have hheaderNil : ∀ limits, locationPictures threeBlocks limits 141 = .ok [] := by
    intro limits
    exact hempty threeBlocks limits 141 68 hheader (.inl rfl)
  have hastray : locationPictures threeBlocks ⟨3, 0⟩ 1 = .ok [] := by
    apply hnone
    intro length hblock
    exact absurd hblock.header_field (by decide +kernel)
  have hmetafile : locationPictures threeBlocks ⟨3, 0⟩ 70 = .ok [⟨.wmf, [1, 2, 3], 138⟩] := by
    decide +kernel
  have hrefused : locationPictures threeBlocks ⟨2, 0⟩ 70 = .error (.tooLarge 2) := by
    decide +kernel
  refine ⟨?_, ?_, ?_, ?_⟩
  · refine (hall _ _ _ _).2 ⟨[[], [⟨.wmf, [1, 2, 3], 138⟩], [], []], ?_, rfl⟩
    exact .cons (hnameNil _) (.cons hmetafile (.cons (hheaderNil _) (.cons hastray .nil)))
  · refine (hfails _ _ _ _).2 ⟨[0], 70, [141], rfl, ?_, hrefused⟩
    intro location hlocation
    cases List.mem_singleton.1 hlocation
    exact ⟨[], hnameNil _⟩
  · apply hsame
    intro location hlocation
    left
    rcases List.mem_cons.1 hlocation with rfl | hlocation
    · exact ⟨70, hname, hagree _ _ (by decide)⟩
    · cases List.mem_singleton.1 hlocation
      exact ⟨71, hbare, hagree _ _ (by decide)⟩
  · exact (hown threeBlocks _ _ 70 71 hbare (hagree _ _ (by decide))).2 (by decide +kernel) []

end Word
end OfficePictures
