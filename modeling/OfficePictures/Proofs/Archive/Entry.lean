import OfficePictures.Archive.Entry
import OfficePictures.Proofs.Deflate.Inflated
import OfficePictures.Proofs.Result

/-!
# Entry — the content of an entry, and limits

If decoders give the same bytes however many are asked for, an entry has one content, if any, and a
limit can only refuse it.

* `Decoder.IsSteady`, `Toolkit.IsSteady` — decoders whose bytes do not depend on how many are asked
  for;
* `Entry.Holds` — the content of an entry, without a word about limits;
* `Entry.Holds.read`, `Entry.holds_of_read` — reading gives the content if it is within the limit;
* `Entry.tightened_read` — a tighter limit gives the same content or refuses it.
-/

namespace OfficePictures

/-! ## Decoders -/

/-- The bytes do not depend on how many are asked for: a reader that was given all there is would
have been given the beginning of it had it asked for less, and no more had it asked for more. -/
def Archive.Decoder.IsSteady (decode : Decoder) : Prop :=
  ∀ stored length count content, decode stored length count = some content →
    content.length < count → ∀ other, decode stored length other = some (content.take other)

/-- All decoders of the toolkit give the same bytes however many are asked for. -/
def Toolkit.IsSteady [Toolkit] : Prop :=
  ∀ method decode, Toolkit.decoder? method = some decode → Archive.Decoder.IsSteady decode

namespace Archive

namespace Decoder

theorem isSteady_plain : IsSteady plain := by
  intro stored length count content h hshort other
  cases h
  rw [List.length_take] at hshort
  rw [plain, List.take_of_length_le (by omega : stored.length ≤ count)]

theorem isSteady_deflate : IsSteady deflate := by
  intro stored length count content h hshort other
  exact (Deflate.Inflated.isWhole_of_read? h hshort).read? other

theorem isSteady_of_ofMethod? [Toolkit] (hsteady : Toolkit.IsSteady) {method : Nat}
    {decode : Decoder} (h : ofMethod? method = some decode) : decode.IsSteady := by
  unfold ofMethod? at h
  split at h
  · cases h
    exact isSteady_plain
  · split at h
    · cases h
      exact isSteady_deflate
    · exact hsteady method decode h

end Decoder

/-! ## Contents -/

namespace Entry

variable [Toolkit]

/-- What an entry that can be read holds: its decoder gives so much of `content` as is asked for. -/
structure Holds (entry : Entry) (content : Bytes) : Prop where
  exists_decoder : ∃ decode, entry.decoder? = some decode ∧
    ∀ count, decode entry.stored entry.length count = some (content.take count)
  length_lt : entry.length < memoryBound
  checksum_eq : Checksum.crc32 content = entry.checksum

variable {entry : Entry} {content : Bytes} {limit : Nat}

/-- Whatever is read was decoded within the limit, with one byte to spare that was not there. -/
theorem read_eq_ok_iff : entry.read limit = .ok content ↔
    ∃ decode, entry.decoder? = some decode ∧ entry.length ≤ limit ∧ entry.length < memoryBound ∧
      decode entry.stored entry.length (limit + 1) = some content ∧ content.length ≤ limit ∧
      Checksum.crc32 content = entry.checksum := by
  unfold Entry.read
  cases entry.decoder? with
  | none => simp
  | some decode =>
      dsimp only
      by_cases hdeclared : limit < entry.length
      · simp [hdeclared, Nat.not_le.2 hdeclared]
      · by_cases hmemory : memoryBound ≤ entry.length
        · simp [hdeclared, hmemory, Nat.not_lt.2 hmemory]
        · rw [if_neg hdeclared, if_neg hmemory]
          cases hdecode : decode entry.stored entry.length (limit + 1) with
          | none => simp [hdecode]
          | some found =>
              dsimp only
              constructor
              · intro h
                split at h
                · cases h
                · rename_i hfits
                  split at h
                  · rename_i hchecksum
                    cases h
                    exact ⟨decode, rfl, Nat.le_of_not_lt hdeclared, Nat.lt_of_not_le hmemory,
                      hdecode, Nat.le_of_not_lt hfits, hchecksum⟩
                  · cases h
              · rintro ⟨_, hsame, -, -, hfound, hfits, hchecksum⟩
                cases hsame
                cases hdecode.symm.trans hfound
                rw [if_neg (Nat.not_lt.2 hfits), if_pos hchecksum]

theorem length_le_of_read (h : entry.read limit = .ok content) : content.length ≤ limit := by
  rcases read_eq_ok_iff.1 h with ⟨_, -, -, -, -, hlength, -⟩
  exact hlength

theorem Holds.read (h : entry.Holds content) (limit : Nat) :
    entry.read limit =
      if entry.length ≤ limit ∧ content.length ≤ limit then .ok content
      else .error (.tooLarge limit) := by
  rcases h.exists_decoder with ⟨decode, hdecoder, hdecode⟩
  have hmemory : ¬ memoryBound ≤ entry.length := Nat.not_le.2 h.length_lt
  rw [Entry.read, hdecoder]
  dsimp only
  by_cases hdeclared : limit < entry.length
  · rw [if_pos hdeclared, if_neg fun hfits => Nat.not_le.2 hdeclared hfits.1]
  · rw [if_neg hdeclared, if_neg hmemory, hdecode (limit + 1)]
    dsimp only
    by_cases hfits : content.length ≤ limit
    · have hall : content.take (limit + 1) = content :=
        List.take_of_length_le (Nat.le_succ_of_le hfits)
      rw [hall, if_neg (Nat.not_lt.2 hfits), if_pos h.checksum_eq,
        if_pos ⟨Nat.le_of_not_lt hdeclared, hfits⟩]
    · -- One byte more than allowed is enough to refuse.
      have hlong : limit < (content.take (limit + 1)).length := by
        rw [List.length_take]
        omega
      rw [if_pos hlong, if_neg fun hboth => hfits hboth.2]

theorem holds_of_read (hsteady : Toolkit.IsSteady) (h : entry.read limit = .ok content) :
    entry.Holds content ∧ entry.length ≤ limit ∧ content.length ≤ limit := by
  rcases read_eq_ok_iff.1 h with
    ⟨decode, hdecoder, hdeclared, hmemory, hdecode, hlength, hchecksum⟩
  have hknown : Decoder.ofMethod? entry.method = some decode := by
    unfold decoder? at hdecoder
    exact (Option.ite_none_left_eq_some.1 hdecoder).2
  have hwhole := Decoder.isSteady_of_ofMethod? hsteady hknown _ _ _ _ hdecode
    (Nat.lt_succ_of_le hlength)
  exact ⟨⟨⟨decode, hdecoder, hwhole⟩, hmemory, hchecksum⟩, hdeclared, hlength⟩

/-- A tighter limit gives the same content, or refuses it as too large. -/
theorem tightened_read (hsteady : Toolkit.IsSteady) (entry : Entry) {tight wide : Nat}
    (hle : tight ≤ wide) :
    Result.Tightened (· = .tooLarge tight) (entry.read tight) (entry.read wide) where
  keeps := by
    intro content h
    rcases holds_of_read hsteady h with ⟨hholds, hdeclared, hlength⟩
    rw [hholds.read, if_pos ⟨Nat.le_trans hdeclared hle, Nat.le_trans hlength hle⟩]
  refuses := by
    intro content h
    rw [(holds_of_read hsteady h).1.read]
    split
    · exact .inl rfl
    · exact .inr ⟨_, rfl, rfl⟩

end Entry
end Archive
end OfficePictures
