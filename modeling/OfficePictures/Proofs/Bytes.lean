import OfficePictures.Bytes

/-!
# Bytes — parts and fields of byte strings

What readers of streams say about places: where a part stands, what number a field holds, and how
the fields of a part compare with those of the whole.

* `ofNat_toNat`, `exists_eq_ofU32` — bytes are the field of their own number;
* `StandsAt`, `StandsAt.trans` — what stands in a part of a stream stands in the stream;
* `natAt?_drop`, `natAt?_take`, `natAt?_append_of_eq_some` — the fields of a part;
* `valueAt`, `Holds` — the number at a place, and the field that is there;
* `AgreeOn` — streams with bytes in common have what is there in common.
-/

namespace OfficePictures
namespace Bytes

/-! ## Bytes as fields -/

/-- Bytes are the field of their own number. -/
theorem ofNat_toNat (bytes : Bytes) : ofNat bytes.length (toNat bytes) = bytes := by
  induction bytes with
  | nil => rfl
  | cons b rest ih =>
      have hb : b.toNat < 256 := b.toNat_lt
      have hfirst : (b.toNat + 256 * toNat rest) % 256 = b.toNat := by omega
      have hrest : (b.toNat + 256 * toNat rest) / 256 = toNat rest := by omega
      rw [List.length_cons, toNat, ofNat, hfirst, hrest, ih, UInt8.ofNat_toNat]

theorem exists_eq_ofU32 {bytes : Bytes} (h : bytes.length = 4) : ∃ value, bytes = ofU32 value := by
  have hlt : toNat bytes < bound 4 := h ▸ toNat_lt bytes
  refine ⟨UInt32.ofNat (toNat bytes), ?_⟩
  rw [ofU32, UInt32.toNat_ofNat_of_lt' hlt, ← h, ofNat_toNat]

theorem u32?_ofU32 (value : UInt32) : u32? (ofU32 value) 0 = some value := by
  simpa using u32?_ofU32_append value []

theorem ofU32_inj {a b : UInt32} : ofU32 a = ofU32 b ↔ a = b := by
  constructor
  · intro h
    have hread := u32?_ofU32 a
    rw [h, u32?_ofU32] at hread
    exact (Option.some.inj hread).symm
  · rintro rfl
    rfl

/-! ## Parts of a stream -/

theorem length_take_drop (data : Bytes) (start length : Nat) :
    ((data.drop start).take length).length = min length (data.length - start) := by
  rw [List.length_take, List.length_drop]

/-- The bytes of `part` stand in `source` at `offset`; the first byte of `source` is at `base`. -/
def StandsAt (part source : Bytes) (base offset : Nat) : Prop :=
  ∃ front back, source = front ++ (part ++ back) ∧ offset = base + front.length

theorem standsAt_drop_take (source : Bytes) (base : Nat) {start : Nat} (h : start ≤ source.length)
    (length : Nat) : StandsAt ((source.drop start).take length) source base (base + start) := by
  refine ⟨source.take start, (source.drop start).drop length, ?_, ?_⟩
  · rw [List.take_append_drop, List.take_append_drop]
  · rw [List.length_take, Nat.min_eq_left h]

/-- What stands in a part of a stream stands in the stream. -/
theorem StandsAt.trans {part middle source : Bytes} {base position offset : Nat}
    (h : StandsAt part middle position offset) (hmiddle : StandsAt middle source base position) :
    StandsAt part source base offset := by
  rcases h with ⟨front, back, rfl, rfl⟩
  rcases hmiddle with ⟨outerFront, outerBack, rfl, rfl⟩
  refine ⟨outerFront ++ front, back ++ outerBack, ?_, ?_⟩
  · simp only [List.append_assoc]
  · rw [List.length_append, Nat.add_assoc]

theorem slice?_eq_some_iff {source part : Bytes} {start length : Nat} :
    slice? source start length = some part ↔
      start + length ≤ source.length ∧ part = (source.drop start).take length := by
  rw [slice?, Option.ite_none_right_eq_some, Option.some.injEq, eq_comm]

/-- A part stands where it can be cut out. -/
theorem standsAt_iff_slice? {part source : Bytes} {offset : Nat} :
    part.StandsAt source 0 offset ↔ slice? source offset part.length = some part := by
  rw [slice?_eq_some_iff]
  constructor
  · rintro ⟨front, back, rfl, rfl⟩
    rw [Nat.zero_add, List.drop_left, List.take_left]
    refine ⟨?_, rfl⟩
    simp only [List.length_append]
    omega
  · rintro ⟨hinside, hpart⟩
    have hstands := standsAt_drop_take source 0 (by omega : offset ≤ source.length) part.length
    rwa [← hpart, Nat.zero_add] at hstands

/-- A byte stands in front of what follows it. -/
theorem slice?_eq_some_cons_iff {source part : Bytes} {start length : Nat} {byte : UInt8} :
    slice? source start (length + 1) = some (byte :: part) ↔
      source[start]? = some byte ∧ slice? source (start + 1) length = some part := by
  rw [slice?_eq_some_iff, slice?_eq_some_iff]
  constructor
  · rintro ⟨hinside, hpart⟩
    have hstart : start < source.length := by omega
    rw [List.drop_eq_getElem_cons hstart, List.take_succ_cons, List.cons.injEq] at hpart
    rw [List.getElem?_eq_getElem hstart, hpart.1]
    exact ⟨rfl, by omega, hpart.2⟩
  · rintro ⟨hbyte, hinside, hpart⟩
    rcases List.getElem?_eq_some_iff.1 hbyte with ⟨hstart, rfl⟩
    rw [List.drop_eq_getElem_cons hstart, List.take_succ_cons, ← hpart]
    exact ⟨by omega, rfl⟩

/-! ## Fields of parts -/

theorem natAt?_drop (data : Bytes) (position offset width : Nat) :
    natAt? (data.drop position) offset width = natAt? data (position + offset) width := by
  simp only [natAt?, List.drop_drop]

/-- A field in front of the end of a part is that of the whole. -/
theorem natAt?_take (data : Bytes) {count offset width : Nat} (h : offset + width ≤ count) :
    natAt? (data.take count) offset width = natAt? data offset width := by
  have hfield : ((data.take count).drop offset).take width = (data.drop offset).take width := by
    rw [List.drop_take, List.take_take, Nat.min_eq_left (by omega)]
  rw [natAt?, natAt?, hfield]

/-- A field that is read lies inside. -/
theorem le_length_of_natAt? {data : Bytes} {offset width n : Nat}
    (h : natAt? data offset width = some n) (hwidth : 0 < width) :
    offset + width ≤ data.length := by
  unfold natAt? at h
  dsimp only at h
  split at h
  · rename_i hwhole
    rw [List.length_take, List.length_drop] at hwhole
    omega
  · cases h

/-- A field that is read is read just so if more bytes follow. -/
theorem natAt?_append_of_eq_some {data : Bytes} {offset width n : Nat}
    (h : natAt? data offset width = some n) (rest : Bytes) :
    natAt? (data ++ rest) offset width = some n := by
  unfold natAt? at h ⊢
  by_cases hwhole : ((data.drop offset).take width).length = width
  · have hlong : width ≤ (data.drop offset).length := by
      rw [List.length_take] at hwhole
      omega
    have hfield : ((data ++ rest).drop offset).take width = (data.drop offset).take width := by
      rw [List.drop_append, List.take_append_of_le_length hlong]
    dsimp only at h ⊢
    rw [hfield]
    exact h
  · dsimp only at h
    rw [if_neg hwhole] at h
    cases h

theorem u16?_append_of_eq_some {data : Bytes} {offset : Nat} {value : UInt16}
    (h : u16? data offset = some value) (rest : Bytes) :
    u16? (data ++ rest) offset = some value := by
  rcases Option.map_eq_some_iff.1 h with ⟨n, hn, rfl⟩
  rw [u16?, natAt?_append_of_eq_some hn, Option.map_some]

theorem u32?_append_of_eq_some {data : Bytes} {offset : Nat} {value : UInt32}
    (h : u32? data offset = some value) (rest : Bytes) :
    u32? (data ++ rest) offset = some value := by
  rcases Option.map_eq_some_iff.1 h with ⟨n, hn, rfl⟩
  rw [u32?, natAt?_append_of_eq_some hn, Option.map_some]

/-! ## Numbers at a place -/

variable {stream other back : Bytes} {offset width n : Nat}

/-- The number in the `width` bytes at `offset`; bytes that are not there count as zero. -/
def valueAt (stream : Bytes) (offset width : Nat) : Nat :=
  toNat ((stream.drop offset).take width)

theorem bound_le {m : Nat} (h : m ≤ n) : bound m ≤ bound n := by
  induction h with
  | refl => exact Nat.le_refl _
  | step _ ih => exact Nat.le_trans ih (Nat.le_mul_of_pos_left _ (by decide))

theorem valueAt_lt (stream : Bytes) (offset width : Nat) :
    valueAt stream offset width < bound width :=
  Nat.lt_of_lt_of_le (toNat_lt _) (bound_le (List.length_take_le _ _))

theorem natAt?_eq (stream : Bytes) (offset : Nat) (hwidth : 0 < width) :
    natAt? stream offset width =
      if stream.length < offset + width then none else some (valueAt stream offset width) := by
  have hlength : ((stream.drop offset).take width).length = width ↔
      ¬ stream.length < offset + width := by
    rw [List.length_take, List.length_drop]
    omega
  unfold natAt? valueAt
  dsimp only
  split <;> split <;> first | rfl | omega

/-- The stream has the field at `offset`, and its number is `n`. -/
def Holds (stream : Bytes) (offset width n : Nat) : Prop :=
  valueAt stream offset width = n ∧ offset + width ≤ stream.length

instance (stream : Bytes) (offset width n : Nat) : Decidable (stream.Holds offset width n) :=
  inferInstanceAs (Decidable (_ ∧ _))

theorem Holds.lt (h : stream.Holds offset width n) : n < bound width := by
  rw [← h.1]
  exact valueAt_lt stream offset width

theorem natAt?_eq_some_iff (hwidth : 0 < width) :
    natAt? stream offset width = some n ↔ stream.Holds offset width n := by
  rw [natAt?_eq stream offset hwidth, Option.ite_none_left_eq_some, Option.some.injEq, Nat.not_lt,
    and_comm, Holds]

theorem u16?_eq_some_iff {value : UInt16} :
    u16? stream offset = some value ↔ stream.Holds offset 2 value.toNat := by
  rw [← natAt?_eq_some_iff (by decide), u16?, Option.map_eq_some_iff]
  constructor
  · rintro ⟨n, hn, rfl⟩
    rw [UInt16.toNat_ofNat_of_lt' ((natAt?_eq_some_iff (by decide)).1 hn).lt]
    exact hn
  · intro h
    exact ⟨_, h, UInt16.ofNat_toNat⟩

theorem u32?_eq_some_iff {value : UInt32} :
    u32? stream offset = some value ↔ stream.Holds offset 4 value.toNat := by
  rw [← natAt?_eq_some_iff (by decide), u32?, Option.map_eq_some_iff]
  constructor
  · rintro ⟨n, hn, rfl⟩
    rw [UInt32.toNat_ofNat_of_lt' ((natAt?_eq_some_iff (by decide)).1 hn).lt]
    exact hn
  · intro h
    exact ⟨_, h, UInt32.ofNat_toNat⟩

/-- The field at the beginning is that of the bytes which the stream begins with. -/
theorem u32?_zero_eq_some_iff {value : UInt32} :
    u32? stream 0 = some value ↔ ofU32 value <+: stream := by
  constructor
  · intro h
    rcases u32?_eq_some_iff.1 h with ⟨hvalue, hinside⟩
    have hlength : (stream.take 4).length = 4 := List.length_take_of_le (by omega)
    have hfield : ofU32 value = stream.take 4 := by
      calc
        ofU32 value = ofNat 4 value.toNat := rfl
        _ = ofNat (stream.take 4).length (toNat (stream.take 4)) := by
            rw [hlength, ← hvalue, valueAt, List.drop_zero]
        _ = stream.take 4 := ofNat_toNat _
    rw [hfield]
    exact List.take_prefix 4 stream
  · rintro ⟨rest, rfl⟩
    exact u32?_ofU32_append value rest

/-- A field that was written is there, and what was written behind it is behind it. -/
theorem holds_of_drop (h : stream.drop offset = ofNat width n ++ back) (hwidth : 0 < width)
    (hn : n < bound width) : stream.Holds offset width n ∧ stream.drop (offset + width) = back := by
  have hlength := congrArg List.length h
  rw [List.length_drop, List.length_append, length_ofNat] at hlength
  refine ⟨⟨?_, by omega⟩, ?_⟩
  · rw [valueAt, h, List.take_left' (length_ofNat width n), toNat_ofNat, Nat.mod_eq_of_lt hn]
  · rw [← List.drop_drop, h, List.drop_left' (length_ofNat width n)]

theorem holds_of_drop_u16 {value : UInt16} (h : stream.drop offset = ofU16 value ++ back) :
    stream.Holds offset 2 value.toNat ∧ stream.drop (offset + 2) = back :=
  holds_of_drop h (by decide) value.toNat_lt

theorem holds_of_drop_u32 {value : UInt32} (h : stream.drop offset = ofU32 value ++ back) :
    stream.Holds offset 4 value.toNat ∧ stream.drop (offset + 4) = back :=
  holds_of_drop h (by decide) value.toNat_lt

/-- One of the fields of a width that stand in a row. -/
theorem holds_of_drop_flatMap {α : Type} {number : α → Nat} {items : List α} {item : α}
    {start index : Nat} (hwidth : 0 < width) (hnumber : ∀ item, number item < bound width)
    (h : stream.drop start = (items.flatMap fun item => ofNat width (number item)) ++ back)
    (hitem : items[index]? = some item) :
    stream.Holds (start + width * index) width (number item) := by
  induction items generalizing start index with
  | nil => cases hitem
  | cons first items ih =>
      rw [List.flatMap_cons, List.append_assoc] at h
      obtain ⟨hfirst, h⟩ := holds_of_drop h hwidth (hnumber first)
      cases index with
      | zero =>
          cases hitem
          exact hfirst
      | succ index =>
          have hnext : start + width * (index + 1) = start + width + width * index := by
            rw [Nat.mul_succ, Nat.add_comm (width * index), Nat.add_assoc]
          rw [hnext]
          exact ih h hitem

theorem holds_of_drop_flatMap_u16 {values : List UInt16} {value : UInt16} {start index : Nat}
    (h : stream.drop start = values.flatMap ofU16 ++ back) (hvalue : values[index]? = some value) :
    stream.Holds (start + 2 * index) 2 value.toNat :=
  holds_of_drop_flatMap (by decide) UInt16.toNat_lt h hvalue

theorem holds_of_drop_flatMap_u32 {values : List UInt32} {value : UInt32} {start index : Nat}
    (h : stream.drop start = values.flatMap ofU32 ++ back) (hvalue : values[index]? = some value) :
    stream.Holds (start + 4 * index) 4 value.toNat :=
  holds_of_drop_flatMap (by decide) UInt32.toNat_lt h hvalue

/-- Whatever was written in an area, what was written behind it is behind it. -/
theorem drop_of_drop {area : Bytes} (h : stream.drop offset = area ++ back)
    (hwidth : area.length = width) : stream.drop (offset + width) = back := by
  rw [← List.drop_drop, h, List.drop_left' hwidth]

/-! ## Streams with bytes in common -/

/-- Both streams have the same bytes from `start` up to `stop`. -/
def AgreeOn (stream other : Bytes) (start stop : Nat) : Prop :=
  ∀ place, start ≤ place → place < stop → stream[place]? = other[place]?

namespace AgreeOn

variable {start stop : Nat}

theorem mono {first last : Nat} (h : AgreeOn stream other start stop) (hfirst : start ≤ first)
    (hlast : last ≤ stop) : AgreeOn stream other first last := by
  intro place hplace hless
  exact h place (Nat.le_trans hfirst hplace) (Nat.lt_of_lt_of_le hless hlast)

/-- A stream that reaches as far as another has its last byte in common with it. -/
theorem le_length (h : AgreeOn stream other start stop) (hsome : start < stop)
    (hstop : stop ≤ stream.length) : stop ≤ other.length := by
  have hlast : stop - 1 < stream.length := by omega
  have hagree := h (stop - 1) (by omega) (by omega)
  rw [List.getElem?_eq_getElem hlast, eq_comm] at hagree
  have hother := (List.getElem?_eq_some_iff.1 hagree).1
  omega

theorem take_drop_eq (h : AgreeOn stream other start stop) {length : Nat}
    (hlength : start + length ≤ stop) :
    (stream.drop start).take length = (other.drop start).take length := by
  refine List.ext_getElem? fun index => ?_
  rw [List.getElem?_take, List.getElem?_take]
  split
  · rw [List.getElem?_drop, List.getElem?_drop]
    exact h _ (Nat.le_add_right _ _) (by omega)
  · rfl

theorem holds (h : AgreeOn stream other start stop) (hstart : start ≤ offset)
    (hstop : offset + width ≤ stop) (hwidth : 0 < width) (hn : stream.Holds offset width n) :
    other.Holds offset width n := by
  have hfield := h.mono hstart hstop
  refine ⟨?_, hfield.le_length (by omega) hn.2⟩
  rw [← hn.1, valueAt, valueAt, hfield.take_drop_eq (Nat.le_refl _)]

end AgreeOn
end Bytes
end OfficePictures
