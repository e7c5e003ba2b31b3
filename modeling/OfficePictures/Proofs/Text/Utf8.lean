import Mathlib.Data.List.TakeWhile
import Mathlib.Tactic.SplitIfs
import OfficePictures.Text.Utf8

/-!
# Utf8 — text is read back

The bytes of a text are read back as the same text.  A first byte asks for a number of others, and
the character is complete with these, whatever follows.

* `IsCharacter.next_eq` — a first byte and the bytes that it asks for are one character;
* `exists_isCharacter` — the bytes of a character are such bytes;
* `decode_encode` — the bytes of a text are read as that text.
-/

namespace OfficePictures
namespace Text
namespace Utf8

/-! ## Bytes -/

theorem followers?_ofNat {n : Nat} (h : n < 256) :
    followers? (UInt8.ofNat n) =
      if n < 0x80 then some 0
      else if 0xC2 ≤ n ∧ n ≤ 0xDF then some 1
      else if 0xE0 ≤ n ∧ n ≤ 0xEF then some 2
      else if 0xF0 ≤ n ∧ n ≤ 0xF4 then some 3
      else none := by
  simp [followers?, UInt8.lt_iff_toNat_lt, UInt8.le_iff_toNat_le, UInt8.toNat_ofNat_of_lt' h]

theorem isContinuation_ofNat {n : Nat} (hlow : 0x80 ≤ n) (hhigh : n ≤ 0xBF) :
    isContinuation (UInt8.ofNat n) = true := by
  have hvalue := UInt8.toNat_ofNat_of_lt' (Nat.lt_of_le_of_lt hhigh (by decide : 0xBF < 256))
  simp [isContinuation, UInt8.le_iff_toNat_le, hvalue, hlow, hhigh]

/-- Four first bytes allow only some of the bytes that continue a character. -/
theorem secondFits_ofNat {first second : Nat} (hfirst : first < 256) (hlow : 0x80 ≤ second)
    (hhigh : second ≤ 0xBF) (hE0 : first = 0xE0 → 0xA0 ≤ second)
    (hED : first = 0xED → second ≤ 0x9F) (hF0 : first = 0xF0 → 0x90 ≤ second)
    (hF4 : first = 0xF4 → second ≤ 0x8F) :
    secondFits (UInt8.ofNat first) (UInt8.ofNat second) = true := by
  have hvalue := UInt8.toNat_ofNat_of_lt' (Nat.lt_of_le_of_lt hhigh (by decide : 0xBF < 256))
  have heq : ∀ b : UInt8, UInt8.ofNat first = b ↔ first = b.toNat := by
    intro b
    rw [← UInt8.toNat_inj, UInt8.toNat_ofNat_of_lt' hfirst]
  -- Each special first byte excludes one end of the range.
  unfold secondFits
  split_ifs with h h h h
  · simp [UInt8.le_iff_toNat_le, hvalue, hE0 ((heq _).1 h), hhigh]
  · simp [UInt8.le_iff_toNat_le, hvalue, hED ((heq _).1 h), hlow]
  · simp [UInt8.le_iff_toNat_le, hvalue, hF0 ((heq _).1 h), hhigh]
  · simp [UInt8.le_iff_toNat_le, hvalue, hF4 ((heq _).1 h), hlow]
  · exact isContinuation_ofNat hlow hhigh

/-! ## Characters -/

/-- A first byte and the bytes that it asks for are the character with the number `code`. -/
structure IsCharacter (first : UInt8) (more : Bytes) (code : Nat) : Prop where
  count : followers? first = some more.length
  second : ∀ b, more.head? = some b → secondFits first b = true
  others : ∀ b ∈ more.tail, isContinuation b = true
  code_eq : codePoint first more = code

/-- What follows a character has no part in it. -/
theorem IsCharacter.next_eq {first : UInt8} {more : Bytes} {code : Nat}
    (h : IsCharacter first more code) (rest : Bytes) :
    next first (more ++ rest) = (some (Char.ofNat code), rest) := by
  have hfound : continued first more.length (more ++ rest) = more.length := by
    -- The second byte has a check of its own, and all others have the same.
    cases more with
    | nil => simp [continued]
    | cons second more =>
        have hsecond : secondFits first second = true := h.second second rfl
        have hall : more.takeWhile isContinuation = more := List.takeWhile_eq_self_iff.2 h.others
        simp [continued, hsecond, hall, Nat.add_comm]
  simp [next, h.count, hfound, h.code_eq]

theorem isCharacter_one {code : Nat} (h : code ≤ 0x7F) :
    IsCharacter (UInt8.ofNat code) [] code := by
  constructor
  case count =>
    rw [followers?_ofNat (by omega), if_pos (by omega), List.length_nil]
  case second =>
    intro b hb
    cases hb
  case others =>
    intro b hb
    cases hb
  case code_eq =>
    simp only [codePoint, List.length_nil, List.foldl_nil, UInt8.toNat_ofNat']
    omega

theorem isCharacter_two {code : Nat} (hlow : 0x7F < code) (hhigh : code ≤ 0x7FF) :
    IsCharacter (UInt8.ofNat (code / 64 % 32 + 192)) [UInt8.ofNat (code % 64 + 128)] code := by
  constructor
  case count =>
    rw [followers?_ofNat (by omega), if_neg (by omega), if_pos (by omega), List.length_singleton]
  case second =>
    intro b hb
    cases hb
    exact secondFits_ofNat (by omega) (by omega) (by omega) (by omega) (by omega) (by omega)
      (by omega)
  case others =>
    intro b hb
    cases hb
  case code_eq =>
    simp only [codePoint, List.length_singleton, List.foldl_cons, List.foldl_nil,
      UInt8.toNat_ofNat']
    omega

/-- Numbers of surrogates are no characters. -/
theorem isCharacter_three {code : Nat} (hlow : 0x7FF < code) (hhigh : code ≤ 0xFFFF)
    (hvalid : code < 0xD800 ∨ 0xDFFF < code) :
    IsCharacter (UInt8.ofNat (code / 4096 % 16 + 224))
      [UInt8.ofNat (code / 64 % 64 + 128), UInt8.ofNat (code % 64 + 128)] code := by
  constructor
  case count =>
    rw [followers?_ofNat (by omega), if_neg (by omega), if_neg (by omega), if_pos (by omega)]
    rfl
  case second =>
    intro b hb
    cases hb
    exact secondFits_ofNat (by omega) (by omega) (by omega) (by omega) (by omega) (by omega)
      (by omega)
  case others =>
    intro b hb
    rw [List.mem_singleton.1 hb]
    exact isContinuation_ofNat (by omega) (by omega)
  case code_eq =>
    simp only [codePoint, List.length_cons, List.length_nil, List.foldl_cons, List.foldl_nil,
      UInt8.toNat_ofNat']
    omega

theorem isCharacter_four {code : Nat} (hlow : 0xFFFF < code) (hhigh : code < 0x110000) :
    IsCharacter (UInt8.ofNat (code / 262144 % 8 + 240))
      [UInt8.ofNat (code / 4096 % 64 + 128), UInt8.ofNat (code / 64 % 64 + 128),
        UInt8.ofNat (code % 64 + 128)] code := by
  constructor
  case count =>
    rw [followers?_ofNat (by omega), if_neg (by omega), if_neg (by omega), if_neg (by omega),
      if_pos (by omega)]
    rfl
  case second =>
    intro b hb
    cases hb
    exact secondFits_ofNat (by omega) (by omega) (by omega) (by omega) (by omega) (by omega)
      (by omega)
  case others =>
    intro b hb
    rcases List.mem_cons.1 hb with rfl | hb
    · exact isContinuation_ofNat (by omega) (by omega)
    · rw [List.mem_singleton.1 hb]
      exact isContinuation_ofNat (by omega) (by omega)
  case code_eq =>
    simp only [codePoint, List.length_cons, List.length_nil, List.foldl_cons, List.foldl_nil,
      UInt8.toNat_ofNat']
    omega

theorem utf8EncodeChar_of_le {c : Char} (h : c.toNat ≤ 0x7F) :
    String.utf8EncodeChar c = [UInt8.ofNat c.toNat] :=
  if_pos h

/-- A byte below 0x80 is a character of its own. -/
theorem toNat_of_mem_utf8EncodeChar {c : Char} {b : UInt8} (h : b ∈ String.utf8EncodeChar c)
    (hlow : b.toNat < 0x80) : b.toNat = c.toNat := by
  have hcode : c.val.toNat = c.toNat := rfl
  simp only [String.utf8EncodeChar, hcode] at h
  split_ifs at h with hone
  · rw [List.mem_singleton.1 h, UInt8.toNat_ofNat']
    omega
  -- All bytes of the longer forms are above 0x7F.
  all_goals
    simp only [List.mem_cons, List.not_mem_nil, or_false, ← UInt8.toNat_inj,
      UInt8.toNat_ofNat'] at h
    omega

/-! ## Reading back -/

theorem encode_cons (c : Char) (text : List Char) :
    encode (c :: text) = String.utf8EncodeChar c ++ encode text :=
  List.flatMap_cons

theorem encode_append (front back : List Char) :
    encode (front ++ back) = encode front ++ encode back :=
  List.flatMap_append

theorem exists_isCharacter (c : Char) :
    ∃ first more, String.utf8EncodeChar c = first :: more ∧ IsCharacter first more c.toNat := by
  have hvalid : c.toNat < 0xD800 ∨ 0xDFFF < c.toNat ∧ c.toNat < 0x110000 := c.valid
  have hcode : c.val.toNat = c.toNat := rfl
  simp only [String.utf8EncodeChar, hcode]
  -- Each form has more bytes only for numbers that do not fit into the one before.
  split_ifs with hone htwo hthree
  · exact ⟨_, _, rfl, isCharacter_one hone⟩
  · exact ⟨_, _, rfl, isCharacter_two (by omega) htwo⟩
  · exact ⟨_, _, rfl, isCharacter_three (by omega) hthree (by omega)⟩
  · exact ⟨_, _, rfl, isCharacter_four (by omega) (by omega)⟩

theorem pieces_utf8EncodeChar (c : Char) (rest : Bytes) :
    pieces (String.utf8EncodeChar c ++ rest) = some c :: pieces rest := by
  rcases exists_isCharacter c with ⟨first, more, hbytes, hchar⟩
  rw [hbytes, List.cons_append, pieces, hchar.next_eq, Char.ofNat_toNat]

/-- The bytes of a text are read as that text. -/
theorem decode_encode (text : List Char) : decode (encode text) = text := by
  have hpieces : pieces (encode text) = text.map some := by
    induction text with
    | nil => rw [encode, List.flatMap_nil, pieces, List.map_nil]
    | cons c text ih => rw [encode_cons, pieces_utf8EncodeChar, ih, List.map_cons]
  rw [decode, hpieces, List.map_map]
  exact List.map_id text

end Utf8
end Text
end OfficePictures
