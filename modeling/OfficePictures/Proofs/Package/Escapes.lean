import OfficePictures.Proofs.Package.Target

/-!
# Escapes — which percent signs of a target are read as escapes

The bytes of a target are gone through from the left.  A percent sign with two hexadecimal digits
behind it stands for the byte that they denote; but so does one with a plus sign and a single digit,
and only the percent signs that are left are copied like all other bytes.

* `IsDigit`, `AreDigits`, `AreSigned` — the digits, and what may stand behind a percent sign;
* `Scan`, `scan_iff` — the bytes gone through from the left, and that `unescape` does it;
* `scan_areDigits_iff` — only signs make a difference to digits alone;
* `percentDecode_scan` — what is read of any text;
* `not_forall_scan_areDigits` — a sign is taken for a digit.
-/

namespace OfficePictures
namespace Package

variable {high low b : UInt8} {bytes rest read : Bytes} {n : Nat}

/-! ## What may stand behind a percent sign -/

def plus : UInt8 := 0x2B

def smallDigits : Bytes :=
  Text.Utf8.encode "0123456789abcdef".toList

def capitalDigits : Bytes :=
  Text.Utf8.encode "0123456789ABCDEF".toList

/-- The byte is the hexadecimal digit for `n`, in either case. -/
def IsDigit (b : UInt8) (n : Nat) : Prop :=
  smallDigits[n]? = some b ∨ capitalDigits[n]? = some b

/-- Two hexadecimal digits, and the byte that they denote. -/
def AreDigits (high low b : UInt8) : Prop :=
  ∃ m n, IsDigit high m ∧ IsDigit low n ∧ b.toNat = 16 * m + n

/-- A plus sign and a hexadecimal digit, and the byte that the digit denotes. -/
def AreSigned (high low b : UInt8) : Prop :=
  high = plus ∧ IsDigit low b.toNat

theorem lt_of_isDigit (h : IsDigit b n) : n < 16 := by
  have hsmall : smallDigits.length = 16 := by decide
  have hcapital : capitalDigits.length = 16 := by decide
  rcases h with h | h
  · rcases List.getElem?_eq_some_iff.1 h with ⟨hlt, -⟩
    omega
  · rcases List.getElem?_eq_some_iff.1 h with ⟨hlt, -⟩
    omega

theorem isDigit_iff : IsDigit b n ↔ Text.hexDigit? (Char.ofNat b.toNat) = some n := by
  -- There are few bytes and few digits, so this is checked once for all of them.
  have hvalue : ∀ code : Fin 256, ∀ digit : Fin 16,
      (smallDigits[digit.val]? = some (UInt8.ofNat code) ∨
        capitalDigits[digit.val]? = some (UInt8.ofNat code)) ↔
        Text.hexDigit? (Char.ofNat code) = some digit.val := by
    decide +kernel
  have hbound : ∀ code : Fin 256, (Text.hexDigit? (Char.ofNat code)).all (· < 16) = true := by
    decide +kernel
  have hbyte := hvalue ⟨b.toNat, b.toNat_lt⟩
  rw [UInt8.ofNat_toNat] at hbyte
  constructor
  · intro h
    exact (hbyte ⟨n, lt_of_isDigit h⟩).1 h
  · intro h
    have hlt := hbound ⟨b.toNat, b.toNat_lt⟩
    rw [h, Option.all_some, decide_eq_true_eq] at hlt
    exact (hbyte ⟨n, hlt⟩).2 h

theorem percent_not_isDigit : ¬ IsDigit percent n := by
  have hnone : Text.hexDigit? (Char.ofNat percent.toNat) = none := by decide
  rw [isDigit_iff, hnone]
  exact (Option.some_ne_none n).symm

theorem plus_not_isDigit : ¬ IsDigit plus n := by
  have hnone : Text.hexDigit? (Char.ofNat plus.toNat) = none := by decide
  rw [isDigit_iff, hnone]
  exact (Option.some_ne_none n).symm

theorem escapedByte?_eq_some_iff :
    escapedByte? high low = some b ↔ AreDigits high low b ∨ AreSigned high low b := by
  unfold AreDigits AreSigned
  constructor
  · intro h
    rcases Option.bind_eq_some_iff.1 h with ⟨n, hlow, h⟩
    have hn := lt_of_isDigit (isDigit_iff.2 hlow)
    split at h
    · rename_i hplus
      cases h
      refine .inr ⟨hplus, ?_⟩
      rwa [UInt8.toNat_ofNat_of_lt' (Nat.lt_trans hn (by decide)), isDigit_iff]
    · rcases Option.bind_eq_some_iff.1 h with ⟨m, hhigh, h⟩
      have hm := lt_of_isDigit (isDigit_iff.2 hhigh)
      cases h
      have hvalue : 16 * m + n < UInt8.size := by
        have hsize : UInt8.size = 256 := rfl
        omega
      exact .inl ⟨m, n, isDigit_iff.2 hhigh, isDigit_iff.2 hlow, UInt8.toNat_ofNat_of_lt' hvalue⟩
  · rintro (⟨m, n, hhigh, hlow, hvalue⟩ | ⟨rfl, hlow⟩)
    · have hplus : high ≠ 0x2B := by
        rintro rfl
        exact plus_not_isDigit hhigh
      rw [escapedByte?, isDigit_iff.1 hlow, Option.bind_eq_bind, Option.bind_some, if_neg hplus,
        isDigit_iff.1 hhigh, Option.bind_some, ← hvalue, UInt8.ofNat_toNat]
      rfl
    · have hplus : plus = 0x2B := rfl
      rw [escapedByte?, isDigit_iff.1 hlow, Option.bind_eq_bind, Option.bind_some, if_pos hplus,
        UInt8.ofNat_toNat]
      rfl

/-! ## Going through from the left -/

/-- The bytes begin with an escape, given what two bytes behind a percent sign mean. -/
def BeginsEscape (Means : UInt8 → UInt8 → UInt8 → Prop) (bytes : Bytes) : Prop :=
  ∃ high low b rest, bytes = percent :: high :: low :: rest ∧ Means high low b

/-- The bytes gone through from the left: each escape is replaced by the byte that it means, and what
is no escape is copied. -/
inductive Scan (Means : UInt8 → UInt8 → UInt8 → Prop) : Bytes → Bytes → Prop where
  | nil : Scan Means [] []
  | escape {high low b : UInt8} {rest read : Bytes} :
      Means high low b → Scan Means rest read →
      Scan Means (percent :: high :: low :: rest) (b :: read)
  | copy {b : UInt8} {rest read : Bytes} :
      ¬ BeginsEscape Means (b :: rest) → Scan Means rest read → Scan Means (b :: rest) (b :: read)

theorem not_beginsEscape_of_ne {Means : UInt8 → UInt8 → UInt8 → Prop} (h : b ≠ percent) :
    ¬ BeginsEscape Means (b :: rest) := by
  rintro ⟨high, low, byte, more, hbytes, -⟩
  cases hbytes
  exact h rfl

/-- Whatever two bytes mean behind a percent sign, all bytes can be gone through. -/
theorem exists_scan (Means : UInt8 → UInt8 → UInt8 → Prop) (bytes : Bytes) :
    ∃ read, Scan Means bytes read := by
  -- An escape takes three bytes at once, so the induction is on the length.
  induction hlength : bytes.length using Nat.strongRecOn generalizing bytes with
  | ind size ih =>
      subst hlength
      by_cases hescape : BeginsEscape Means bytes
      · rcases hescape with ⟨high, low, b, rest, rfl, hmeans⟩
        rcases ih rest.length (by simp only [List.length_cons]; omega) rest rfl with ⟨read, hread⟩
        exact ⟨b :: read, .escape hmeans hread⟩
      · cases bytes with
        | nil => exact ⟨[], .nil⟩
        | cons b rest =>
            rcases ih rest.length (Nat.lt_succ_self _) rest rfl with ⟨read, hread⟩
            exact ⟨b :: read, .copy hescape hread⟩

/-- What `unescape` takes for an escape. -/
def IsTaken (high low b : UInt8) : Prop :=
  AreDigits high low b ∨ AreSigned high low b

theorem unescape_of_isTaken (h : IsTaken high low b) (rest : Bytes) :
    unescape (percent :: high :: low :: rest) = b :: unescape rest := by
  rw [unescape, if_pos rfl]
  simp only [escape?, escapedByte?_eq_some_iff.2 h, List.drop_succ_cons, List.drop_zero]

theorem unescape_of_not_beginsEscape (h : ¬ BeginsEscape IsTaken (b :: rest)) :
    unescape (b :: rest) = b :: unescape rest := by
  have hnone : (if b = percent then escape? rest else none) = none := by
    split
    · rename_i hpercent
      rw [Option.eq_none_iff_forall_ne_some]
      intro byte hescape
      match rest, hescape with
      | high :: low :: more, hescape =>
          exact h ⟨high, low, byte, more, by rw [hpercent], escapedByte?_eq_some_iff.1 hescape⟩
    · rfl
  rw [unescape, hnone]

/-- There is one way to go through. -/
theorem scan_iff : Scan IsTaken bytes read ↔ read = unescape bytes := by
  have hunique : ∀ {read : Bytes}, Scan IsTaken bytes read → read = unescape bytes := by
    intro read h
    induction h with
    | nil => rw [unescape]
    | escape hmeans _ ih => rw [unescape_of_isTaken hmeans, ih]
    | copy hnone _ ih => rw [unescape_of_not_beginsEscape hnone, ih]
  constructor
  · exact hunique
  · rintro rfl
    rcases exists_scan IsTaken bytes with ⟨read, hread⟩
    rwa [← hunique hread]

/-! ## Signs -/

/-- Somewhere a percent sign has a plus sign and a digit behind it. -/
def HasSigned (bytes : Bytes) : Prop :=
  ∃ low n, IsDigit low n ∧ [percent, plus, low] <:+: bytes

theorem hasSigned_cons_iff :
    HasSigned (b :: rest) ↔ (∃ low n, IsDigit low n ∧ [percent, plus, low] <+: b :: rest) ∨
      HasSigned rest := by
  simp only [HasSigned, List.infix_cons_iff, and_or_left, exists_or]

theorem hasSigned_cons_of_ne (h : b ≠ percent) : HasSigned (b :: rest) ↔ HasSigned rest := by
  rw [hasSigned_cons_iff, or_iff_right]
  rintro ⟨low, n, -, hstart⟩
  rcases hstart with ⟨more, hmore⟩
  cases hmore
  exact h rfl

theorem IsDigit.ne_percent (h : IsDigit b n) : b ≠ percent := by
  rintro rfl
  exact percent_not_isDigit h

/-- The signs of what stands behind an escape of two digits are all that there are. -/
theorem hasSigned_escape_iff (h : AreDigits high low b) :
    HasSigned (percent :: high :: low :: rest) ↔ HasSigned rest := by
  rcases h with ⟨m, n, hhigh, hlow, -⟩
  rw [hasSigned_cons_iff, or_iff_right, hasSigned_cons_of_ne hhigh.ne_percent,
    hasSigned_cons_of_ne hlow.ne_percent]
  rintro ⟨digit, k, -, hstart⟩
  rcases hstart with ⟨more, hmore⟩
  cases hmore
  exact plus_not_isDigit hhigh

/-- Where no escape is taken, no sign stands in front. -/
theorem hasSigned_copy_iff (h : ¬ BeginsEscape IsTaken (b :: rest)) :
    HasSigned (b :: rest) ↔ HasSigned rest := by
  rw [hasSigned_cons_iff, or_iff_right]
  rintro ⟨low, n, hlow, hstart⟩
  rcases hstart with ⟨more, hmore⟩
  cases hmore
  have hn : n < UInt8.size := Nat.lt_trans (lt_of_isDigit hlow) (by decide)
  refine h ⟨plus, low, UInt8.ofNat n, more, rfl, .inr ⟨rfl, ?_⟩⟩
  rwa [UInt8.toNat_ofNat_of_lt' hn]

/-- What is read is also read by digits alone, unless a sign is taken for a digit somewhere. -/
theorem scan_areDigits_iff (h : Scan IsTaken bytes read) :
    Scan AreDigits bytes read ↔ ¬ HasSigned bytes := by
  induction h with
  | nil =>
      refine iff_of_true .nil ?_
      rintro ⟨low, n, -, hinfix⟩
      cases List.infix_nil.1 hinfix
  | @escape high low b rest read hmeans _ ih =>
      rcases hmeans with hdigits | ⟨rfl, hlow⟩
      · rw [hasSigned_escape_iff hdigits, ← ih]
        constructor
        · intro hscan
          cases hscan with
          | escape _ hrest => exact hrest
          | copy hnone _ => exact absurd ⟨_, _, _, _, rfl, hdigits⟩ hnone
        · exact .escape hdigits
      · -- The byte that a sign and a digit give is never the percent sign itself.
        refine iff_of_false ?_ (not_not_intro ⟨low, _, hlow, [], rest, rfl⟩)
        intro hscan
        cases hscan with
        | escape hdigits _ =>
            rcases hdigits with ⟨m, n, hplus, -⟩
            exact plus_not_isDigit hplus
        | copy _ _ => exact absurd (lt_of_isDigit hlow) (by decide)
  | @copy b rest read hnone _ ih =>
      rw [hasSigned_copy_iff hnone, ← ih]
      have hdigits : ¬ BeginsEscape AreDigits (b :: rest) := by
        rintro ⟨high, low, byte, more, hbytes, hmeans⟩
        exact hnone ⟨high, low, byte, more, hbytes, .inl hmeans⟩
      constructor
      · intro hscan
        cases hscan with
        | escape hmeans _ => exact absurd ⟨_, _, _, _, rfl, hmeans⟩ hdigits
        | copy _ hrest => exact hrest
      · exact .copy hdigits

/-- What is read of a text, whatever is in it: the text of the bytes gone through from the left, where
a percent sign is an escape if two digits stand behind it, or a plus sign and a digit.  By digits
alone the same bytes are read if and only if no percent sign has a plus sign and a digit behind
it. -/
theorem percentDecode_scan (text : List Char) :
    ∃ read, percentDecode text = Text.Utf8.decode read ∧
      (∀ bytes, Scan IsTaken (Text.Utf8.encode text) bytes ↔ bytes = read) ∧
      (Scan AreDigits (Text.Utf8.encode text) read ↔ ¬ HasSigned (Text.Utf8.encode text)) :=
  ⟨unescape (Text.Utf8.encode text), rfl, fun _ => scan_iff,
    scan_areDigits_iff (scan_iff.2 rfl)⟩

/-- A text with a sign behind a percent sign is not read by digits alone. -/
theorem not_forall_scan_areDigits :
    ¬ ∀ (text : List Char) (bytes : Bytes), Scan AreDigits (Text.Utf8.encode text) bytes →
      percentDecode text = Text.Utf8.decode bytes := by
  intro h
  have hbytes : Text.Utf8.encode "%+5".toList = [percent, plus, 0x35] := by
    decide
  -- By digits alone the text stays as it is.
  have hcopied : Scan AreDigits (Text.Utf8.encode "%+5".toList)
      (Text.Utf8.encode "%+5".toList) := by
    rw [hbytes]
    refine .copy ?_ (.copy (not_beginsEscape_of_ne (by decide))
      (.copy (not_beginsEscape_of_ne (by decide)) .nil))
    rintro ⟨high, low, byte, more, hsplit, m, n, hhigh, -⟩
    cases hsplit
    exact plus_not_isDigit hhigh
  -- With signs it is the one character that the digit denotes.
  have htaken : Scan IsTaken (Text.Utf8.encode "%+5".toList) (Text.Utf8.encode ['\x05']) := by
    have hdigit : IsDigit 0x35 5 := by
      unfold IsDigit
      decide
    have hcharacter : Text.Utf8.encode ['\x05'] = [5] := by
      decide
    rw [hbytes, hcharacter]
    exact .escape (.inr ⟨rfl, hdigit⟩) .nil
  have hread : percentDecode "%+5".toList = ['\x05'] := by
    rw [percentDecode, ← scan_iff.1 htaken, Text.Utf8.decode_encode]
  have hsame := h "%+5".toList _ hcopied
  rw [hread, Text.Utf8.decode_encode] at hsame
  exact absurd hsame (by decide)

end Package
end OfficePictures
