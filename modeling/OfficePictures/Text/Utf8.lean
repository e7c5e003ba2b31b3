import OfficePictures.Bytes

/-!
# Utf8 — text and its bytes

`encode` writes each character as one to four bytes.  `decode` reads bytes back and never fails:
each maximal start of a character that cannot be completed becomes one replacement character.
`decodeStrict?` refuses such bytes instead.
-/

namespace OfficePictures
namespace Text
namespace Utf8

def encode (text : List Char) : Bytes :=
  text.flatMap String.utf8EncodeChar

/-- The character that stands for bytes that are no text. -/
def replacement : Char := '\uFFFD'

def isContinuation (b : UInt8) : Bool :=
  0x80 ≤ b && b ≤ 0xBF

/-- How many bytes follow a first byte of a character. -/
def followers? (b : UInt8) : Option Nat :=
  if b < 0x80 then some 0
  else if 0xC2 ≤ b && b ≤ 0xDF then some 1
  else if 0xE0 ≤ b && b ≤ 0xEF then some 2
  else if 0xF0 ≤ b && b ≤ 0xF4 then some 3
  else none

/-- Whether `second` may follow the first byte `first`: overlong forms, surrogates and numbers
above the last code point are excluded here. -/
def secondFits (first second : UInt8) : Bool :=
  if first = 0xE0 then 0xA0 ≤ second && second ≤ 0xBF
  else if first = 0xED then 0x80 ≤ second && second ≤ 0x9F
  else if first = 0xF0 then 0x90 ≤ second && second ≤ 0xBF
  else if first = 0xF4 then 0x80 ≤ second && second ≤ 0x8F
  else isContinuation second

/-- The number of bytes at the start of `rest` that can continue a character that begins with
`first`, at most `wanted`. -/
def continued (first : UInt8) (wanted : Nat) (rest : Bytes) : Nat :=
  match wanted, rest with
  | 0, _ => 0
  | _, [] => 0
  | wanted + 1, second :: more =>
      if secondFits first second then
        1 + ((more.take wanted).takeWhile isContinuation).length
      else
        0

/-- The code point of a first byte and the bytes that follow it. -/
def codePoint (first : UInt8) (rest : Bytes) : Nat :=
  let lead :=
    match rest.length with
    | 0 => first.toNat
    | 1 => first.toNat % 0x20
    | 2 => first.toNat % 0x10
    | _ => first.toNat % 0x08
  rest.foldl (fun n b => n * 0x40 + b.toNat % 0x40) lead

/-- One step of decoding: the character or `none` for bytes that are no text, and what is left. -/
def next (first : UInt8) (rest : Bytes) : Option Char × Bytes :=
  match followers? first with
  | none => (none, rest)
  | some wanted =>
      let found := continued first wanted rest
      if found = wanted then
        (some (Char.ofNat (codePoint first (rest.take wanted))), rest.drop wanted)
      else
        (none, rest.drop found)

theorem next_length_le (first : UInt8) (rest : Bytes) :
    (next first rest).2.length ≤ rest.length := by
  unfold next
  split
  · simp
  · dsimp only
    split <;> simp

/-- The characters of a byte string, with `none` for each maximal piece that is no text. -/
def pieces : Bytes → List (Option Char)
  | [] => []
  | first :: rest => (next first rest).1 :: pieces (next first rest).2
termination_by bytes => bytes.length
decreasing_by
  have := next_length_le first rest
  simp only [List.length_cons]
  omega

/-- The text of a byte string; what is no text becomes a replacement character. -/
def decode (bytes : Bytes) : List Char :=
  (pieces bytes).map (·.getD replacement)

/-- The text of a byte string, if all of it is text. -/
def decodeStrict? (bytes : Bytes) : Option (List Char) :=
  (pieces bytes).mapM id

end Utf8
end Text
end OfficePictures
