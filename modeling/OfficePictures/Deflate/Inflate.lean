import OfficePictures.Deflate.PrefixCode

/-!
# Inflate — decompressing deflate data

Deflate data is a sequence of blocks: stored bytes, or literals and copies of what was put out
before, written with prefix codes that are fixed or given in front of the block.

The decoder returns everything it put out, whether or not it reached the end of the data
(`Inflated`).  `Inflated.read?` is what a reader sees who asks for a number of bytes: the decoder
works a window of 32 KiB at a time, so damage is noticed as soon as its window is begun, and the end
of the input only when a byte behind it is asked for.
-/

namespace OfficePictures
namespace Deflate

/-- What a decoder put out, and why it stopped early, if it did. -/
structure Inflated where
  output : ByteArray
  failure : Option Failure

/-! ## Codes of the format -/

/-- The codes of a compressed block: one for literals and lengths, one for distances. -/
structure BlockCodes where
  literal : PrefixCode
  distance : PrefixCode

def fixedLiteralLengths : List Nat :=
  List.replicate 144 8 ++ List.replicate 112 9 ++ List.replicate 24 7 ++ List.replicate 8 8

def fixedDistanceLengths : List Nat :=
  List.replicate 32 5

def BlockCodes.ofLengths? (literal distance : List Nat) : Option BlockCodes := do
  let literal ← PrefixCode.ofLengths? literal
  let distance ← PrefixCode.ofLengths? distance
  return ⟨literal, distance⟩

/-- The shortest copy and the number of extra bits of each length symbol from 257 on. -/
def copyLengths : Array (Nat × Nat) :=
  #[(3, 0), (4, 0), (5, 0), (6, 0), (7, 0), (8, 0), (9, 0), (10, 0), (11, 1), (13, 1), (15, 1),
    (17, 1), (19, 2), (23, 2), (27, 2), (31, 2), (35, 3), (43, 3), (51, 3), (59, 3), (67, 4),
    (83, 4), (99, 4), (115, 4), (131, 5), (163, 5), (195, 5), (227, 5), (258, 0)]

/-- The shortest distance and the number of extra bits of each distance symbol. -/
def copyDistances : Array (Nat × Nat) :=
  #[(1, 0), (2, 0), (3, 0), (4, 0), (5, 1), (7, 1), (9, 2), (13, 2), (17, 3), (25, 3), (33, 4),
    (49, 4), (65, 5), (97, 5), (129, 6), (193, 6), (257, 7), (385, 7), (513, 8), (769, 8),
    (1025, 9), (1537, 9), (2049, 10), (3073, 10), (4097, 11), (6145, 11), (8193, 12), (12289, 12),
    (16385, 13), (24577, 13)]

/-! ## Blocks -/

/-- The output with `count` more bytes, each the one `distance` before its own place.  The window
starts out as zeros, so a distance that reaches in front of the output copies zeros. -/
def copyBack (distance : Nat) : (count : Nat) → ByteArray → ByteArray
  | 0, output => output
  | count + 1, output =>
      let source := output.size - distance
      let byte :=
        if h : distance ≤ output.size ∧ source < output.size then output.get source h.2 else 0
      copyBack distance count (output.push byte)

def extended (table : Array (Nat × Nat)) (index : Nat) (source : BitSource) :
    Except Failure (Nat × BitSource.Rest source) :=
  match table[index]? with
  | none => .error .damaged
  | some (base, extra) =>
      match source.take extra with
      | .error failure => .error failure
      | .ok (more, rest) => .ok (base + more, rest)

/-- What a code word, with its extra bits and its distance, stands for. -/
inductive Token
  | literal (byte : UInt8)
  | copy (length distance : Nat)
  | endOfBlock
  deriving DecidableEq, Repr

/-- The length and the distance of a copy, after the symbol of its length. -/
def copyToken (codes : BlockCodes) (symbol : Nat) (source : BitSource) :
    Except Failure (Token × BitSource.Rest source) :=
  match extended copyLengths symbol source with
  | .error failure => .error failure
  | .ok (length, ⟨afterLength, hlength⟩) =>
      match codes.distance.next afterLength with
      | .error failure => .error failure
      | .ok (distanceSymbol, ⟨afterSymbol, hsymbol⟩) =>
          match extended copyDistances distanceSymbol afterSymbol with
          | .error failure => .error failure
          | .ok (distance, ⟨rest, hrest⟩) =>
              .ok (.copy length distance, ⟨rest, by omega⟩)

def nextToken (codes : BlockCodes) (source : BitSource) :
    Except Failure (Token × BitSource.Shorter source) :=
  match codes.literal.next source with
  | .error failure => .error failure
  | .ok (symbol, ⟨rest, hrest⟩) =>
      if symbol < 256 then
        .ok (.literal (UInt8.ofNat symbol), ⟨rest, hrest⟩)
      else if symbol = 256 then
        .ok (.endOfBlock, ⟨rest, hrest⟩)
      else
        match copyToken codes (symbol - 257) rest with
        | .error failure => .error failure
        | .ok (token, ⟨last, hlast⟩) => .ok (token, ⟨last, by omega⟩)

/-- The body of a compressed block, up to its end symbol; `bound` is a size that the source has not
exceeded. -/
def compressedBody (codes : BlockCodes) (bound : Nat) (output : ByteArray) (source : BitSource)
    (hbound : source.size ≤ bound) :
    ByteArray × Except Failure { rest : BitSource // rest.size ≤ bound } :=
  match nextToken codes source with
  | .error failure => (output, .error failure)
  | .ok (.literal byte, ⟨rest, hrest⟩) =>
      compressedBody codes bound (output.push byte) rest (by omega)
  | .ok (.copy length distance, ⟨rest, hrest⟩) =>
      compressedBody codes bound (copyBack distance length output) rest (by omega)
  | .ok (.endOfBlock, ⟨rest, hrest⟩) =>
      (output, .ok ⟨rest, by omega⟩)
termination_by source.size

/-- A stored block: its length, the complement of it, and that many bytes. -/
def storedBlock (output : ByteArray) (source : BitSource) :
    ByteArray × Except Failure (BitSource.Rest source) :=
  let ⟨aligned, haligned⟩ := source.align
  match aligned.take 16 with
  | .error failure => (output, .error failure)
  | .ok (length, ⟨afterLength, hlength⟩) =>
      match afterLength.take 16 with
      | .error failure => (output, .error failure)
      | .ok (complement, ⟨rest, hrest⟩) =>
          -- The length is written twice, the second time with all its bits changed.
          if length + complement ≠ 0xFFFF then
            (output, .error .damaged)
          else
            let stored := rest.bytes.take length
            let output := output ++ ⟨stored.toArray⟩
            if stored.length < length then
              (output, .error .cutOff)
            else
              (output, .ok ⟨⟨[], rest.bytes.drop length⟩, by
                simp only [BitSource.size, List.length_nil, List.length_drop] at *
                omega⟩)

/-! ## Codes in front of a block -/

/-- The order in which the word lengths of the length code are written. -/
def lengthOrder : List Nat :=
  [16, 17, 18, 0, 8, 7, 9, 6, 10, 5, 11, 4, 12, 3, 13, 2, 14, 1, 15]

/-- The next `count` numbers of three bits. -/
def threeBitNumbers (source : BitSource) :
    (count : Nat) → Except Failure (List Nat × BitSource.Rest source)
  | 0 => .ok ([], ⟨source, Nat.le_refl _⟩)
  | count + 1 =>
      match source.take 3 with
      | .error failure => .error failure
      | .ok (value, ⟨rest, hrest⟩) =>
          match threeBitNumbers rest count with
          | .error failure => .error failure
          | .ok (values, ⟨last, hlast⟩) =>
              .ok (value :: values, ⟨last, BitSource.size_le_trans hrest hlast⟩)

/-- The number of repetitions that a symbol of the length code stands for: the shortest run and its
extra bits. -/
def runOf (symbol : Nat) : Nat × Nat :=
  match symbol with
  | 16 => (3, 2)
  | 17 => (3, 3)
  | 18 => (11, 7)
  | _ => (1, 0)

/-- The word lengths of the two codes of a block, `total` in number, written with the length code;
`lengths` holds those read so far, the last one first. -/
def wordLengths (code : PrefixCode) (total : Nat) (lengths : List Nat) (source : BitSource) :
    Except Failure (List Nat × BitSource.Rest source) :=
  if lengths.length = total then
    .ok (lengths.reverse, ⟨source, Nat.le_refl _⟩)
  else if total < lengths.length then
    .error .damaged
  else
    match code.next source with
    | .error failure => .error failure
    | .ok (symbol, ⟨afterSymbol, hsymbol⟩) =>
        let (shortest, extra) := runOf symbol
        match afterSymbol.take extra with
        | .error failure => .error failure
        | .ok (more, ⟨rest, hrest⟩) =>
            -- Symbol 16 repeats the length before it; those above it stand for lengths of zero.
            let length :=
              if symbol < 16 then some symbol
              else if symbol = 16 then lengths.head?
              else some 0
            match length with
            | none => .error .damaged
            | some length =>
                have hshort := BitSource.size_lt_of_lt_of_le hsymbol hrest
                match wordLengths code total
                    (List.replicate (shortest + more) length ++ lengths) rest with
                | .error failure => .error failure
                | .ok (lengths, ⟨last, hlast⟩) =>
                    have hlt := BitSource.size_lt_of_lt_of_le hshort hlast
                    .ok (lengths, ⟨last, BitSource.size_le_of_lt hlt⟩)
termination_by source.size
decreasing_by exact hshort

/-- The codes in front of a block that brings its own. -/
def blockCodes (source : BitSource) : Except Failure (BlockCodes × BitSource.Rest source) :=
  match source.take 5 with
  | .error failure => .error failure
  | .ok (literals, ⟨source₁, h₁⟩) =>
  match source₁.take 5 with
  | .error failure => .error failure
  | .ok (distances, ⟨source₂, h₂⟩) =>
  match source₂.take 4 with
  | .error failure => .error failure
  | .ok (ordered, ⟨source₃, h₃⟩) =>
  match threeBitNumbers source₃ (ordered + 4) with
  | .error failure => .error failure
  | .ok (numbers, ⟨source₄, h₄⟩) =>
      let literals := literals + 257
      let distances := distances + 1
      let pairs := lengthOrder.zip numbers
      let ownLengths := (List.range 19).map fun symbol => (pairs.lookup symbol).getD 0
      match PrefixCode.ofLengths? ownLengths with
      | none => .error .damaged
      | some code =>
          match wordLengths code (literals + distances) [] source₄ with
          | .error failure => .error failure
          | .ok (lengths, ⟨source₅, h₅⟩) =>
              -- The counts come first but are judged last: input that ends before is cut off.
              if 286 < literals ∨ 30 < distances then
                .error .damaged
              else
                match BlockCodes.ofLengths? (lengths.take literals) (lengths.drop literals) with
                | none => .error .damaged
                | some codes => .ok (codes, ⟨source₅, by omega⟩)

/-! ## The whole of the data -/

def block (output : ByteArray) (source : BitSource) :
    ByteArray × Except Failure (BitSource.Rest source) :=
  match source.take 2 with
  | .error failure => (output, .error failure)
  | .ok (kind, ⟨rest, hrest⟩) =>
      match kind with
      -- Stored as it is, with the fixed codes, or with codes of its own.
      | 0 =>
          match storedBlock output rest with
          | (output, .error failure) => (output, .error failure)
          | (output, .ok ⟨last, hlast⟩) => (output, .ok ⟨last, BitSource.size_le_trans hrest hlast⟩)
      | 1 =>
          match BlockCodes.ofLengths? fixedLiteralLengths fixedDistanceLengths with
          | none => (output, .error .damaged)
          | some codes => compressedBody codes source.size output rest hrest
      | 2 =>
          match blockCodes rest with
          | .error failure => (output, .error failure)
          | .ok (codes, ⟨body, hbody⟩) =>
              compressedBody codes source.size output body (BitSource.size_le_trans hrest hbody)
      | _ => (output, .error .damaged)

def blocks (output : ByteArray) (source : BitSource) :
    ByteArray × Except Failure (BitSource.Rest source) :=
  match h : source.next? with
  | none => (output, .error .cutOff)
  | some (final, rest) =>
      have hsize := BitSource.size_next? h
      match block output rest with
      | (output, .error failure) => (output, .error failure)
      | (output, .ok ⟨afterBlock, hblock⟩) =>
          have hshort := BitSource.size_lt_of_lt_of_le hsize hblock
          if final then
            (output, .ok ⟨afterBlock, BitSource.size_le_of_lt hshort⟩)
          else
            match blocks output afterBlock with
            | (output, .error failure) => (output, .error failure)
            | (output, .ok ⟨last, hlast⟩) =>
                have hlt := BitSource.size_lt_of_lt_of_le hshort hlast
                (output, .ok ⟨last, BitSource.size_le_of_lt hlt⟩)
termination_by source.size
decreasing_by exact hshort

/-- The decompressed form of deflate data; bytes behind the final block are not looked at. -/
def inflate (data : Bytes) : Inflated :=
  match blocks ByteArray.empty (BitSource.ofBytes data) with
  | (output, .error failure) => ⟨output, some failure⟩
  | (output, .ok _) => ⟨output, none⟩

/-! ## Reading the output -/

/-- The number of bytes that the decoder puts out before it hands them on. -/
def windowLength : Nat := 32768

/-- The number of bytes handed on before the decoder begins the window in which it stops, if it
stops after `length` bytes. -/
def windowStart (length : Nat) : Nat :=
  (length - 1) / windowLength * windowLength

/-- The first `count` bytes, or all if there are fewer; `none` if the decoder fails before it has
handed them on. -/
def Inflated.read? (inflated : Inflated) (count : Nat) : Option Bytes :=
  let handedOn := (inflated.output.extract 0 (min count inflated.output.size)).data.toList
  match inflated.failure with
  | none => some handedOn
  | some .cutOff => if inflated.output.size < count then none else some handedOn
  | some .damaged =>
      if windowStart inflated.output.size < count then none else some handedOn

end Deflate
end OfficePictures
