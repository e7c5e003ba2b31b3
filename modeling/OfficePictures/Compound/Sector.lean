import OfficePictures.Bytes

/-!
# Sector — a file cut into sectors, and chains of them

A compound file is a header followed by sectors of one size.  Tables of numbers tell for each sector
which one follows it; a stream is stored in such a chain.  The last sector of a file may be cut off,
which only matters to those who read the missing bytes.
-/

namespace OfficePictures
namespace Compound

/-! ## Numbers with a meaning -/

def maxSector : Nat := 0xFFFFFFFA

/-- Marks an entry of a table that is no sector number. -/
def invalidSector : Nat := 0xFFFFFFFB

/-- Marks a sector that holds a part of the table of table sectors. -/
def indexSector : Nat := 0xFFFFFFFC

/-- Marks a sector that holds a part of the table. -/
def tableSector : Nat := 0xFFFFFFFD

def endOfChain : Nat := 0xFFFFFFFE

/-- Marks a sector that is not in use. -/
def freeSector : Nat := 0xFFFFFFFF

/-! ## Sectors -/

/-- A file and the length of its sectors; the header takes the place of one sector. -/
structure Sectors where
  file : ByteArray
  length : Nat

namespace Sectors

/-- The number of sectors, a last one that is cut off included. -/
def count (sectors : Sectors) : Nat :=
  (sectors.file.size + sectors.length - 1) / sectors.length - 1

def get (sectors : Sectors) (sector : Nat) : Bytes :=
  let start := (sector + 1) * sectors.length
  (sectors.file.extract start (start + sectors.length)).data.toList

/-- The bytes of a sector, if it is not cut off. -/
def getWhole? (sectors : Sectors) (sector : Nat) : Option Bytes :=
  let bytes := sectors.get sector
  if sector < sectors.count ∧ bytes.length = sectors.length then some bytes else none

end Sectors

/-- The bytes cut into 32-bit fields. -/
def fields : Bytes → List Nat
  | a :: b :: c :: d :: rest => Bytes.toNat [a, b, c, d] :: fields rest
  | _ => []

/-! ## Chains -/

/-- A table that tells for each sector which one follows. -/
abbrev Table := Array Nat

namespace Table

/-- What follows a sector: the mark of the end, or a sector that is in the table. -/
def next? (table : Table) (sector : Nat) : Option Nat :=
  match table[sector]? with
  | none => none
  | some next =>
      if next = endOfChain then some next
      else if maxSector < next ∨ table.size ≤ next then none
      else some next

/-- The sectors from `sector` on, at most `fuel` of them. -/
def follow (table : Table) : (fuel : Nat) → (sector : Nat) → Option (List Nat)
  | fuel, sector =>
      if sector = endOfChain then
        some []
      else
        match fuel, table.next? sector with
        | fuel + 1, some next => (follow table fuel next).map (sector :: ·)
        | _, _ => none

/-- The chain that begins with a sector; a chain that comes back to itself is none. -/
def chain? (table : Table) (start : Nat) : Option (List Nat) :=
  table.follow table.size start

/-- Whether every entry is a mark or points into the table, and no two entries point to the same
sector; `marks` tells which marks are allowed. -/
def isSound (table : Table) (marks : Nat → Bool) : Bool :=
  let pointers := (table.toList.filter (· ≤ maxSector)).mergeSort (· ≤ ·)
  table.all (fun entry => if entry ≤ maxSector then decide (entry < table.size) else marks entry) &&
    (pointers.zip pointers.tail).all fun (pointer, next) => pointer ≠ next

end Table

/-- The first `length` bytes of a chain of pieces, of which `piece` gives the bytes; all pieces but
the last have to be of `pieceLength` bytes. -/
def collect (pieceLength : Nat) (piece : Nat → Option Bytes) :
    (length : Nat) → List Nat → Option Bytes
  | 0, _ => some []
  | _ + 1, [] => none
  | length + 1, sector :: rest => do
      let wanted := min pieceLength (length + 1)
      let bytes := (← piece sector).take wanted
      if bytes.length < wanted then
        none
      else
        let more ← collect pieceLength piece (length + 1 - wanted) rest
        return bytes ++ more

end Compound
end OfficePictures
