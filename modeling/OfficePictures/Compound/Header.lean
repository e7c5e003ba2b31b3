import OfficePictures.Compound.Sector

/-!
# Header — the first bytes of a compound file

The header tells the version, which fixes the length of the sectors, and where the tables and the
directory begin.
-/

namespace OfficePictures
namespace Compound

/-- The version of a compound file. -/
inductive Version
  | three
  | four
  deriving DecidableEq, Repr

def Version.sectorShift : Version → Nat
  | .three => 9
  | .four => 12

def Version.sectorLength (version : Version) : Nat :=
  1 <<< version.sectorShift

/-- What the header of a compound file tells. -/
structure Header where
  version : Version
  firstDirectorySector : Nat
  firstMiniTableSector : Nat
  firstIndexSector : Nat
  /-- The first sectors of the table; more of them are listed in index sectors. -/
  tableSectors : List Nat
  deriving DecidableEq, Repr

/-- The bytes that every compound file begins with. -/
def signature : Bytes :=
  [0xD0, 0xCF, 0x11, 0xE0, 0xA1, 0xB1, 0x1A, 0xE1]

def headerLength : Nat := 512

/-- The length of the streams from which on they are not stored in mini sectors. -/
def miniStreamCutoff : Nat := 4096

def Header.ofBytes? (bytes : Bytes) : Option Header := do
  guard (bytes.take 8 = signature)
  let version ←
    match ← Bytes.natAt? bytes 26 2 with
    | 3 => some Version.three
    | 4 => some Version.four
    | _ => none
  guard (Bytes.natAt? bytes 28 2 = some 0xFFFE)
  guard (Bytes.natAt? bytes 30 2 = some version.sectorShift)
  guard (Bytes.natAt? bytes 32 2 = some 6)
  guard (Bytes.natAt? bytes 56 4 = some miniStreamCutoff)
  let firstDirectorySector ← Bytes.natAt? bytes 48 4
  let firstMiniTableSector ← Bytes.natAt? bytes 60 4
  let firstIndexSector ← Bytes.natAt? bytes 68 4
  let listed ← Bytes.slice? bytes 76 436
  let tableSectors := (fields listed).takeWhile (· ≠ freeSector)
  guard (tableSectors.all (· ≤ maxSector))
  return { version, firstDirectorySector, firstMiniTableSector, firstIndexSector, tableSectors }

end Compound
end OfficePictures
