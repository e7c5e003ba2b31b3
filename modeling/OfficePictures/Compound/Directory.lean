import OfficePictures.Compound.Header
import OfficePictures.Text.LetterCase
import OfficePictures.Text.Utf16

/-!
# Directory — the named objects of a compound file

The directory is an array of entries.  Each storage has its objects in a search tree, ordered by the
length of their names in 16-bit units and then by the names in upper case; the entries hold the
links of these trees.  Entry 0 is the root storage.
-/

namespace OfficePictures
namespace Compound

/-- What a directory entry stands for. -/
inductive ObjectKind
  | unallocated
  | storage
  | stream
  | root
  deriving DecidableEq, Repr

def ObjectKind.ofNumber? : Nat → Option ObjectKind
  | 0 => some unallocated
  | 1 => some storage
  | 2 => some stream
  | 5 => some root
  | _ => none

/-- An entry of the directory; the links are numbers of entries. -/
structure Entry where
  name : List Char
  kind : ObjectKind
  left : Nat
  right : Nat
  child : Nat
  classId : Bytes
  start : Nat
  length : Nat
  deriving DecidableEq, Repr

def noEntry : Nat := 0xFFFFFFFF

def entryLength : Nat := 128

abbrev Directory := Array Entry

/-! ## Reading entries -/

/-- Whether a link is to no entry or to a number that an entry can have. -/
def isLink (link : Nat) : Bool :=
  link = noEntry || link ≤ 0xFFFFFFFA

/-- The 16-bit units of the name in an entry. -/
def nameUnits : Bytes → List Nat
  | a :: b :: rest => Bytes.toNat [a, b] :: nameUnits rest
  | _ => []

/-- The entry in 128 bytes. -/
def Entry.ofBytes? (version : Version) (bytes : Bytes) : Option Entry := do
  let nameLength ← Bytes.natAt? bytes 64 2
  guard (nameLength ≤ 64 ∧ nameLength % 2 = 0)
  -- The length counts the zero unit behind the name.
  let name ← Text.Utf16.decode? (nameUnits (bytes.take (nameLength - 2)))
  let kind ← ObjectKind.ofNumber? (← Bytes.natAt? bytes 66 1)
  guard ((← Bytes.natAt? bytes 67 1) ≤ 1)
  let left ← Bytes.natAt? bytes 68 4
  let right ← Bytes.natAt? bytes 72 4
  let child ← Bytes.natAt? bytes 76 4
  guard (isLink left && isLink right && isLink child)
  guard (kind ≠ .stream ∨ child = noEntry)
  let classId ← Bytes.slice? bytes 80 16
  let start ← Bytes.natAt? bytes 116 4
  let declared ← Bytes.natAt? bytes 120 8
  -- Files of version 3 use only the lower half of the field.
  let length := if version = .three then declared % UInt32.size else declared
  return { name, kind, left, right, child, classId, start, length }

def entriesOf? (version : Version) (sector : Bytes) : Option (List Entry) :=
  (List.range (sector.length / entryLength)).mapM fun i =>
    Entry.ofBytes? version ((sector.drop (i * entryLength)).take entryLength)

/-! ## Order of names -/

/-- The order of two names: the shorter in 16-bit units first, then by upper case. -/
def compareNames (a b : List Char) : Ordering :=
  (compare (Text.Utf16.length a) (Text.Utf16.length b)).then
    (compareLex (a.map Text.upperChar) (b.map Text.upperChar))
where
  /-- The order of two texts of code points. -/
  compareLex : List Char → List Char → Ordering
    | [], [] => .eq
    | [], _ :: _ => .lt
    | _ :: _, [] => .gt
    | c :: cs, d :: ds => (compare c.toNat d.toNat).then (compareLex cs ds)

namespace Directory

/-- Whether the trees that are reached from the entries in `pending` are sound: no entry is reached
twice, all links lead to storages and streams, and siblings are in order. -/
def isSoundFrom (directory : Directory) : (fuel : Nat) → (visited pending : List Nat) → Bool
  | _, _, [] => true
  | 0, _, _ :: _ => false
  | fuel + 1, visited, number :: pending =>
      match directory[number]? with
      | none => false
      | some entry =>
          let inOrder (link : Nat) (expected : Ordering) : Bool :=
            link == noEntry ||
              match directory[link]? with
              | none => false
              | some other => compareNames other.name entry.name == expected
          let kindFits :=
            if number = 0 then entry.kind = .root else entry.kind = .storage ∨ entry.kind = .stream
          let links := [entry.left, entry.right, entry.child].filter (· ≠ noEntry)
          !visited.contains number && decide kindFits && inOrder entry.left .lt &&
            inOrder entry.right .gt &&
            isSoundFrom directory fuel (number :: visited) (links ++ pending)

/-- Whether the directory has a root and sound trees. -/
def isSound (directory : Directory) : Bool :=
  match directory[0]? with
  | none => false
  | some root => root.length % 64 == 0 && directory.isSoundFrom (directory.size + 1) [] [0]

/-- The entry with the given name in the tree at `number`. -/
def search (directory : Directory) (name : List Char) : (fuel : Nat) → (number : Nat) → Option Entry
  | 0, _ => none
  | fuel + 1, number => do
      let entry ← directory[number]?
      match compareNames name entry.name with
      | .eq => some entry
      | .lt => search directory name fuel entry.left
      | .gt => search directory name fuel entry.right

/-- The entry at the end of a path of names from an entry on. -/
def descend (directory : Directory) (entry : Entry) : List (List Char) → Option Entry
  | [] => some entry
  | name :: names => do
      let next ← directory.search name directory.size entry.child
      descend directory next names

end Directory
end Compound
end OfficePictures
