import OfficePictures.Deflate.BitSource

/-!
# PrefixCode — canonical prefix codes

A code is given by the length of each symbol's code word.  Shorter words come first and, within one
length, smaller symbols; the tree of the code is therefore filled from left to right with the
symbols in that order.  A place of the tree that no symbol fills is a `hole`, and reading it is an
error.

A code has to be complete, unless at most one symbol has a word at all.
-/

namespace OfficePictures
namespace Deflate

/-- A tree of code words: a bit goes to the left when it is clear. -/
inductive CodeTree
  | hole
  | leaf (symbol : Nat)
  | node (zero one : CodeTree)
  deriving DecidableEq, Repr

/-- A code whose words have at least one bit. -/
structure PrefixCode where
  zero : CodeTree
  one : CodeTree
  deriving DecidableEq, Repr

namespace CodeTree

/-- The symbol at the end of the path that the next bits take. -/
def walk (source : BitSource) : CodeTree → Except Failure (Nat × BitSource.Rest source)
  | .hole => .error .damaged
  | .leaf symbol => .ok (symbol, ⟨source, Nat.le_refl _⟩)
  | .node zero one =>
      match h : source.next? with
      | none => .error .cutOff
      | some (bit, rest) =>
          match (if bit then one.walk rest else zero.walk rest) with
          | .error failure => .error failure
          | .ok (symbol, ⟨last, hlast⟩) =>
              .ok (symbol,
                ⟨last, Nat.le_trans hlast (Nat.le_of_lt (BitSource.size_next? h))⟩)

/-- The tree below a place at depth `depth`, filled with the first of the words in code order, and
the words that did not fit there.  `height` levels remain below this place. -/
def fill (depth : Nat) : (height : Nat) → List (Nat × Nat) → CodeTree × List (Nat × Nat)
  | _, [] => (.hole, [])
  | 0, (symbol, length) :: words =>
      if length = depth then (.leaf symbol, words) else (.hole, (symbol, length) :: words)
  | height + 1, (symbol, length) :: words =>
      if length = depth then
        (.leaf symbol, words)
      else
        let (zero, words) := fill (depth + 1) height ((symbol, length) :: words)
        let (one, words) := fill (depth + 1) height words
        (.node zero one, words)

end CodeTree

namespace PrefixCode

def maxLength : Nat := 15

/-- The symbols that have a word, with its length, in the order of the code. -/
def wordsOf (lengths : List Nat) : List (Nat × Nat) :=
  let words := lengths.zipIdx.map fun (length, symbol) => (symbol, length)
  (List.range' 1 maxLength).flatMap fun length => words.filter (·.2 = length)

/-- The code with the given word lengths; a length of zero means that the symbol has no word. -/
def ofLengths? (lengths : List Nat) : Option PrefixCode :=
  let words := wordsOf lengths
  -- Each word takes up the paths of the greatest length that begin with it.
  let used := words.foldl (fun used (_, length) => used + 1 <<< (maxLength - length)) 0
  if 1 < words.length ∧ used ≠ 1 <<< maxLength then
    none
  else
    let (zero, words) := CodeTree.fill 1 (maxLength - 1) words
    let (one, _) := CodeTree.fill 1 (maxLength - 1) words
    some ⟨zero, one⟩

def next (code : PrefixCode) (source : BitSource) :
    Except Failure (Nat × BitSource.Shorter source) :=
  match h : source.next? with
  | none => .error .cutOff
  | some (bit, rest) =>
      match (if bit then code.one.walk rest else code.zero.walk rest) with
      | .error failure => .error failure
      | .ok (symbol, ⟨last, hlast⟩) =>
          .ok (symbol, ⟨last, Nat.lt_of_le_of_lt hlast (BitSource.size_next? h)⟩)

end PrefixCode
end Deflate
end OfficePictures
