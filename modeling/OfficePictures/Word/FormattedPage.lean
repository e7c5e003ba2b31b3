import OfficePictures.Word.PropertyList

/-!
# FormattedPage — the pages of character properties

The property lists of all runs are kept in pages of 512 bytes of the document stream.  The last byte
of a page is the number of its runs; behind their text positions stands a byte for each run, half
the place of its list, and zero for a run without one.  The table of pages is an array of text
positions followed by the page numbers.
-/

namespace OfficePictures
namespace Word

def pageLength : Nat := 512

/-- The number of page numbers, which have 22 bits. -/
def pageNumberCount : Nat := 0x400000

/-- The property list of one run of a page, if it has one inside the page. -/
def runProperties? (page : Bytes) (runs run : Nat) : Option Bytes := do
  let half ← page[4 * (runs + 1) + run]?
  let place := 2 * half.toNat
  -- A place of zero is that of the text positions: the run has no list.
  if place = 0 then
    none
  else
    let length ← page[place]?
    Bytes.slice? page (place + 1) length.toNat

/-- The property lists of a page, in the order of the runs. -/
def pageProperties (page : Bytes) : List Bytes :=
  let runs := (page.getLast?.getD 0).toNat
  (List.range runs).filterMap (runProperties? page runs)

def pageNumbers (table : Bytes) : List Nat :=
  let pages := (table.length - 4) / 8
  (List.range pages).filterMap fun index =>
    (Bytes.u32? table (4 * (pages + 1 + index))).map (·.toNat % pageNumberCount)

/-- The picture locations on one page of a document stream; a page outside the stream has none. -/
def pageLocations (stream : Bytes) (number : Nat) : List UInt32 :=
  match Bytes.slice? stream (pageLength * number) pageLength with
  | none => []
  | some page => (pageProperties page).filterMap pictureLocation?

/-- The elements of a list without those that are repeated, each at its first place; `seen` holds
those that came before, the last one first. -/
def firstOccurrences (seen : List UInt32) : List UInt32 → List UInt32
  | [] => seen.reverse
  | location :: rest =>
      firstOccurrences (if seen.contains location then seen else location :: seen) rest

/-- Where the inline pictures of a document lie in its data stream, in the order of the text and
without repetition. -/
def pictureLocations (stream table : Bytes) : List UInt32 :=
  firstOccurrences [] ((pageNumbers table).flatMap (pageLocations stream))

end Word
end OfficePictures
