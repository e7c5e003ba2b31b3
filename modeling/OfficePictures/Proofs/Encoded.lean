import Mathlib.Algebra.GroupWithZero.Nat
import Mathlib.Data.List.SplitLengths
import OfficePictures.Encoded

/-!
# Encoded — one encoded file for each content

A content has one encoded form, however it is cut into pieces while it is written, and it is read
back whole, however large the pieces are that a reader asks for.

* `output_foldl_write` — a writer puts out the masked content behind what it put out before;
* `readAll_eq_splitLengths` — a reader cuts the content into pieces of the lengths asked for;
* `decode?_eq_some_iff` — the only file with a given content is its encoded form;
* `encoded_in_pieces` — all of it together.
-/

namespace OfficePictures
namespace Encoded

@[simp] theorem length_header : header.length = 32 := by
  decide

@[simp] theorem mask_append (front back : Bytes) : mask (front ++ back) = mask front ++ mask back :=
  List.map_append

@[simp] theorem mask_take (bytes : Bytes) (count : Nat) :
    mask (bytes.take count) = (mask bytes).take count :=
  List.map_take

@[simp] theorem mask_drop (bytes : Bytes) (count : Nat) :
    mask (bytes.drop count) = (mask bytes).drop count :=
  List.map_drop

/-! ## Writing -/

theorem output_foldl_write (pieces : List Bytes) (writer : Writer) :
    (pieces.foldl Writer.write writer).output = writer.output ++ mask pieces.flatten := by
  induction pieces generalizing writer with
  | nil => simp [mask]
  | cons piece pieces ih =>
      calc
        ((piece :: pieces).foldl Writer.write writer).output
            = (writer.write piece).output ++ mask pieces.flatten := ih _
        _ = writer.output ++ (mask piece ++ mask pieces.flatten) := List.append_assoc ..
        _ = writer.output ++ mask (piece :: pieces).flatten := by
              rw [List.flatten_cons, mask_append]

/-- What a writer has put out at the end depends on the pieces by their concatenation only. -/
theorem output_foldl_write_start (pieces : List Bytes) :
    (pieces.foldl Writer.write .start).output = encode pieces.flatten :=
  output_foldl_write pieces .start

/-! ## Files -/

/-- The body of a file is what follows the header, and only such files have one. -/
theorem body?_eq_some_iff {file body : Bytes} : body? file = some body ↔ file = header ++ body := by
  unfold body?
  constructor
  · intro h
    rcases Option.ite_none_right_eq_some.1 h with ⟨hstart, hbody⟩
    rcases List.isPrefixOf_iff_prefix.1 hstart with ⟨rest, rfl⟩
    rw [List.drop_left] at hbody
    rw [Option.some.inj hbody]
  · rintro rfl
    rw [if_pos (List.isPrefixOf_iff_prefix.2 (List.prefix_append ..)), List.drop_left]

theorem body?_eq_none_iff {file : Bytes} : body? file = none ↔ ¬ header <+: file := by
  rw [body?, ite_eq_right_iff, ← List.isPrefixOf_iff_prefix]
  simp

/-- The only file with a given content is its encoded form. -/
theorem decode?_eq_some_iff {file content : Bytes} :
    decode? file = some content ↔ file = encode content := by
  constructor
  · intro h
    rcases Option.map_eq_some_iff.1 h with ⟨body, hbody, rfl⟩
    rw [encode, mask_mask]
    exact body?_eq_some_iff.1 hbody
  · rintro rfl
    exact decode?_encode content

theorem decode?_eq_none_iff {file : Bytes} : decode? file = none ↔ ¬ header <+: file := by
  rw [decode?, Option.map_eq_none_iff, body?_eq_none_iff]

/-! ## Reading -/

/-- A reader gives the rest of the content in consecutive pieces of the lengths asked for. -/
theorem readAll_eq_splitLengths (reader : Reader) (counts : List Nat) :
    reader.readAll counts = counts.splitLengths (mask reader.rest) := by
  induction counts generalizing reader with
  | nil => rfl
  | cons count counts ih =>
      rw [List.splitLengths_cons]
      calc
        reader.readAll (count :: counts)
            = mask (reader.rest.take count) :: Reader.readAll ⟨reader.rest.drop count⟩ counts := rfl
        _ = (mask reader.rest).take count ::
              counts.splitLengths ((mask reader.rest).drop count) := by
              rw [ih, mask_take, mask_drop]

/-- Consecutive pieces are, put together, as long a beginning as their lengths add up to. -/
theorem flatten_splitLengths_eq_take (counts : List Nat) (content : Bytes) :
    (counts.splitLengths content).flatten = content.take counts.sum := by
  induction counts generalizing content with
  | nil => rfl
  | cons count counts ih =>
      rw [List.splitLengths_cons, List.flatten_cons, ih, List.sum_cons, List.take_add]

/-- A file can be read in pieces exactly if it can be decoded, and the pieces are those of its
content. -/
theorem readAll_open? (file : Bytes) (counts : List Nat) :
    (Reader.open? file).map (fun reader => reader.readAll counts) =
      (decode? file).map counts.splitLengths := by
  simp only [Reader.open?, decode?, Option.map_map, Function.comp_def, readAll_eq_splitLengths]

/-! ## Both -/

/-- However a content is cut into pieces for a writer, what is put out is its encoded form, the
header of 32 bytes and the masked content.  It decodes to the content, and a reader gives the content
in consecutive pieces of the lengths asked for: as long a beginning of it as these add up to, and all
of it if they add up to its length.  A file decodes to a content exactly if it is its encoded form,
and to none exactly if it does not begin with the header. -/
theorem encoded_in_pieces (pieces : List Bytes) (counts : List Nat) (file content : Bytes) :
    header.length = 32 ∧
      (pieces.foldl Writer.write .start).output = encode pieces.flatten ∧
      decode? (pieces.foldl Writer.write .start).output = some pieces.flatten ∧
      (Reader.open? (pieces.foldl Writer.write .start).output).map
          (fun reader => reader.readAll counts) = some (counts.splitLengths pieces.flatten) ∧
      (counts.splitLengths pieces.flatten).flatten = pieces.flatten.take counts.sum ∧
      (decode? file = some content ↔ file = encode content) ∧
      (decode? file = none ↔ ¬ header <+: file) := by
  have houtput := output_foldl_write_start pieces
  have hdecoded : decode? (pieces.foldl Writer.write .start).output = some pieces.flatten :=
    decode?_eq_some_iff.2 houtput
  refine ⟨length_header, houtput, hdecoded, ?_, flatten_splitLengths_eq_take _ _,
    decode?_eq_some_iff, decode?_eq_none_iff⟩
  rw [readAll_open?, hdecoded, Option.map_some]

/-- Pieces may be empty, on either side. -/
example :
    (Reader.open? ([[], [1, 2], [], [3]].foldl Writer.write .start).output).map
      (fun reader => reader.readAll [0, 1, 5, 2]) = some [[], [1], [2, 3], []] := by
  decide +kernel

end Encoded
end OfficePictures
