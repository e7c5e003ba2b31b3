import OfficePictures.Bytes

/-!
# Encoded — picture files that no other program takes for pictures

A file is written as a fixed header followed by its content with every byte changed by the same key,
so that scanners of the host leave it alone.  A writer takes the content in pieces, and a reader
gives it back in pieces of any size.
-/

namespace OfficePictures
namespace Encoded

def header : Bytes :=
  "TSK_CONTAINER_XOR1_xxxxxxxxxxxxx".toList.map fun c => UInt8.ofNat c.toNat

def key : UInt8 := 0xCA

def encodingName : String := "XOR1"

/-- Bytes under the key; doing it twice gives them back. -/
def mask (bytes : Bytes) : Bytes :=
  bytes.map (· ^^^ key)

@[simp] theorem mask_mask (bytes : Bytes) : mask (mask bytes) = bytes := by
  simp only [mask, List.map_map, Function.comp_def, UInt8.xor_assoc, UInt8.xor_self,
    UInt8.xor_zero, List.map_id_fun', id_eq]

/-! ## Whole files -/

def encode (content : Bytes) : Bytes :=
  header ++ mask content

def body? (file : Bytes) : Option Bytes :=
  if header.isPrefixOf file then some (file.drop header.length) else none

def decode? (file : Bytes) : Option Bytes :=
  (body? file).map mask

/-- What is read back from an encoded file is what was written. -/
theorem decode?_encode (content : Bytes) : decode? (encode content) = some content := by
  simp [decode?, body?, encode]

def invalidMessage : String :=
  "El contenido no tiene la cabecera de codificación esperada"

/-! ## Writing in pieces -/

/-- What a writer has put out. -/
structure Writer where
  output : Bytes
  deriving DecidableEq, Repr

def Writer.start : Writer :=
  ⟨header⟩

def Writer.write (writer : Writer) (piece : Bytes) : Writer :=
  ⟨writer.output ++ mask piece⟩

/-! ## Reading in pieces -/

/-- What a reader has not read yet. -/
structure Reader where
  rest : Bytes
  deriving DecidableEq, Repr

def Reader.open? (file : Bytes) : Option Reader :=
  (body? file).map Reader.mk

/-- The next `count` bytes of the content, or all that are left, and the reader behind them. -/
def Reader.read (reader : Reader) (count : Nat) : Bytes × Reader :=
  (mask (reader.rest.take count), ⟨reader.rest.drop count⟩)

/-- The pieces that a reader gives for the given counts. -/
def Reader.readAll (reader : Reader) : List Nat → List Bytes
  | [] => []
  | count :: counts =>
      let (piece, reader) := reader.read count
      piece :: reader.readAll counts

end Encoded
end OfficePictures
