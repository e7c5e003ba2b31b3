import OfficePictures.Bytes

/-!
# PropertyList — the property changes of a run of text

A property list is a sequence of changes: an opcode of 16 bits and an operand, whose length follows
from the upper three bits of the opcode.  Five opcodes decide whether the run stands for an inline
picture and where that picture lies in the data stream.
-/

namespace OfficePictures
namespace Word

/-- The opcode of a property change. -/
structure Opcode where
  code : UInt16
  deriving DecidableEq, Repr

namespace Opcode

def formData : Opcode := ⟨0x0806⟩

def embeddedObject : Opcode := ⟨0x080A⟩

/-- The characters of the run have a special meaning. -/
def special : Opcode := ⟨0x0855⟩

def object : Opcode := ⟨0x0856⟩

/-- Where the picture of the run lies in the data stream. -/
def pictureLocation : Opcode := ⟨0x6A03⟩

def ofBytes (first second : UInt8) : Opcode :=
  ⟨UInt16.ofNat (Bytes.toNat [first, second])⟩

/-- The number of bytes of the operand, of which `first` is the first byte.  One of the eight
classes of opcodes has operands that begin with their own length. -/
def operandLength? (opcode : Opcode) (first : Option UInt8) : Option Nat :=
  let operandClass := opcode.code >>> 13
  if operandClass = 0 ∨ operandClass = 1 then some 1
  else if operandClass = 2 ∨ operandClass = 4 ∨ operandClass = 5 then some 2
  else if operandClass = 3 then some 4
  else if operandClass = 7 then some 3
  else first.map (·.toNat + 1)

/-- Whether the change, if it is switched on, says that the run is no inline picture. -/
def excludes (opcode : Opcode) : Bool :=
  opcode = formData || opcode = embeddedObject || opcode = object

end Opcode

/-- What the changes so far tell about a run. -/
structure RunState where
  location : Option UInt32
  special : Bool
  deriving DecidableEq, Repr

namespace RunState

def initial : RunState :=
  ⟨none, false⟩

/-- What is known after a change whose operand begins with `operand`. -/
def after (state : RunState) (opcode : Opcode) (operand : Bytes) : RunState :=
  -- The last location counts, and one that is cut off is none.
  if opcode = .pictureLocation then { state with location := Bytes.u32? operand 0 }
  else if opcode = .special then { state with special := operand.head? = some 1 }
  else state

/-- Where the picture of the run lies, if it stands for one. -/
def result (state : RunState) : Option UInt32 :=
  if state.special then state.location else none

end RunState

theorem length_drop_lt (first second : UInt8) (operand : Bytes) (length : Nat) :
    (operand.drop length).length < (first :: second :: operand).length := by
  simp only [List.length_drop, List.length_cons]
  omega

/-- The opcode of the first change, the bytes from its operand on, and the changes after it; `none`
if there is no complete opcode or no operand length. -/
def firstChange? (changes : Bytes) :
    Option (Opcode × Bytes × { rest : Bytes // rest.length < changes.length }) :=
  match changes with
  | first :: second :: operand =>
      let opcode := Opcode.ofBytes first second
      (opcode.operandLength? operand.head?).map fun length =>
        (opcode, operand, ⟨operand.drop length, length_drop_lt first second operand length⟩)
  | _ => none

/-- Where the picture lies of a run whose remaining changes are `changes`. -/
def pictureLocationFrom (state : RunState) (changes : Bytes) : Option UInt32 :=
  match firstChange? changes with
  | none => state.result
  | some (opcode, operand, ⟨rest, _⟩) =>
      if opcode.excludes && operand.head? = some 1 then
        none
      else
        pictureLocationFrom (state.after opcode operand) rest
termination_by changes.length

/-- Where the inline picture of a run lies in the data stream, if the run stands for one. -/
def pictureLocation? (changes : Bytes) : Option UInt32 :=
  pictureLocationFrom .initial changes

end Word
end OfficePictures
