import OfficePictures.Text.Digits
import OfficePictures.Text.Utf16

/-!
# Value — JSON values and their text

A string is kept as the numbers of its characters: escapes may stand for halves of a pair, so not
every string is text.  Numbers are kept as they are written.  `Json.pretty` writes a value over
several lines, two blanks deeper for each level.
-/

namespace OfficePictures

/-- A JSON value. -/
inductive Json
  | null
  | bool (value : Bool)
  | number (literal : List Char)
  | string (codes : List Nat)
  | array (items : List Json)
  | object (members : List (List Nat × Json))

namespace Json

/-! ## Text and numbers -/

def codesOf (text : String) : List Nat :=
  text.toList.map Char.toNat

def ofText (text : String) : Json :=
  string (codesOf text)

/-- The text of a string, unless it holds half a pair. -/
def textOf? (codes : List Nat) : Option String :=
  (Text.Utf16.decode? codes).map String.ofList

def ofNat (value : Nat) : Json :=
  number (Text.decimal value).toList

def ofInt (value : Int) : Json :=
  number ((if value < 0 then ['-'] else []) ++ (Text.decimal value.natAbs).toList)

/-- The text that a value is, if it is a text. -/
def text? : Json → Option String
  | string codes => textOf? codes
  | _ => none

/-- The natural number that a value is, if it is written with digits alone. -/
def natural? : Json → Option Nat
  | number literal =>
      if literal ≠ [] && literal.all Char.isDigit then
        some (literal.foldl (fun value digit => 10 * value + (digit.toNat - '0'.toNat)) 0)
      else
        none
  | _ => none

/-! ## Printing -/

def fourDigits (code : Nat) : List Char :=
  [code / 4096 % 16, code / 256 % 16, code / 16 % 16, code % 16].map Nat.digitChar

/-- A character of a string as it is written: quotes, backslashes and characters below the space are
escaped, and halves of pairs. -/
def writtenCode (code : Nat) : List Char :=
  match code with
  | 0x22 => ['\\', '"']
  | 0x5C => ['\\', '\\']
  | 0x08 => ['\\', 'b']
  | 0x09 => ['\\', 't']
  | 0x0A => ['\\', 'n']
  | 0x0C => ['\\', 'f']
  | 0x0D => ['\\', 'r']
  | _ =>
      if code < 0x20 || (0xD800 ≤ code && code < 0xE000) then '\\' :: 'u' :: fourDigits code
      else [Char.ofNat code]

def writtenString (codes : List Nat) : List Char :=
  '"' :: codes.flatMap writtenCode ++ ['"']

def newLine (level : Nat) : List Char :=
  '\n' :: List.replicate (2 * level) ' '

mutual

def written (level : Nat) : Json → List Char
  | null => ['n', 'u', 'l', 'l']
  | bool true => ['t', 'r', 'u', 'e']
  | bool false => ['f', 'a', 'l', 's', 'e']
  | number literal => literal
  | string codes => writtenString codes
  | array [] => ['[', ']']
  | array (item :: items) =>
      '[' :: newLine (level + 1) ++ written (level + 1) item ++ writtenItems (level + 1) items ++
        newLine level ++ [']']
  | object [] => ['{', '}']
  | object ((name, value) :: members) =>
      '{' :: newLine (level + 1) ++ writtenString name ++ ':' :: ' ' :: written (level + 1) value ++
        writtenMembers (level + 1) members ++ newLine level ++ ['}']

def writtenItems (level : Nat) : List Json → List Char
  | [] => []
  | item :: items => ',' :: newLine level ++ written level item ++ writtenItems level items

def writtenMembers (level : Nat) : List (List Nat × Json) → List Char
  | [] => []
  | (name, value) :: members =>
      ',' :: newLine level ++ writtenString name ++ ':' :: ' ' :: written level value ++
        writtenMembers level members

end

/-- The text of a value, over several lines. -/
def pretty (value : Json) : String :=
  String.ofList (written 0 value)

end Json
end OfficePictures
