import OfficePictures.Text.Digits
import OfficePictures.Xml.Name

/-!
# Value — quoted values and references

A value stands between two quotes of one kind and may hold references: to the five characters that
markup takes for itself, to characters by number, and to entities that the document declares.
-/

namespace OfficePictures
namespace Xml

open Text (Rest Shorter)

/-- The entities that a document declares, with their replacement. -/
abbrev Entities := List (List Char × List Char)

/-- The number that the digits spell in the given base, below the bound of 32-bit numbers. -/
def number? (base : Nat) (digits : List Char) : Option Nat :=
  if digits = [] then
    none
  else
    digits.foldl
      (fun value digit =>
        match value, Text.hexDigit? digit with
        | some value, some d =>
            let next := value * base + d
            if d < base ∧ next < UInt32.size then some next else none
        | _, _ => none)
      (some 0)

def characterOf? (number : Nat) : Option Char :=
  if h : number.isValidChar then
    let c := Char.ofNatAux number h
    if isChar c then some c else none
  else
    none

def expansion? (entities : Entities) (reference : List Char) : Option (List Char) :=
  match reference with
  | ['l', 't'] => some ['<']
  | ['g', 't'] => some ['>']
  | ['a', 'm', 'p'] => some ['&']
  | ['a', 'p', 'o', 's'] => some ['\'']
  | ['q', 'u', 'o', 't'] => some ['"']
  | '#' :: 'x' :: digits => ((number? 16 digits).bind characterOf?).map ([·])
  | '#' :: digits => ((number? 10 digits).bind characterOf?).map ([·])
  | _ => entities.lookup reference

/-- What the reference stands for whose ampersand has been read, and what follows it. -/
def reference? (entities : Entities) (text : List Char) : Option (List Char × Rest text) :=
  match Text.before? [';'] text with
  | none => none
  | some (reference, rest) =>
      let isReference :=
        match reference with
        | [] => false
        | c :: more => (c = '#' || isNameStart c) && more.all isNameChar
      if isReference then (expansion? entities reference).map (·, rest) else none

/-- The rest of a value that ends at `quote`, and what follows the quote; `done` is what was read
before, the last character first. -/
def valueFrom? (entities : Entities) (quote : Char) (done : List Char) (text : List Char) :
    Option (List Char × Rest text) :=
  match text with
  | [] => none
  | c :: rest =>
      if c = quote then
        some (done.reverse, ⟨rest, Text.length_tail_le c rest⟩)
      else if c = '&' then
        match reference? entities rest with
        | none => none
        | some (expansion, ⟨next, hnext⟩) =>
            -- What the reference stands for is not looked at again.
            match valueFrom? entities quote (expansion.reverse ++ done) next with
            | none => none
            | some (value, ⟨last, hlast⟩) =>
                have hle := Text.length_le_trans hnext hlast
                some (value, ⟨last, Text.length_le_cons c hle⟩)
      else if c = '<' || !isChar c then
        none
      else
        match valueFrom? entities quote (c :: done) rest with
        | none => none
        | some (value, ⟨last, hlast⟩) => some (value, ⟨last, Text.length_le_cons c hlast⟩)
termination_by text.length
decreasing_by
  · exact Text.length_lt_cons c hnext
  · exact Text.length_tail_lt c rest

def value? (entities : Entities) : (text : List Char) → Option (List Char × Shorter text)
  | [] => none
  | quote :: text =>
      if quote = '"' || quote = '\'' then
        match valueFrom? entities quote [] text with
        | none => none
        | some (value, ⟨rest, hrest⟩) => some (value, ⟨rest, Nat.lt_succ_of_le hrest⟩)
      else
        none

/-- What follows the character `c` behind white space. -/
def sign? (c : Char) (text : List Char) : Option (Shorter text) :=
  let ⟨next, hnext⟩ := Text.skip isSpace text
  match Text.char? c next with
  | none => none
  | some ⟨rest, hrest⟩ => some ⟨rest, Text.length_lt_of_le_of_lt hnext hrest⟩

/-- A name, an equals sign and a value, with white space around the sign. -/
def assignment? (entities : Entities) (text : List Char) :
    Option (Name × List Char × Shorter text) :=
  match name? text with
  | none => none
  | some (name, ⟨afterName, hname⟩) =>
      match sign? '=' afterName with
      | none => none
      | some ⟨afterSign, hsign⟩ =>
          let ⟨quoted, hquoted⟩ := Text.skip isSpace afterSign
          match value? entities quoted with
          | none => none
          | some (value, ⟨rest, hrest⟩) =>
              have hsigned := Text.length_lt_trans hname hsign
              have hlt := Text.length_lt_of_lt_of_le hsigned hquoted
              some (name, value, ⟨rest, Text.length_lt_trans hlt hrest⟩)

end Xml
end OfficePictures
