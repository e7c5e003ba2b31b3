import OfficePictures.Json.Value
import OfficePictures.Text.Reading

/-!
# Reader — reading JSON

`Json.parse?` reads a text that is one value with white space around it.  Each reader gives what it
read and what is left of the text; numbers have no leading zeros, strings no raw characters below
the space, and there is no comma behind the last item.
-/

namespace OfficePictures
namespace Json

open Text (Rest Shorter)

/-- White space between the parts of a value. -/
def isSpace (c : Char) : Bool :=
  c = ' ' || c = '\t' || c = '\n' || c = '\r'

/-! ## Numbers -/

/-- The digits at the start of a text; there is at least one. -/
def digits? : (text : List Char) → Option (List Char × Shorter text)
  | [] => none
  | c :: rest =>
      if c.isDigit then
        some (c :: rest.takeWhile Char.isDigit,
          ⟨rest.dropWhile Char.isDigit,
            Nat.lt_succ_of_le (Text.length_dropWhile_le Char.isDigit rest)⟩)
      else
        none

def whole? (text : List Char) : Option (List Char × Shorter text) :=
  match digits? text with
  | none => none
  | some (digits, rest) =>
      -- A leading zero stands alone.
      if digits.head? = some '0' ∧ digits ≠ ['0'] then none else some (digits, rest)

/-- The point and the digits behind it, if there is a point. -/
def fraction? (text : List Char) : Option (List Char × Rest text) :=
  match Text.char? '.' text with
  | none => some ([], Rest.all text)
  | some ⟨afterPoint, hpoint⟩ =>
      match digits? afterPoint with
      | none => none
      | some (digits, ⟨rest, hrest⟩) =>
          have hlt := Text.length_lt_trans hpoint hrest
          some ('.' :: digits, ⟨rest, Text.length_le_of_lt hlt⟩)

/-- The sign in front of the digits of an exponent. -/
def exponentSign : (text : List Char) → List Char × Rest text
  | '+' :: rest => (['+'], ⟨rest, Nat.le_succ _⟩)
  | '-' :: rest => (['-'], ⟨rest, Nat.le_succ _⟩)
  | text => ([], Rest.all text)

/-- The exponent, if there is one. -/
def exponent? : (text : List Char) → Option (List Char × Rest text)
  | [] => some ([], Rest.all [])
  | c :: rest =>
      if c = 'e' || c = 'E' then
        let (sign, ⟨afterSign, hsign⟩) := exponentSign rest
        match digits? afterSign with
        | none => none
        | some (digits, ⟨last, hlast⟩) =>
            have hlt := Text.length_lt_of_le_of_lt hsign hlast
            have hle := Text.length_le_of_lt hlt
            some (c :: sign ++ digits, ⟨last, Text.length_le_cons c hle⟩)
      else
        some ([], Rest.all (c :: rest))

def unsigned? (text : List Char) : Option (List Char × Shorter text) :=
  match whole? text with
  | none => none
  | some (whole, ⟨afterWhole, hwhole⟩) =>
      match fraction? afterWhole with
      | none => none
      | some (fraction, ⟨afterFraction, hfraction⟩) =>
          match exponent? afterFraction with
          | none => none
          | some (exponent, ⟨rest, hrest⟩) =>
              have hle := Text.length_le_trans hfraction hrest
              some (whole ++ fraction ++ exponent, ⟨rest, Text.length_lt_of_lt_of_le hwhole hle⟩)

def number? (text : List Char) : Option (List Char × Shorter text) :=
  match Text.char? '-' text with
  | none => unsigned? text
  | some ⟨afterSign, hsign⟩ =>
      match unsigned? afterSign with
      | none => none
      | some (literal, ⟨rest, hrest⟩) =>
          some ('-' :: literal, ⟨rest, Text.length_lt_trans hsign hrest⟩)

/-! ## Strings -/

/-- What a backslash and the character behind it stand for, where they stand for a character. -/
def shortEscape? (c : Char) : Option Nat :=
  match c with
  | '"' => some 0x22
  | '\\' => some 0x5C
  | '/' => some 0x2F
  | 'b' => some 0x08
  | 'f' => some 0x0C
  | 'n' => some 0x0A
  | 'r' => some 0x0D
  | 't' => some 0x09
  | _ => none

def escape? : (text : List Char) → Option (Nat × Shorter text)
  | 'u' :: a :: b :: c :: d :: rest => do
      let a ← Text.hexDigit? a
      let b ← Text.hexDigit? b
      let c ← Text.hexDigit? c
      let d ← Text.hexDigit? d
      return (((a * 16 + b) * 16 + c) * 16 + d, ⟨rest, by simp only [List.length_cons]; omega⟩)
  | c :: rest => (shortEscape? c).map (·, ⟨rest, Text.length_tail_lt c rest⟩)
  | [] => none

def stringFrom? (text : List Char) : Option (List Nat × Shorter text) :=
  match text with
  | [] => none
  | c :: rest =>
      if c = '"' then
        some ([], ⟨rest, Text.length_tail_lt c rest⟩)
      else if c = '\\' then
        match escape? rest with
        | none => none
        | some (code, ⟨next, hnext⟩) =>
            match stringFrom? next with
            | none => none
            | some (codes, ⟨last, hlast⟩) =>
                have hlt := Text.length_lt_trans hnext hlast
                have hle := Text.length_le_of_lt hlt
                some (code :: codes, ⟨last, Text.length_lt_cons c hle⟩)
      else if c.toNat < 0x20 then
        -- A control character has to be escaped.
        none
      else
        match stringFrom? rest with
        | none => none
        | some (codes, ⟨last, hlast⟩) =>
            have hle := Text.length_le_of_lt hlast
            some (c.toNat :: codes, ⟨last, Text.length_lt_cons c hle⟩)
termination_by text.length
decreasing_by
  all_goals
    simp only [List.length_cons]
    omega

/-- What follows the character `c` behind white space. -/
def sign? (c : Char) (text : List Char) : Option (Shorter text) :=
  let ⟨next, hnext⟩ := Text.skip isSpace text
  match Text.char? c next with
  | none => none
  | some ⟨rest, hrest⟩ => some ⟨rest, Text.length_lt_of_le_of_lt hnext hrest⟩

def string? (text : List Char) : Option (List Nat × Shorter text) :=
  match sign? '"' text with
  | none => none
  | some ⟨inside, hinside⟩ =>
      match stringFrom? inside with
      | none => none
      | some (codes, ⟨rest, hrest⟩) => some (codes, ⟨rest, Text.length_lt_trans hinside hrest⟩)

def name? (text : List Char) : Option (List Nat × Shorter text) :=
  match string? text with
  | none => none
  | some (name, ⟨afterName, hname⟩) =>
      match sign? ':' afterName with
      | none => none
      | some ⟨rest, hrest⟩ => some (name, ⟨rest, Text.length_lt_trans hname hrest⟩)

/-! ## Values -/

def word? : (text : List Char) → Option (Json × Shorter text)
  | 'n' :: 'u' :: 'l' :: 'l' :: rest =>
      some (null, ⟨rest, by simp only [List.length_cons]; omega⟩)
  | 't' :: 'r' :: 'u' :: 'e' :: rest =>
      some (bool true, ⟨rest, by simp only [List.length_cons]; omega⟩)
  | 'f' :: 'a' :: 'l' :: 's' :: 'e' :: rest =>
      some (bool false, ⟨rest, by simp only [List.length_cons]; omega⟩)
  | _ => none

def plain? (text : List Char) : Option (Json × Shorter text) :=
  match word? text with
  | some value => some value
  | none => (number? text).map fun (literal, rest) => (number literal, rest)

/-- A string, a word or a number behind white space. -/
def scalar? (text : List Char) : Option (Json × Shorter text) :=
  match string? text with
  | some (codes, rest) => some (string codes, rest)
  | none =>
      let ⟨start, hstart⟩ := Text.skip isSpace text
      match plain? start with
      | none => none
      | some (value, ⟨rest, hrest⟩) => some (value, ⟨rest, Text.length_lt_of_le_of_lt hstart hrest⟩)

mutual

/-- The value at the start of a text, behind white space. -/
def value? (text : List Char) : Option (Json × Shorter text) :=
  match sign? '[' text with
  | some ⟨inside, hinside⟩ =>
      match sign? ']' inside with
      | some ⟨rest, hrest⟩ => some (array [], ⟨rest, Text.length_lt_trans hinside hrest⟩)
      | none =>
          match items? inside with
          | none => none
          | some (items, ⟨rest, hrest⟩) =>
              some (array items, ⟨rest, Text.length_lt_trans hinside hrest⟩)
  | none =>
  match sign? '{' text with
  | some ⟨inside, hinside⟩ =>
      match sign? '}' inside with
      | some ⟨rest, hrest⟩ => some (object [], ⟨rest, Text.length_lt_trans hinside hrest⟩)
      | none =>
          match members? inside with
          | none => none
          | some (members, ⟨rest, hrest⟩) =>
              some (object members, ⟨rest, Text.length_lt_trans hinside hrest⟩)
  | none => scalar? text
-- The lists are only read behind a bracket; they read a value where they begin themselves.
termination_by (text.length, 0)
decreasing_by
  · exact Prod.Lex.left _ _ hinside
  · exact Prod.Lex.left _ _ hinside

def items? (text : List Char) : Option (List Json × Shorter text) :=
  match value? text with
  | none => none
  | some (item, ⟨next, hnext⟩) =>
      match sign? ']' next with
      | some ⟨rest, hrest⟩ => some ([item], ⟨rest, Text.length_lt_trans hnext hrest⟩)
      | none =>
          match sign? ',' next with
          | none => none
          | some ⟨more, hmore⟩ =>
              have hshort := Text.length_lt_trans hnext hmore
              -- Behind a comma there has to be another item.
              match items? more with
              | none => none
              | some (items, ⟨rest, hrest⟩) =>
                  some (item :: items, ⟨rest, Text.length_lt_trans hshort hrest⟩)
termination_by (text.length, 1)
decreasing_by
  · exact Prod.Lex.right _ Nat.zero_lt_one
  · exact Prod.Lex.left _ _ hshort

def members? (text : List Char) : Option (List (List Nat × Json) × Shorter text) :=
  match name? text with
  | none => none
  | some (name, ⟨afterName, hname⟩) =>
      match value? afterName with
      | none => none
      | some (value, ⟨next, hvalue⟩) =>
          have hnext := Text.length_lt_trans hname hvalue
          match sign? '}' next with
          | some ⟨rest, hrest⟩ => some ([(name, value)], ⟨rest, Text.length_lt_trans hnext hrest⟩)
          | none =>
              match sign? ',' next with
              | none => none
              | some ⟨more, hmore⟩ =>
                  have hshort := Text.length_lt_trans hnext hmore
                  match members? more with
                  | none => none
                  | some (members, ⟨rest, hrest⟩) =>
                      some ((name, value) :: members,
                        ⟨rest, Text.length_lt_trans hshort hrest⟩)
termination_by (text.length, 1)
decreasing_by
  · exact Prod.Lex.left _ _ hname
  · exact Prod.Lex.left _ _ hshort

end

def parse? (text : List Char) : Option Json :=
  match value? text with
  | none => none
  | some (value, ⟨rest, _⟩) => if rest.all isSpace then some value else none

end Json
end OfficePictures
