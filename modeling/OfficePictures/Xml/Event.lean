import OfficePictures.Xml.Value

/-!
# Event — the markup of a document, one piece after the other

`Event.scan?` cuts a document into its tags.  Comments, processing instructions and white space
leave no event.  Other text leaves an event without its characters, since only its place matters:
text is not allowed outside elements.

Entities stand for text here, and a declaration of one that holds markup is passed over; documents
with such entities need another reader.
-/

namespace OfficePictures
namespace Xml

open Text (Rest Shorter)

/-- A piece of markup. -/
inductive Event
  | openTag (name : Name) (attributes : List (Name × List Char)) (isEmpty : Bool)
  | closeTag (name : Name)
  | text
  | doctype
  deriving DecidableEq, Repr

/-! ## Tags -/

/-- The end of a start tag, and whether the tag is that of an empty element. -/
def tagEnd? (text : List Char) : Option (Bool × Rest text) :=
  match Text.after? ['/', '>'] text with
  | some rest => some (true, rest)
  | none => (Text.after? ['>'] text).map (false, ·)

/-- The rest of a start tag behind its name: the attributes, in reverse after `done`, and whether
the tag is that of an empty element.  Only declarations of namespaces may be repeated. -/
def attributes? (entities : Entities) (done : List (Name × List Char)) (text : List Char) :
    Option (List (Name × List Char) × Bool × Rest text) :=
  let ⟨next, hnext⟩ := Text.skip isSpace text
  match tagEnd? next with
  | some (isEmpty, ⟨rest, hrest⟩) =>
      some (done.reverse, isEmpty, ⟨rest, Text.length_le_trans hnext hrest⟩)
  | none =>
      -- White space keeps an attribute apart from what is in front of it.
      if next.length = text.length then
        none
      else
        match assignment? entities next with
        | none => none
        | some (name, value, ⟨rest, hrest⟩) =>
            have hshort := Text.length_lt_of_le_of_lt hnext hrest
            if !name.isDeclaration && done.any (·.1 = name) then
              none
            else
              match attributes? entities ((name, value) :: done) rest with
              | none => none
              | some (attributes, isEmpty, ⟨last, hlast⟩) =>
                  have hlt := Text.length_lt_of_lt_of_le hshort hlast
                  some (attributes, isEmpty, ⟨last, Text.length_le_of_lt hlt⟩)
termination_by text.length
decreasing_by exact hshort

def openTag? (entities : Entities) (text : List Char) : Option (Event × Rest text) :=
  match name? text with
  | none => none
  | some (name, ⟨rest, hrest⟩) =>
      match attributes? entities [] rest with
      | none => none
      | some (attributes, isEmpty, ⟨last, hlast⟩) =>
          have hlt := Text.length_lt_of_lt_of_le hrest hlast
          some (.openTag name attributes isEmpty, ⟨last, Text.length_le_of_lt hlt⟩)

def closeTag? (text : List Char) : Option (Event × Rest text) :=
  match name? text with
  | none => none
  | some (name, ⟨afterName, hname⟩) =>
      match sign? '>' afterName with
      | none => none
      | some ⟨rest, hrest⟩ =>
          have hlt := Text.length_lt_trans hname hrest
          some (.closeTag name, ⟨rest, Text.length_le_of_lt hlt⟩)

/-! ## Markup without events -/

/-- What follows a comment whose start has been read; two hyphens only end it. -/
def afterComment? (text : List Char) : Option (Rest text) :=
  match Text.before? ['-', '-'] text with
  | none => none
  | some (comment, ⟨next, hnext⟩) =>
      match Text.after? ['>'] next with
      | none => none
      | some ⟨rest, hrest⟩ =>
          if comment.all isChar then some ⟨rest, Text.length_le_trans hnext hrest⟩ else none

/-- What follows a processing instruction whose start has been read; its name is not that of the
declaration. -/
def afterInstruction? (text : List Char) : Option (Rest text) :=
  match word? text with
  | none => none
  | some (name, ⟨next, hnext⟩) =>
      if name.map Char.toLower = ['x', 'm', 'l'] then
        none
      else if !((Text.after? ['?', '>'] next).isSome || next.head?.any isSpace) then
        none
      else
        match Text.before? ['?', '>'] next with
        | none => none
        | some (content, ⟨rest, hrest⟩) =>
            have hlt := Text.length_lt_of_lt_of_le hnext hrest
            if content.all isChar then some ⟨rest, Text.length_le_of_lt hlt⟩ else none

/-- The assignments of a declaration up to its end. -/
def declarationParts? (done : List (Name × List Char)) (text : List Char) :
    Option (List (Name × List Char) × Rest text) :=
  let ⟨next, hnext⟩ := Text.skip isSpace text
  match Text.after? ['?', '>'] next with
  | some ⟨rest, hrest⟩ => some (done.reverse, ⟨rest, Text.length_le_trans hnext hrest⟩)
  | none =>
      -- Assignments are set apart by white space.
      if next.length = text.length then
        none
      else
        match assignment? [] next with
        | none => none
        | some (name, value, ⟨rest, hrest⟩) =>
            have hshort := Text.length_lt_of_le_of_lt hnext hrest
            match declarationParts? ((name, value) :: done) rest with
            | none => none
            | some (parts, ⟨last, hlast⟩) =>
                have hlt := Text.length_lt_of_lt_of_le hshort hlast
                some (parts, ⟨last, Text.length_le_of_lt hlt⟩)
termination_by text.length
decreasing_by exact hshort

/-- What the declaration of a document tells: the name of its encoding. -/
structure Declaration where
  encoding : Option (List Char)
  deriving DecidableEq, Repr

/-- The declaration with the given assignments: the version, then possibly the encoding, then
possibly whether the document stands alone. -/
def Declaration.ofParts? (parts : List (Name × List Char)) : Option Declaration :=
  let named := parts.map fun (name, value) =>
    (if name.space = none then String.ofList name.localName else "", String.ofList value)
  let fits (version : String) := version = "1.0" || version = "1.1"
  let alone (answer : String) := answer = "yes" || answer = "no"
  match named with
  | [("version", v)] => if fits v then some ⟨none⟩ else none
  | [("version", v), ("encoding", e)] => if fits v then some ⟨some e.toList⟩ else none
  | [("version", v), ("standalone", s)] => if fits v && alone s then some ⟨none⟩ else none
  | [("version", v), ("encoding", e), ("standalone", s)] =>
      if fits v && alone s then some ⟨some e.toList⟩ else none
  | _ => none

/-- The declaration at the start of a document and what follows it; a document without one is left
as it is. -/
def declaration? (text : List Char) : Option (Declaration × Rest text) :=
  match Text.after? ['<', '?', 'x', 'm', 'l'] text with
  | none => some (⟨none⟩, Rest.all text)
  | some ⟨next, hnext⟩ =>
      if next.head?.any isSpace then
        match declarationParts? [] next with
        | none => none
        | some (parts, ⟨rest, hrest⟩) =>
            (Declaration.ofParts? parts).map (·, ⟨rest, Text.length_le_trans hnext hrest⟩)
      else
        some (⟨none⟩, Rest.all text)

/-! ## Document types -/

/-- The entity that a declaration between `<!ENTITY` and its end gives: a name and a quoted text. -/
def entity? (declaration : List Char) : Option (List Char × List Char) := do
  let ⟨spelled, _⟩ := Text.skip isSpace declaration
  let (name, ⟨rest, _⟩) ← word? spelled
  let ⟨quoted, _⟩ := Text.skip isSpace rest
  let (value, _) ← value? [] quoted
  return (name, value)

/-- What follows a document type whose keyword has been read, and the entities it declares; texts in
quotes and comments may hold any characters. -/
def afterDoctype? (entities : Entities) (text : List Char) : Option (Entities × Rest text) :=
  match text with
  | [] => none
  | c :: rest =>
      let goOn (entities : Entities) (next : Rest rest) : Option (Entities × Rest (c :: rest)) :=
        match afterDoctype? entities next.val with
        | none => none
        | some (entities, ⟨last, hlast⟩) =>
            have hle := Text.length_le_trans next.property hlast
            some (entities, ⟨last, Text.length_le_cons c hle⟩)
      if c = '>' then
        some (entities, ⟨rest, Text.length_tail_le c rest⟩)
      else if c = '"' || c = '\'' then
        (Text.before? [c] rest).bind fun (_, next) => goOn entities next
      else if c = '<' then
        match Text.after? ['!', '-', '-'] rest with
        | some ⟨comment, hcomment⟩ =>
            (afterComment? comment).bind fun ⟨next, hnext⟩ =>
              goOn entities ⟨next, Text.length_le_trans hcomment hnext⟩
        | none =>
            (Text.before? ['>'] rest).bind fun (declaration, next) =>
              match Text.after? "!ENTITY".toList declaration with
              | some ⟨body, _⟩ => goOn (entities ++ (entity? body).toList) next
              | none => goOn entities next
      else
        goOn entities (Rest.all rest)
termination_by text.length
decreasing_by exact Text.length_lt_cons c next.property

/-! ## Documents -/

/-- The next piece of a document behind an opening bracket: the event it leaves, if any, the
entities known after it, and what follows. -/
def markup? (entities : Entities) (text : List Char) :
    Option (List Event × Entities × Rest text) :=
  match Text.after? ['!', '-', '-'] text with
  | some ⟨comment, hcomment⟩ =>
      (afterComment? comment).map fun ⟨rest, hrest⟩ =>
        ([], entities, ⟨rest, Text.length_le_trans hcomment hrest⟩)
  | none =>
  match Text.after? "![CDATA[".toList text with
  | some ⟨data, hdata⟩ =>
      (Text.before? [']', ']', '>'] data).bind fun (content, ⟨rest, hrest⟩) =>
        if content.all isChar then
          some ([.text], entities, ⟨rest, Text.length_le_trans hdata hrest⟩)
        else
          none
  | none =>
  match Text.after? "!DOCTYPE".toList text with
  | some ⟨type, htype⟩ =>
      (afterDoctype? entities type).map fun (entities, ⟨rest, hrest⟩) =>
        ([.doctype], entities, ⟨rest, Text.length_le_trans htype hrest⟩)
  | none =>
  match Text.after? ['?'] text with
  | some ⟨instruction, hinstruction⟩ =>
      (afterInstruction? instruction).map fun ⟨rest, hrest⟩ =>
        ([], entities, ⟨rest, Text.length_le_trans hinstruction hrest⟩)
  | none =>
  match Text.after? ['/'] text with
  | some ⟨tag, htag⟩ =>
      (closeTag? tag).map fun (event, ⟨rest, hrest⟩) =>
        ([event], entities, ⟨rest, Text.length_le_trans htag hrest⟩)
  | none =>
      (openTag? entities text).map fun (event, rest) => ([event], entities, rest)

/-- The events of a document behind its declaration; `done` are those read before, the last one
first. -/
def eventsFrom? (entities : Entities) (done : List Event) (text : List Char) :
    Option (List Event) :=
  match text with
  | [] => some done.reverse
  | '<' :: rest =>
      match markup? entities rest with
      | none => none
      | some (events, entities, ⟨next, _hnext⟩) =>
          eventsFrom? entities (events.reverse ++ done) next
  | '&' :: rest =>
      match reference? entities rest with
      | none => none
      | some (_, ⟨next, _hnext⟩) => eventsFrom? entities (.text :: done) next
  | c :: rest =>
      -- The end of a data section must not stand in text.
      if (Text.after? [']', ']', '>'] (c :: rest)).isSome || !isChar c then none
      else if isSpace c then eventsFrom? entities done rest
      else eventsFrom? entities (.text :: done) rest
termination_by text.length
decreasing_by
  all_goals
    simp only [List.length_cons]
    omega

def Event.scan? (document : List Char) : Option (List Event) :=
  match declaration? document with
  | none => none
  | some (_, ⟨body, _⟩) => eventsFrom? [] [] body

end Xml
end OfficePictures
