import OfficePictures.Text.Utf16
import OfficePictures.Text.Utf8
import OfficePictures.Xml.Element
import OfficePictures.Xml.Event

/-!
# Tree — the tree of a document

`Element.ofEvents?` builds the trees of a sequence of events, and `Element.parse?` reads a document
from its bytes; of several outermost elements the first is the document's.
-/

namespace OfficePictures
namespace Xml

/-! ## Namespaces -/

/-- The namespaces in force, by abbreviation; the one without abbreviation stands under `none`. -/
abbrev Spaces := List (Option (List Char) × List Char)

/-- The namespace of the names that begin with `xml`. -/
def xmlSpace : List Char := "http://www.w3.org/XML/1998/namespace".toList

def declaringSpace : List Char := "http://www.w3.org/2000/xmlns/".toList

def initialSpaces : Spaces :=
  [(none, []), (some "xml".toList, xmlSpace), (some declaring, declaringSpace)]

/-- The declaration that an attribute is, if it is one; the outer `none` stands for one that is not
allowed. -/
def declared? (name : Name) (value : List Char) :
    Option (Option (Option (List Char) × List Char)) :=
  if name.space = some declaring then
    if name.localName = declaring ∨ value = [] ∨
        name.localName = "xml".toList ∧ value ≠ xmlSpace then
      none
    else
      some (some (some name.localName, value))
  else if name.space = none ∧ name.localName = declaring then
    if [declaring, "xml".toList, xmlSpace, declaringSpace].contains value then none
    else some (some (none, value))
  else
    some none

/-- The namespaces and the attributes of a start tag in the namespaces around it. -/
def tagParts? (spaces : Spaces) :
    List (Name × List Char) → Option (Spaces × List (Name × List Char))
  | [] => some ([], [])
  | (name, value) :: rest => do
      let declaration ← declared? name value
      let (declarations, attributes) ← tagParts? spaces rest
      match declaration with
      | some declaration => return (declaration :: declarations, attributes)
      | none => return (declarations, (name, value) :: attributes)

/-- The namespace of a name; an abbreviation has to be declared. -/
def spaceOf? (spaces : Spaces) (name : Name) : Option (Option (List Char)) :=
  (spaces.lookup name.space).map fun space => if space = [] then none else some space

/-! ## Trees -/

/-- An element whose end tag has not come yet: its name, the namespaces inside it, and what is known
of the element, with the children in reverse. -/
structure OpenElement where
  name : Name
  spaces : Spaces
  localName : String
  space : Option String
  attributes : List (String × String)
  children : List Element

/-- The element, closed. -/
def OpenElement.close (element : OpenElement) : Element :=
  .mk element.localName element.space element.attributes element.children.reverse

/-- The element of a start tag in the given namespaces. -/
def openElement? (spaces : Spaces) (name : Name) (attributes : List (Name × List Char)) :
    Option OpenElement := do
  let (declarations, attributes) ← tagParts? spaces attributes
  -- The declarations of a tag are in force for the tag itself, the first of a kind winning.
  let spaces := declarations ++ spaces
  guard (name.space ≠ some "xml".toList ∧ name.space ≠ some declaring)
  let space ← spaceOf? spaces name
  guard (attributes.all fun (name, _) => name.space = none || (spaces.lookup name.space).isSome)
  return {
    name, spaces
    localName := String.ofList name.localName
    space := space.map String.ofList
    attributes := attributes.map fun (name, value) =>
      (String.ofList name.localName, String.ofList value)
    children := [] }

/-- The outermost elements of a sequence of events.  `stack` holds the elements that are open, the
innermost first, and `roots` the outermost elements that are closed, in reverse. -/
def elementsFrom? (stack : List OpenElement) (roots : List Element) (doctypeAllowed : Bool) :
    List Event → Option (List Element)
  | [] => if stack.isEmpty then some roots.reverse else none
  | .text :: events =>
      -- Text only stands inside an element.
      if stack.isEmpty then none else elementsFrom? stack roots doctypeAllowed events
  | .doctype :: events =>
      -- There is one document type at most, in front of all elements.
      if doctypeAllowed then elementsFrom? stack roots false events else none
  | .openTag name attributes isEmpty :: events =>
      let spaces := (stack.head?.map (·.spaces)).getD initialSpaces
      match openElement? spaces name attributes with
      | none => none
      | some element =>
          if isEmpty then
            match stack with
            | [] => elementsFrom? [] (element.close :: roots) false events
            | outer :: stack =>
                elementsFrom? ({ outer with children := element.close :: outer.children } :: stack)
                  roots false events
          else
            elementsFrom? (element :: stack) roots false events
  | .closeTag name :: events =>
      match stack with
      | [] => none
      | element :: stack =>
          if element.name ≠ name then
            none
          else
            match stack with
            | [] => elementsFrom? [] (element.close :: roots) false events
            | outer :: stack =>
                elementsFrom? ({ outer with children := element.close :: outer.children } :: stack)
                  roots false events

/-- The first outermost element of a sequence of events. -/
def Element.ofEvents? (events : List Event) : Option Element :=
  (elementsFrom? [] [] true events).bind List.head?

/-! ## Bytes -/

/-- The units of a document in 16-bit units, `first` being the place of the high byte. -/
def wideUnits (highFirst : Bool) : Bytes → Option (List Nat)
  | [] => some []
  | [_] => none
  | a :: b :: rest =>
      let unit := if highFirst then Bytes.toNat [b, a] else Bytes.toNat [a, b]
      (wideUnits highFirst rest).map (unit :: ·)

/-- The encoding that a document declares, in lower case. -/
def declaredEncoding? (text : List Char) : Option (Option String) :=
  (declaration? text).map fun (declaration, _) =>
    declaration.encoding.map fun name => String.ofList (name.map Char.toLower)

/-- The text, if the encoding it declares is one of `allowed` or none. -/
def declaring? (allowed : List String) (text : List Char) : Option (List Char) := do
  match ← declaredEncoding? text with
  | none => return text
  | some name => if allowed.contains name then return text else none

/-- The text of a document.  A byte order mark decides the encoding; otherwise it is UTF-8, or the
one that the document declares. -/
def decode? (bytes : Bytes) : Option (List Char) :=
  match bytes with
  | 0xEF :: 0xBB :: 0xBF :: rest =>
      (Text.Utf8.decodeStrict? rest).bind (declaring? ["utf-8", "utf8"])
  | 0xFE :: 0xFF :: rest =>
      ((wideUnits true rest).bind Text.Utf16.decode?).bind (declaring? ["utf-16"])
  | 0xFF :: 0xFE :: rest =>
      ((wideUnits false rest).bind Text.Utf16.decode?).bind (declaring? ["utf-16"])
  | _ => do
      -- A declaration is ASCII, so it can be read before the encoding is known.
      let narrow := bytes.map fun b => Char.ofNat b.toNat
      match ← declaredEncoding? narrow with
      | none => Text.Utf8.decodeStrict? bytes
      | some "utf-8" | some "utf8" => Text.Utf8.decodeStrict? bytes
      | some "iso-8859-1" | some "latin1" => return narrow
      | some "us-ascii" | some "ascii" =>
          if bytes.all (· < 0x80) then return narrow else none
      | some _ => none

def normalizeLines : List Char → List Char
  | [] => []
  | '\r' :: '\n' :: rest => '\n' :: normalizeLines rest
  | '\r' :: rest => '\n' :: normalizeLines rest
  | c :: rest => c :: normalizeLines rest

def Element.parse? (bytes : Bytes) : Option Element := do
  let text ← decode? bytes
  let events ← Event.scan? (normalizeLines text)
  Element.ofEvents? events

end Xml
end OfficePictures
