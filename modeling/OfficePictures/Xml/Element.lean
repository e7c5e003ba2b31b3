/-!
# Element — the elements of a document

Elements have a local name, the namespace that is in force for them, the values of their attributes
by local name, and the elements inside them.
-/

namespace OfficePictures
namespace Xml

/-- An element. -/
inductive Element
  | mk (localName : String) (space : Option String) (attributes : List (String × String))
      (children : List Element)

namespace Element

def localName : Element → String
  | mk localName _ _ _ => localName

def space : Element → Option String
  | mk _ space _ _ => space

/-- The attributes of an element by local name, in the order of the document. -/
def attributes : Element → List (String × String)
  | mk _ _ attributes _ => attributes

def children : Element → List Element
  | mk _ _ _ children => children

/-- The value of an attribute; of several with one local name the last counts. -/
def attribute? (element : Element) (name : String) : Option String :=
  element.attributes.reverse.lookup name

/-- Whether an element has the given local name and, if one is given, the given namespace. -/
def isNamed (element : Element) (name : String) (expected : Option String) : Bool :=
  element.localName = name && (expected = none || element.space = expected)

/-- The elements directly inside an element that have the given name and namespace. -/
def childrenNamed (element : Element) (name : String) (expected : Option String) : List Element :=
  element.children.filter (·.isNamed name expected)

end Element

end Xml
end OfficePictures
