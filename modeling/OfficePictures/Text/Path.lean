import OfficePictures.Text.Segments

/-!
# Path — going along a path

A path is a text with slashes.  Going along it from a place, empty segments and single dots stay
where they are, two dots go back by one, and any other segment goes on.  There is nothing in front
of the root, so a path that goes back from there leads nowhere.
-/

namespace OfficePictures
namespace Text

def step? (place : List (List Char)) (segment : List Char) : Option (List (List Char)) :=
  if segment = [] ∨ segment = ['.'] then some place
  else if segment = ['.', '.'] then if place = [] then none else some place.dropLast
  else some (place ++ [segment])

def follow? (place : List (List Char)) (path : List Char) : Option (List (List Char)) :=
  (split '/' path).foldlM step? place

end Text
end OfficePictures
